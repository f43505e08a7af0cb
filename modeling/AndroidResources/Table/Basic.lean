import AndroidResources.Configuration.Changes
import AndroidResources.Configuration.Text
import AndroidResources.OrderedMap
import AndroidResources.ResourceId
import AndroidResources.ResourceName
import AndroidResources.StringPool
import AndroidResources.Value.Basic

/-!
# Resource tables

A table has packages, and under each id the definitions of one resource, at most one for each
configuration. Entries of one package and type share the name of the type.
-/
namespace AndroidResources

/-- What a resource is for one configuration: a value, or a bag of keyed values with a parent bag. A
    parent of zero is none. -/
inductive Content where
  | value (v : Value)
  | bag (parent : ResourceId) (entries : List (UInt32 × Value))
  deriving DecidableEq

namespace Content

def isBag : Content → Bool
  | value _ => false
  | bag _ _ => true

/-- The flags of a definition: the lowest bit marks a bag. -/
def flags (c : Content) : Nat := c.isBag.toNat

end Content

/-- One definition of a resource. -/
structure Definition where
  configuration : Configuration
  content : Content
  deriving DecidableEq

/-- All definitions of a resource. -/
structure Entry where
  name : ResourceName
  definitions : List Definition := []
  deriving DecidableEq

/-- The dimensions over which definitions vary, seen from the first one. -/
def variation (definitions : List Definition) : Changes :=
  match definitions with
  | [] => .none
  | first :: _ =>
    definitions.foldl (fun changes d => changes.union (first.configuration.diff d.configuration)) .none

/-- The dimensions over which an entry varies. -/
def Entry.changes (e : Entry) : Changes := variation e.definitions

/-- A resource table. -/
structure Table where
  packages : OrderedMap UInt8 String := {}
  entries : OrderedMap ResourceId Entry := {}
  strings : StringPool := {}
  deriving Inhabited

namespace Table

/-- The definitions of a resource. -/
def entry? (t : Table) (id : ResourceId) : Option Entry :=
  t.entries.get? id

/-- The full name of a resource. -/
def name? (t : Table) (id : ResourceId) : Option ResourceName :=
  (t.entry? id).map Entry.name

/-- The entries of a package in ascending order of their ids. -/
def entriesOf (t : Table) (package : UInt8) : List (ResourceId × Entry) :=
  t.entries.toList.filter fun e => e.1.package = package

/-- The types of a package that have entries, with their names. -/
def typesOf (t : Table) (package : UInt8) : List (UInt8 × String) :=
  (OrderedMap.ofList ((t.entriesOf package).map fun e => (e.1.type,e.2.name.type))).toList

/-- The name of the type that an id has, whether or not the id has an entry. -/
def typeName? (t : Table) (id : ResourceId) : Option String :=
  (t.typesOf id.package).lookup id.type

/-- The first package of a name. -/
def packageNamed? (t : Table) (name : String) : Option UInt8 :=
  (t.packages.toList.find? fun p => p.2 = name).map (·.1)

/-- The id of a name within a package: only the first type of that name is searched. -/
def idIn? (t : Table) (type entry : String) (package : UInt8) : Option ResourceId := do
  let (number,_) ← (t.typesOf package).find? fun named => named.2 = type
  let (id,_) ← (t.entriesOf package).find? fun e => e.1.type = number ∧ e.2.name.entry = entry
  some id

/-- The id of a resource's name. Type and package may be left out of the name where there is another one
    to take; without any package, all of them are searched in the order of their ids. -/
def id? (t : Table) (name : String) (defaultType defaultPackage : Option String) : Option ResourceId :=
  match NameParts.ofText name with
  | .error _ => none
  | .ok parts => do
    let type ← parts.type.or defaultType
    let package := parts.package.or defaultPackage
    let candidates := t.packages.toList.filter fun p => package.all (p.2 = ·)
    candidates.findSome? fun p => t.idIn? type parts.entry p.1

/-- The definitions of all entries, or of all but launcher icons. -/
def definitions (t : Table) (withoutMipmaps : Bool) : List Definition :=
  (t.entries.values.filter fun e => !(withoutMipmaps && e.name.type == "mipmap")).flatMap Entry.definitions

/-- The configurations that something is defined for. -/
def configurations (t : Table) (withoutMipmaps : Bool) : List Configuration :=
  ascendingSet ((t.definitions withoutMipmaps).map Definition.configuration)

/-- The language tags of all locales that something is defined for. -/
def locales (t : Table) : List String :=
  ascendingSet (((t.configurations false).filter Configuration.hasLocale).map Configuration.localeTag)

end Table

end AndroidResources
