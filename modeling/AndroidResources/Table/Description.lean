import AndroidResources.Json.Record
import AndroidResources.Json.Reader
import AndroidResources.Table.Builder

/-!
# Table descriptions

The JSON form of a table: packages with their resources in text form, one description for each definition.
An id is a number, or a text in decimal or behind `0x` in hexadecimal.
-/
namespace AndroidResources

/-- An entry of a bag in text form; without a key it takes the next array position. -/
structure BagItem where
  key : String
  value : String
  deriving DecidableEq

/-- One definition of a resource in text form. -/
structure ResourceDescription where
  id : ResourceId
  name : String
  configuration : String := ""
  value : Option String := none
  parent : Option String := none
  bag : Option (List BagItem) := none
  items : Option (List String) := none
  deriving DecidableEq

/-- A package with the definitions in it. -/
structure PackageDescription where
  id : UInt8
  name : String
  resources : List ResourceDescription := []
  deriving DecidableEq

/-- A table in text form. -/
structure TableDescription where
  packages : List PackageDescription := []
  deriving DecidableEq, Inhabited

/-! ## Reading -/

/-- The number behind an id's text. -/
def idOfText? (s : String) : Option Nat :=
  match Text.afterHexMark? s.toList with
  | some digits => Text.afterPlus? Text.hexNumber? digits
  | none => Text.afterPlus? Text.decimalNumber? s.toList

/-- An id below a bound. -/
def idBelow? (bound : Nat) (j : Json) : Option Nat :=
  let n := match j with
    | .integer (.ofNat n) => some n
    | .string s => idOfText? s
    | _ => none
  n.filter (· < bound)

def BagItem.ofJson? (j : Json) : Option BagItem := do
  match ← j.record? ["key","value"] with
  | [key,value] => some ⟨← Json.optional? Json.toText? "" key,← Json.required? Json.toText? value⟩
  | _ => none

def ResourceDescription.ofJson? (j : Json) : Option ResourceDescription := do
  match ← j.record? ["id","name","config","value","parent","bag","items"] with
  | [id,name,configuration,value,parent,bag,items] =>
    some {
      id := .ofNat (← Json.required? (idBelow? UInt32.size) id)
      name := ← Json.required? Json.toText? name
      configuration := ← Json.optional? Json.toText? "" configuration
      value := ← Json.optional? (Json.nullable? Json.toText?) none value
      parent := ← Json.optional? (Json.nullable? Json.toText?) none parent
      bag := ← Json.optional? (Json.nullable? (Json.toList? BagItem.ofJson?)) none bag
      items := ← Json.optional? (Json.nullable? (Json.toList? Json.toText?)) none items }
  | _ => none

def PackageDescription.ofJson? (j : Json) : Option PackageDescription := do
  match ← j.record? ["id","name","resources"] with
  | [id,name,resources] =>
    some {
      id := .ofNat (← Json.required? (idBelow? UInt8.size) id)
      name := ← Json.required? Json.toText? name
      resources := ← Json.optional? (Json.toList? ResourceDescription.ofJson?) [] resources }
  | _ => none

/-- The packages of a description. -/
def packagesOf? (member : Option Json) : Option (List PackageDescription) :=
  Json.optional? (Json.toList? PackageDescription.ofJson?) [] member

def TableDescription.ofJson? (j : Json) : Option TableDescription := do
  match ← j.record? ["packages"] with
  | [packages] => some ⟨← packagesOf? packages⟩
  | _ => none

/-- Reads a description. -/
def TableDescription.ofText (s : String) : Except TableError TableDescription :=
  match (Json.parse? s).bind TableDescription.ofJson? with
  | some description => .ok description
  | none => .error .malformedDescription

/-! ## Writing -/

def BagItem.toJson (item : BagItem) : Json :=
  .object [("key",.string item.key),("value",.string item.value)]

/-- A member that is left out when there is nothing to write. -/
def memberIf {α : Type} (name : String) (write : α → Json) : Option α → List (String × Json)
  | none => []
  | some value => [(name,write value)]

def ResourceDescription.toJson (r : ResourceDescription) : Json :=
  .object ([("id",.integer r.id.toNat),("name",.string r.name)] ++
    (if r.configuration = "" then [] else [("config",.string r.configuration)]) ++
    memberIf "value" .string r.value ++
    memberIf "parent" .string r.parent ++
    memberIf "bag" (fun items => .array (items.map BagItem.toJson)) r.bag ++
    memberIf "items" (fun items => .array (items.map .string)) r.items)

def PackageDescription.toJson (p : PackageDescription) : Json :=
  .object [("id",.integer p.id.toNat),("name",.string p.name),
    ("resources",.array (p.resources.map ResourceDescription.toJson))]

/-- The packages of a description as a member. -/
def packagesMember (packages : List PackageDescription) : String × Json :=
  ("packages",.array (packages.map PackageDescription.toJson))

def TableDescription.toJson (d : TableDescription) : Json :=
  .object [packagesMember d.packages]

/-! ## Building -/

/-- Asks a builder for one definition: a value, a bag with or without a parent, or an array. -/
def ResourceDescription.request (b : Builder) (r : ResourceDescription) : Except TableError Builder :=
  match r.value, r.parent, r.bag, r.items with
  | some text, none, none, none => .ok (b.valueFor r.id r.name r.configuration text)
  | none, parent, bag, none =>
    let entries := (bag.getD []).map fun item => (item.key,item.value)
    .ok (b.bagFor r.id r.name r.configuration (parent.getD "") entries)
  | none, none, none, some items =>
    .ok (b.bagFor r.id r.name r.configuration "" (items.map fun item => ("",item)))
  | _, _, _, _ => .error (.invalidValue r.name)

/-- Asks a builder for a package and all that is in it. -/
def PackageDescription.request (b : Builder) (p : PackageDescription) : Except TableError Builder :=
  p.resources.foldlM ResourceDescription.request (b.package p.id p.name)

/-- The described table; its definitions may refer to the names of other tables. -/
def TableDescription.build (d : TableDescription) (imports : List Table) : Except TableError Table := do
  let b ← d.packages.foldlM PackageDescription.request (imports.foldl Builder.importNames {})
  b.build.1

end AndroidResources
