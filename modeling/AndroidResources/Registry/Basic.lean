import AndroidResources.Selection
import AndroidResources.Source.Basic

/-!
# Registries

A registry is an ordered list of sources together with the device to resolve resources for. Later sources
win over earlier ones, and all sources that are not of lower priority over those that are.
-/
namespace AndroidResources

/-- Sources and a device. -/
structure Registry where
  sources : List Source := []
  /-- The cookie of the first source. -/
  base : UInt32 := 0
  /-- The device. -/
  primary : Configuration := {}
  /-- Further devices, to take locales from. -/
  others : List Configuration := []
  /-- The locale to take when no device has one with a definition. -/
  defaultLocale : Option Configuration := none
  deriving Inhabited

/-- A source with its place in a registry. -/
structure Placed where
  source : Source
  cookie : Cookie
  rank : Rank

namespace Registry

/-- All devices, the primary one first. -/
def configurations (r : Registry) : List Configuration :=
  r.primary :: r.others

/-! ## Sources -/

/-- The cookie of the source at a position. -/
def cookieAt (r : Registry) (position : Nat) : Cookie :=
  ⟨r.base + .ofNat position⟩

/-- The position of the source that a cookie names. -/
def position? (r : Registry) (c : Cookie) : Option Nat :=
  let position := (c.number - r.base).toNat
  if c.isValid ∧ position < r.sources.length then some position else none

/-- The source that a cookie names. -/
def source? (r : Registry) (c : Cookie) : Option Source :=
  (r.position? c).bind fun position => r.sources[position]?

/-- A source at its position. -/
def placeAt (r : Registry) (s : Source) (position : Nat) : Placed :=
  { source := s
    cookie := r.cookieAt position
    rank := ⟨!s.flags.lowerPriority,position⟩ }

/-- All sources with their places, in order. -/
def placed (r : Registry) : List Placed :=
  r.sources.zipIdx.map fun (s,position) => r.placeAt s position

/-- All sources by rank, those of lower priority first. -/
def byRank (r : Registry) : List Placed :=
  r.placed.filter (!·.rank.preferred) ++ r.placed.filter (·.rank.preferred)

/-! ## Packages -/

/-- Notes a source under each package that it declares. -/
def enlist (index : OrderedMap UInt8 (OrderedMap Rank Placed)) (p : Placed) :
    OrderedMap UInt8 (OrderedMap Rank Placed) :=
  p.source.table.packages.keys.foldl (fun index package =>
    index.insert package (((index.get? package).getD {}).insert p.rank p)) index

/-- The sources of each package, by rank. -/
def index (r : Registry) : OrderedMap UInt8 (OrderedMap Rank Placed) :=
  r.placed.foldl enlist {}

/-- The sources that declare a package, by rank. -/
def sourcesOf (r : Registry) (package : UInt8) : List Placed :=
  match r.index.get? package with
  | none => []
  | some members => members.values

/-- The ids of all packages. -/
def packageIds (r : Registry) : List UInt8 :=
  ascendingSet (r.sources.flatMap fun s => s.table.packages.keys)

/-- All packages, each with the name that its first source gives it. -/
def packages (r : Registry) : List (UInt8 × String) :=
  r.packageIds.filterMap fun id =>
    (r.sources.findSome? fun s => s.table.packages.get? id).map (id,·)

/-- The name of a package in the lowest source that has it and none of the marks. -/
def packageNameWithout? (r : Registry) (marks : SourceFlags) (id : UInt8) : Option String :=
  r.byRank.findSome? fun p => if p.source.flags.intersects marks then none else p.source.table.packages.get? id

/-- The packages of sources that have none of the marks. -/
def packagesWithout (r : Registry) (marks : SourceFlags) : List (UInt8 × String) :=
  r.packageIds.filterMap fun id => (r.packageNameWithout? marks id).map (id,·)

/-- The packages of sources other than overlays and loaders, unless these are asked for. -/
def assignedPackages (r : Registry) (overlays loaders : Bool) : List (UInt8 × String) :=
  r.packagesWithout { overlay := !overlays, loader := !loaders }

/-! ## Names -/

/-- The full name of a resource, in the lowest source that has it. -/
def name? (r : Registry) (id : ResourceId) : Option ResourceName :=
  r.byRank.findSome? fun p => p.source.table.name? id

/-- The full name of a resource as it is written, or nothing. -/
def nameText (r : Registry) (id : ResourceId) : String :=
  ((r.name? id).map ResourceName.text).getD ""

/-- The id of a name, in the last source that has it. -/
def id? (r : Registry) (name : String) (defaultType defaultPackage : Option String) : Option ResourceId :=
  r.sources.reverse.findSome? fun s => s.table.id? name defaultType defaultPackage

/-! ## Overviews -/

/-- The sources, with or without those of the platform. -/
def sourcesWithout (r : Registry) (withoutSystem : Bool) : List Source :=
  r.sources.filter fun s => !(withoutSystem && s.flags.system)

/-- The language tags of all locales that something is defined for. -/
def locales (r : Registry) (withoutSystem : Bool) : List String :=
  ascendingSet ((r.sourcesWithout withoutSystem).flatMap fun s => s.table.locales)

/-- The configurations that something is defined for. -/
def definedFor (r : Registry) (withoutSystem withoutMipmaps : Bool) : List Configuration :=
  ascendingSet ((r.sourcesWithout withoutSystem).flatMap fun s => s.table.configurations withoutMipmaps)

/-! ## Assets -/

/-- Opens a file of the last source that has it. -/
def open? (r : Registry) (name : String) : Option (Cookie × Asset) :=
  r.placed.reverse.findSome? fun p => (p.source.open? name).map (p.cookie,·)

/-- Opens a file of one source. -/
def openIn? (r : Registry) (c : Cookie) (name : String) : Option Asset :=
  (r.source? c).bind fun s => s.open? name

/-- The names within a directory over all sources. -/
def list (r : Registry) (directory : String) : List String :=
  ascendingSet (r.sources.flatMap fun s => s.list directory)

end Registry

end AndroidResources
