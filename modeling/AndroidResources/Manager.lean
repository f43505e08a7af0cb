import AndroidResources.BagCache
import AndroidResources.Registry.Reference

/-!
# Managers

A manager holds a registry whose sources and devices may be replaced, the bags that were put together for
it, and the trace of the last look-up where traces are asked for. Each replacement of the sources begins a
new generation: its cookies start behind all earlier ones.
-/
namespace AndroidResources

/-- A registry that changes over time. -/
structure Manager where
  /-- What tells managers apart. -/
  tag : Nat := 0
  registry : Registry := {}
  generation : Nat := 0
  bags : BagCache := {}
  /-- Whether look-ups are traced. -/
  logging : Bool := false
  lastTrace : Option Trace := none
  deriving Inhabited

namespace Manager

/-! ## Sources and devices -/

/-- Replaces the sources without a look at what is kept. -/
def install (m : Manager) (sources : List Source) : Manager :=
  { m with
    registry := { m.registry with sources, base := m.registry.base + .ofNat m.registry.sources.length }
    generation := m.generation + 1 }

/-- Replaces the sources, and drops what is kept if asked to. -/
def setSources (m : Manager) (sources : List Source) (invalidate : Bool) : Manager :=
  let m := m.install sources
  if invalidate then { m with bags := {} } else m

/-- Replaces the sources ahead of their use. -/
def presetSources (m : Manager) (sources : List Source) : Manager :=
  m.install sources

/-- Whether two lists of devices have different locales. -/
def localesDiffer (a b : List Configuration) : Bool :=
  a.length ≠ b.length || (a.zip b).any fun (a,b) => a.language ≠ b.language || a.region ≠ b.region

/-- What changes between two lists of devices: the dimensions of the primary one, and the locale if any of
    the locales does. -/
def changesBetween (r : Registry) (primary : Configuration) (others : List Configuration) : Changes :=
  let diff := r.primary.diff primary
  if localesDiffer r.configurations (primary :: others) then diff.union (.only .locale) else diff

/-- Sets the devices, of which there must be one. What is kept is dropped where it varies over what
    changes, or altogether. -/
def setConfigurations (m : Manager) (configurations : List Configuration) (refresh : Bool) :
    Except ResourceError Manager :=
  match configurations with
  | [] => .error (.invalidArgument "at least one configuration is required")
  | primary :: others =>
    let bags := if refresh then {} else m.bags.without (changesBetween m.registry primary others)
    .ok { m with registry := { m.registry with primary, others }, bags }

/-- Sets the locale to fall back on. -/
def setDefaultLocale (m : Manager) (locale : Option Configuration) : Manager :=
  { m with registry := { m.registry with defaultLocale := locale.map Configuration.localeOnly }, bags := {} }

/-! ## Traces -/

/-- Asks for traces, or for none. -/
def setLogging (m : Manager) (logging : Bool) : Manager :=
  { m with logging, lastTrace := if logging then m.lastTrace else none }

/-- Notes a look-up that finds something, where traces are asked for. -/
def note (m : Manager) (id : ResourceId) (density : Option UInt16) : Manager :=
  if m.logging then { m with lastTrace := (m.registry.trace? id density).or m.lastTrace } else m

/-- Notes look-ups in order. -/
def noteAll (m : Manager) (ids : List ResourceId) : Manager :=
  ids.foldl (fun m id => m.note id none) m

/-- How the last look-up went. -/
def lastResolution? (m : Manager) : Option String :=
  if m.logging then m.lastTrace.map fun t => t.text m.registry else none

/-! ## Resources -/

/-- A resource that may be, or must not be, a bag. -/
def resource? (m : Manager) (id : ResourceId) (mayBeBag : Bool) (density : Option UInt16) :
    Option Selected × Manager :=
  (m.registry.resource? id mayBeBag density,m.note id density)

/-- What a value stands for. -/
def resolve? (m : Manager) (s : Selected) : Option Selected × Manager :=
  let walk := m.registry.follow s
  (walk.result,m.noteAll walk.lookups)

/-! ## Bags -/

/-- A bag. -/
def bag? (m : Manager) (id : ResourceId) : Option Bag × Manager :=
  let (bag,bags) := m.bags.getBag? m.registry m.generation id
  (bag,{ m with bags })

/-- What the last entry of a bag with a key stands for. -/
def bagEntry? (m : Manager) (id : ResourceId) (key : UInt32) : Option Selected × Manager :=
  match m.bag? id with
  | (none,m) => (none,m)
  | (some bag,m) =>
    match bag.find? key with
    | none => (none,m)
    | some entry => m.resolve? (bag.selected entry)

/-- What the items of an array stand for; an item that leads nowhere stands for itself. -/
def array? (m : Manager) (id : ResourceId) : Option (List Selected) × Manager :=
  match m.bag? id with
  | (none,m) => (none,m)
  | (some bag,m) =>
    (some (bag.values.map m.registry.resolved),
      m.noteAll (bag.values.flatMap fun s => (m.registry.follow s).lookups))

/-- The attributes that a style sets. -/
def styleAttributes? (m : Manager) (id : ResourceId) : Option (List UInt32) × Manager :=
  let (bag,m) := m.bag? id
  (bag.map Bag.keys,m)

/-- The parent of a style that has one. -/
def parent? (m : Manager) (id : ResourceId) : Option ResourceId × Manager :=
  let (bag,m) := m.bag? id
  ((bag.map Bag.parent).filter (· ≠ 0),m)

/-- The number of items of an array. -/
def arraySize? (m : Manager) (id : ResourceId) : Option Nat × Manager :=
  let (bag,m) := m.bag? id
  (bag.map fun bag => bag.entries.length,m)

/-- The strings of an array, nothing standing for other items. -/
def stringArray? (m : Manager) (id : ResourceId) : Option (List (Option String)) × Manager :=
  let (values,m) := m.array? id
  (values.map fun values => values.map m.registry.string?,m)

/-- Where the strings of an array are: their source and position. -/
def stringPlaces? (m : Manager) (id : ResourceId) : Option (List (Option (Cookie × UInt32))) × Manager :=
  let (values,m) := m.array? id
  let place (s : Selected) := if s.value.type = .string then some (s.cookie,s.value.data) else none
  (values.map fun values => values.map place,m)

/-- The integers of an array, zero standing for other items. -/
def intArray? (m : Manager) (id : ResourceId) : Option (List Int) × Manager :=
  let (values,m) := m.array? id
  let int (s : Selected) := if s.value.type.isInteger then s.value.toInt else 0
  (values.map fun values => values.map int,m)

end Manager

end AndroidResources
