import AndroidResources.Registry.Basic
import AndroidResources.Value.Text

/-!
# Looking resources up

A resource is the best of its definitions in all sources, for the first device whose language it has.
Failing that, the default locale is tried, and after it whatever was found first.
-/
namespace AndroidResources

/-- A resource that has been looked up. -/
structure Selected where
  /-- The source of the value. -/
  cookie : Cookie
  value : Value
  /-- The resource that has the value, zero where it comes from no table. -/
  id : ResourceId
  /-- The dimensions over which the value varies. -/
  changes : Changes
  /-- What the value was defined for. -/
  configuration : Configuration

/-- A value that comes from no source. -/
def Selected.detached (v : Value) : Selected :=
  ⟨.invalid,v,0,.none,{}⟩

/-- How a resource was looked up. -/
structure Trace where
  id : ResourceId
  device : Configuration
  steps : List Step
  /-- Source and configuration of the best definition. -/
  best : Option (String × Configuration)

namespace Registry

/-- The definitions of a resource in one source. -/
def candidatesIn (p : Placed) (id : ResourceId) : List Candidate :=
  match p.source.table.entry? id with
  | none => []
  | some entry =>
    entry.definitions.map fun definition =>
      { cookie := p.cookie
        rank := p.rank
        definition
        source := p.source.path
        type := entry.name.type
        changes := entry.changes }

/-- The definitions of a resource in all sources that declare its package, by rank. -/
def candidates (r : Registry) (id : ResourceId) : List Candidate :=
  (r.sourcesOf id.package).flatMap fun p => candidatesIn p id

/-! ## Locales -/

/-- The best candidate for a device, with the device. -/
def selectFor? (candidates : List Candidate) (density : Option UInt16) (device : Configuration) :
    Option (Candidate × Configuration) :=
  (select? candidates device density).map (·,device)

/-- Whether a candidate speaks the language of a device. -/
def speaks (c : Candidate) (device : Configuration) : Bool :=
  c.configuration.language = device.language

/-- Whether a selection settles the matter: there is no other device, or no language, or it is spoken. -/
def settles (r : Registry) (found : Candidate × Configuration) : Bool :=
  r.others = [] || !found.2.hasLocale || speaks found.1 found.2

/-- The best candidate for the primary device in the default locale, if it speaks that. -/
def selectDefault? (r : Registry) (candidates : List Candidate) (density : Option UInt16) :
    Option (Candidate × Configuration) :=
  match r.defaultLocale with
  | none => none
  | some locale =>
    (selectFor? candidates density (r.primary.withLocale locale)).filter fun found => speaks found.1 locale

/-- The candidate to take, and the device it was selected for. -/
def selectLocalized? (r : Registry) (candidates : List Candidate) (density : Option UInt16) :
    Option (Candidate × Configuration) :=
  let found := r.configurations.filterMap (selectFor? candidates density)
  (found.find? r.settles).or ((r.selectDefault? candidates density).or found.head?)

/-! ## Resources -/

/-- The definition of a resource, and the device it was selected for. -/
def find? (r : Registry) (id : ResourceId) (density : Option UInt16) : Option (Candidate × Configuration) :=
  if id.isValid then r.selectLocalized? (r.candidates id) density else none

/-- How a resource is looked up, if it is found. -/
def trace? (r : Registry) (id : ResourceId) (density : Option UInt16) : Option Trace :=
  (r.find? id density).map fun found =>
    let device := found.2.withDensity density
    let (steps,best) := steps device none (suitable device (r.candidates id))
    ⟨id,device,steps,best.map fun c => (c.source,c.configuration)⟩

/-- A definition as a value; a bag stands as a reference to itself. -/
def selectedOf (id : ResourceId) (c : Candidate) : Selected :=
  { cookie := c.cookie
    value := match c.definition.content with
      | .value v => v
      | .bag _ _ => .reference id
    id
    changes := c.changes
    configuration := c.configuration }

/-- A resource, and whether it is a bag. -/
def selected? (r : Registry) (id : ResourceId) (density : Option UInt16) : Option (Selected × Bool) :=
  (r.find? id density).map fun found => (selectedOf id found.1,found.1.definition.content.isBag)

/-- A resource that may be, or must not be, a bag. -/
def resource? (r : Registry) (id : ResourceId) (mayBeBag : Bool) (density : Option UInt16) : Option Selected :=
  match r.selected? id density with
  | some (s,isBag) => if isBag && !mayBeBag then none else some s
  | none => none

/-! ## Texts -/

/-- The string behind a value, in the pool of its source. -/
def string? (r : Registry) (s : Selected) : Option String :=
  if s.value.type = .string then (r.source? s.cookie).bind fun source => source.table.strings.get? s.value.data
  else none

/-- The text of a value. -/
def valueText (r : Registry) (s : Selected) : String :=
  (r.string? s).getD s.value.rawText

end Registry

/-- How a step is told. -/
def Step.text (s : Step) : String :=
  let kind := match s.kind with
    | .initial => "Found initial"
    | .better => "Found better"
    | .overlaid => "Overlaid"
    | .skipped => "Skipped"
  "\n\t" ++ kind ++ ": " ++ s.source ++ " #" ++ s.configuration.name

/-- How a look-up is told; the resource has the name that the registry gives it now. -/
def Trace.text (t : Trace) (r : Registry) : String :=
  let best := match t.best with
    | some (source,configuration) =>
      "\nBest matching is from " ++ configuration.name ++ " configuration of " ++ source
    | none => ""
  "Resolution for " ++ Text.hexId t.id ++ " " ++ r.nameText t.id ++ "\n\tFor config - " ++ t.device.name ++
    String.join (t.steps.map Step.text) ++ best

end AndroidResources
