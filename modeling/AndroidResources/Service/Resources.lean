import AndroidResources.Service.Basic

/-!
# Sources, managers and resources of a service

Ids, sizes and positions are signed outside the library; where there is nothing, -1 or 0 stands for it.
-/
namespace AndroidResources.Service

/-! ## Sources -/

/-- Reads a source, whose definitions may refer to the names of others. -/
def loadSource (path : String) (content : Option String) (imports : List Handle) : Operation Handle := do
  let imports ← imports.mapM sourceUnder
  addSource (← attempt (Source.load path content (imports.map Source.table)))

def sourcePath (source : Handle) : Operation String := do
  pure (← sourceUnder source).path

/-- Gives a source up; managers that have it keep it. -/
def closeSource (source : Handle) : Operation Unit := do
  let _ ← sourceUnder source
  modify fun s => { s with sources := (s.sources.remove source).2 }

/-! ## Managers -/

/-- A manager without sources, with a tag of its own. -/
def createManager : Operation Handle := do
  let tag := (← get).nextTag
  modify fun s => { s with nextTag := tag + 1 }
  addManager { tag }

def destroyManager (manager : Handle) : Operation Unit := do
  let _ ← managerUnder manager
  modify fun s => { s with managers := (s.managers.remove manager).2 }

/-- Replaces the sources of a manager. -/
def setSources (manager : Handle) (sources : List Handle) (invalidate : Bool) : Operation Unit := do
  let sources ← sources.mapM sourceUnder
  ask manager fun m => ((),m.setSources sources invalidate)

/-- Reads the configuration of a device. -/
def readConfiguration (text : String) : Operation Configuration :=
  match Configuration.ofText text with
  | .ok c => pure c
  | .error error =>
    throw (.invalidArgument ("configuration " ++ Text.quoted text ++ ": " ++ error.message))

/-- Sets the devices of a manager, and the locale to fall back on. -/
def setConfiguration (manager : Handle) (configurations : List String) (defaultLocale : Option String)
    (refresh : Bool) : Operation Unit := do
  let configurations ← configurations.mapM readConfiguration
  let defaultLocale ← match defaultLocale with
    | none => pure none
    | some text => some <$> readConfiguration text
  let m ← attempt ((← managerUnder manager).setConfigurations configurations refresh)
  keepManager manager (m.setDefaultLocale defaultLocale)

/-- Asks a manager for traces, or for none. -/
def setLogging (manager : Handle) (logging : Bool) : Operation Unit :=
  ask manager fun m => ((),m.setLogging logging)

def lastResolution (manager : Handle) : Operation (Option String) := do
  pure (← managerUnder manager).lastResolution?

/-! ## Overviews -/

def packages (manager : Handle) (overlays loaders : Bool) : Operation (List (UInt8 × String)) :=
  askRegistry manager fun r => r.assignedPackages overlays loaders

def locales (manager : Handle) (withoutSystem : Bool) : Operation (List String) :=
  askRegistry manager fun r => r.locales withoutSystem

/-- The texts of the configurations that something is defined for. -/
def configurations (manager : Handle) (withoutSystem withoutMipmaps : Bool) : Operation (List String) :=
  askRegistry manager fun r => (r.definedFor withoutSystem withoutMipmaps).map Configuration.text

/-! ## Names -/

def name (manager : Handle) (id : ResourceId) : Operation (Option ResourceName) :=
  askRegistry manager fun r => r.name? id

/-- What of a name is asked for by itself. -/
inductive NamePart where
  | full
  | package
  | type
  | entry
  deriving DecidableEq

/-- A part of a name as text. -/
def NamePart.text (part : NamePart) (name : ResourceName) : String :=
  match part with
  | full => name.text
  | package => name.package
  | type => name.type
  | entry => name.entry

def namePart (manager : Handle) (id : ResourceId) (part : NamePart) : Operation (Option String) := do
  pure ((← name manager id).map part.text)

/-- The id of a name, which must not be empty. -/
def identifier (manager : Handle) (name : String) (defaultType defaultPackage : Option String) :
    Operation Int := do
  if name = "" then throw (.invalidArgument "empty resource name")
  askRegistry manager fun r => ((r.id? name defaultType defaultPackage).map signed).getD 0

/-! ## Values and bags -/

/-- The value of a resource that is no bag. -/
def value (manager : Handle) (id : ResourceId) (density : Int) (resolve : Bool) :
    Operation (Option FlatValue) := do
  flattenResolved manager resolve (← ask manager fun m => m.resource? id false (densityOf? density))

/-- What an entry of a bag stands for. -/
def bagValue (manager : Handle) (id : ResourceId) (key : UInt32) : Operation (Option FlatValue) := do
  flatten manager (← ask manager fun m => m.bagEntry? id key)

/-- The attributes that a style sets. -/
def styleAttributes (manager : Handle) (id : ResourceId) : Operation (Option (List Int)) := do
  pure ((← ask manager fun m => m.styleAttributes? id).map fun attrs => attrs.map signed)

/-- The parent of a style. -/
def parent (manager : Handle) (id : ResourceId) : Operation Int := do
  pure (((← ask manager fun m => m.parent? id).map signed).getD 0)

/-! ## Arrays -/

def stringArray (manager : Handle) (id : ResourceId) : Operation (Option (List (Option String))) :=
  ask manager fun m => m.stringArray? id

/-- The cookie and the position of a string, both -1 for what is no string. -/
def placeSlots : Option (Cookie × UInt32) → List Int
  | some (cookie,position) => [cookie.toExternal,signed position]
  | none => [-1,-1]

/-- Where the strings of an array are, two slots for each item. -/
def stringPlaces (manager : Handle) (id : ResourceId) : Operation (Option (List Int)) := do
  pure ((← ask manager fun m => m.stringPlaces? id).map fun places => places.flatMap placeSlots)

def intArray (manager : Handle) (id : ResourceId) : Operation (Option (List Int)) :=
  ask manager fun m => m.intArray? id

def arraySize (manager : Handle) (id : ResourceId) : Operation Int := do
  pure (((← ask manager fun m => m.arraySize? id).map fun size => signed (.ofNat size)).getD (-1))

/-- Writes the items of an array into the caller's memory, and answers with their number as a signed integer of
    32 bits. -/
def array (manager : Handle) (id : ResourceId) : Operation Int := do
  match ← ask manager fun m => m.array? id with
  | none => pure (-1)
  | some items => do
    let count ← fill fun b => b.writeArray items
    pure (signed (.ofNat count))

end AndroidResources.Service
