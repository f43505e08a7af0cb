import AndroidResources.CommandLine.Command
import AndroidResources.CommandLine.Error
import AndroidResources.CommandLine.Files
import AndroidResources.CommandLine.Report
import AndroidResources.Source.Description

/-!
# Running commands

A command loads its sources in order, each of which may refer to the names of those before it, and shows a
report. A command that fails shows why, and nothing else.
-/
namespace AndroidResources.CommandLine

/-- What may fail as a command does. -/
abbrev Result := Except CommandError

/-- A failure of the registry as one of the command. -/
def attempt {α : Type} : Except ResourceError α → Result α
  | .ok value => .ok value
  | .error error => .error (.resource error)

/-! ## Loading -/

def readConfiguration (text : String) : Result Configuration :=
  match Configuration.ofText text with
  | .ok c => .ok c
  | .error error => .error (.invalidConfiguration text error)

/-- Loads a source behind others. -/
def loadSource (sources : List Source) (file : String × String) : Result (List Source) :=
  match Source.load file.1 (some file.2) (sources.map Source.table) with
  | .ok source => .ok (sources ++ [source])
  | .error error => .error (.loading file.1 error)

/-- The manager that a command works with. -/
def load (files : FileSet) (setup : Setup) : Result Manager := do
  let found := setup.sources.flatMap (filesAt files)
  if found = [] then throw (.noSources setup.sources)
  let sources ← found.foldlM loadSource []
  let m := ({} : Manager).setSources sources true
  let m ← match setup.configurations with
    | [] => pure m
    | texts => attempt (m.setConfigurations (← texts.mapM readConfiguration) false)
  match setup.defaultLocale with
  | none => pure m
  | some text => pure (m.setDefaultLocale (some (← readConfiguration text)))

/-! ## Names -/

/-- A number with one more hexadecimal digit. -/
def addHexDigit (n : Nat) (c : Char) : Except NumberError Nat :=
  match Text.hexValue? c with
  | none => .error .invalidDigit
  | some digit => if 16 * n + digit < UInt32.size then .ok (16 * n + digit) else .error .tooLarge

/-- The number that hexadecimal digits write, after an optional plus sign. -/
def readHex : List Char → Except NumberError Nat
  | [] => .error .empty
  | ['+'] => .error .invalidDigit
  | '+' :: digits => digits.foldlM addHexDigit 0
  | digits => digits.foldlM addHexDigit 0

/-- The id that a text names: an id in hexadecimal, or a name that may lack its package and type. -/
def readId (r : Registry) (defaultType : Option String) (text : String) : Result ResourceId :=
  match Text.afterHexMark? text.toList with
  | some digits =>
    match readHex digits with
    | .ok n => .ok (.ofNat n)
    | .error error => .error (.invalidId text error)
  | none =>
    let name := String.ofList (text.toList.dropWhile fun c => c = '@' || c = '?')
    match r.id? name defaultType none with
    | some id => .ok id
    | none => .error (.unknownResource text)

/-- The id that a text names, zero when there is no text. -/
def readOptionalId (r : Registry) (type : String) : Option String → Result ResourceId
  | none => .ok 0
  | some text => readId r (some type) text

/-- A theme of styles in order. Those that are missing leave no values. -/
def buildTheme (m : Manager) (styles : List String) (force : Bool) : Result (Theme × Manager) :=
  styles.foldlM (fun (t,m) style => do
    let id ← readId m.registry (some "style") style
    let (_,t,m) ← attempt (t.apply m ⟨id,force⟩)
    pure (t,m)) (Theme.new m,m)

/-! ## Commands -/

def runResource (m : Manager) (name : String) (density : Option UInt16) (resolve trace : Bool) :
    Result Report := do
  let m := m.setLogging trace
  let id ← readId m.registry none name
  match m.resource? id true density with
  | (none,_) => throw (.missingValue name)
  | (some s,m) =>
    if resolve then
      pure (resourceReport m.registry id (m.registry.resolve? s).isSome (m.registry.resolved s) m.lastResolution?)
    else pure (resourceReport m.registry id true s m.lastResolution?)

def runBag (m : Manager) (name : String) : Result Report := do
  let id ← readId m.registry (some "style") name
  match m.bag? id with
  | (none,_) => throw (.missingBag name)
  | (some bag,m) => pure (bagReport m.registry id bag)

/-- All attributes of a theme as they stand in it. -/
def themeAttributes (r : Registry) (t : Theme) : List ThemeAttribute :=
  t.entries.toList.map fun (attr,e) =>
    ⟨label r attr,some (label r e.style),some (.of r e.selected)⟩

/-- An attribute of a theme, resolved as far as possible. -/
def themeAttribute (r : Registry) (t : Theme) (name : String) : Result ThemeAttribute := do
  let attr ← readId r (some "attr") name
  pure ⟨label r attr,none,(t.value? attr).map fun s => .of r (r.resolved s)⟩

def runTheme (m : Manager) (styles : List String) (force : Bool) (attrs : List String) : Result Report := do
  let (t,m) ← buildTheme m styles force
  let attributes ← match attrs with
    | [] => pure (themeAttributes m.registry t)
    | names => names.mapM (themeAttribute m.registry t)
  pure (themeReport m.registry t attributes)

/-- Splits an attribute in text form. -/
def readPair (text : String) : Result (String × String) :=
  match splitOnce? '=' text.toList with
  | some (name,value) => .ok (String.ofList name,String.ofList value)
  | none => .error (.unpairedAttribute text)

def runAttributes (m : Manager) (element : Element) (attrs : List String) : Result Report := do
  let (t,m) ← buildTheme m element.theme false
  let r := m.registry
  let pairs ← element.attributes.mapM readPair
  let set ←
    if pairs = [] ∧ element.style = none then pure none
    else some <$> attempt (AttributeSet.ofText r element.style pairs)
  let defaultAttr ← readOptionalId r "attr" element.defaultAttr
  let defaultStyle ← readOptionalId r "style" element.defaultStyle
  let attrs ← attrs.mapM (readId r (some "attr"))
  let (results,_) ← attempt (Retrieval.applyStyle m t set defaultAttr defaultStyle attrs)
  pure (attributesReport r results)

def runStack (m : Manager) (element : Element) : Result Report := do
  let (t,m) ← buildTheme m element.theme false
  let r := m.registry
  let style ← readOptionalId r "style" element.style
  let defaultAttr ← readOptionalId r "attr" element.defaultAttr
  let defaultStyle ← readOptionalId r "style" element.defaultStyle
  pure (stackReport r (← attempt (Retrieval.styleStack m t style defaultAttr defaultStyle)))

/-- The report of a command. -/
def runCommand (m : Manager) : Command → Result Report
  | .packages overlays loaders => .ok (packagesReport m.registry overlays loaders)
  | .resource name density resolve trace => runResource m name density resolve trace
  | .bag name => runBag m name
  | .theme styles force attrs => runTheme m styles force attrs
  | .attrs element attrs => runAttributes m element attrs
  | .stack element => runStack m element
  | .locales withoutSystem configurations withoutMipmaps =>
    let names := (m.registry.definedFor withoutSystem withoutMipmaps).map Configuration.name
    .ok (localesReport (m.registry.locales withoutSystem) (if configurations then some names else none))

/-- What is left of a command line. -/
structure Output where
  exit : Nat := 0
  stdout : String := ""
  stderr : String := ""
  deriving DecidableEq

/-- Carries a command line out. -/
def run (files : FileSet) (words : List String) : Output :=
  match Invocation.ofWords words with
  | .error error => { exit := 2, stderr := error.message ++ "\n" }
  | .ok invocation =>
    match load files invocation.setup >>= fun m => runCommand m invocation.command with
    | .error error => { exit := 1, stderr := error.message ++ "\n" }
    | .ok report => { stdout := report.text invocation.setup.json }

end AndroidResources.CommandLine
