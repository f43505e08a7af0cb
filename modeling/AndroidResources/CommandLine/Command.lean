import AndroidResources.CommandLine.Options
import AndroidResources.Text.Digits

/-!
# Commands

What can be asked for on a command line. Every command has the sources to load and the device to resolve
for.
-/
namespace AndroidResources.CommandLine

/-- What all commands share. -/
structure Setup where
  /-- The paths of source descriptions and of directories with them; later sources win. -/
  sources : List String
  /-- The devices, the primary one first. -/
  configurations : List String
  defaultLocale : Option String
  /-- Whether to print JSON. -/
  json : Bool
  deriving DecidableEq

/-- An element of a layout: its theme's styles, its attributes in text form, its style, and the default
    style, by an attribute of the theme and as such. -/
structure Element where
  theme : List String
  attributes : List String
  style : Option String
  defaultAttr : Option String
  defaultStyle : Option String
  deriving DecidableEq

/-- What is asked for. -/
inductive Command where
  /-- The packages and sources. -/
  | packages (overlays loaders : Bool)
  /-- A resource, as it is or with references followed. -/
  | resource (name : String) (density : Option UInt16) (resolve trace : Bool)
  /-- A bag with its parents. -/
  | bag (name : String)
  /-- The attributes of a theme, or some of them resolved. -/
  | theme (styles : List String) (force : Bool) (attrs : List String)
  /-- Attributes of an element. -/
  | attrs (element : Element) (attrs : List String)
  /-- The styles that an element's attributes are looked up in. -/
  | stack (element : Element)
  /-- The locales and configurations that something is defined for. -/
  | locales (withoutSystem configurations withoutMipmaps : Bool)
  deriving DecidableEq

/-- A command line that has been read. -/
structure Invocation where
  setup : Setup
  command : Command
  deriving DecidableEq

/-! ## Options of commands -/

def sharedOptions : List OptionSpec :=
  [⟨"source",some 's',.many⟩,⟨"config",some 'c',.list⟩,⟨"default-locale",none,.value⟩,⟨"json",none,.flag⟩]

/-- The options of an element that are not its own attributes. -/
def elementOptions : List OptionSpec :=
  [⟨"theme",none,.list⟩,⟨"def-style-attr",none,.value⟩,⟨"def-style",none,.value⟩]

/-- The options of a command beside the shared ones. -/
def optionsOf? : (command : String) → Option (List OptionSpec)
  | "packages" => some [⟨"include-overlays",none,.flag⟩,⟨"include-loaders",none,.flag⟩]
  | "resource" => some [⟨"density",some 'd',.value⟩,⟨"no-resolve",none,.flag⟩,⟨"trace",some 't',.flag⟩]
  | "bag" => some []
  | "theme" => some [⟨"force",some 'f',.flag⟩,⟨"attr",some 'a',.list⟩]
  | "attrs" => some ([⟨"xml",some 'x',.list⟩,⟨"style",none,.value⟩] ++ elementOptions)
  | "stack" => some elementOptions
  | "locales" =>
    some [⟨"exclude-system",none,.flag⟩,⟨"configurations",none,.flag⟩,⟨"exclude-mipmap",none,.flag⟩]
  | _ => none

/-! ## Reading -/

def setupOf (pieces : List Piece) : Except UsageError Setup :=
  match valuesOf "source" pieces with
  | [] => .error (.missingOption "source")
  | sources =>
    if sources.contains "" then .error (.invalidValue "source" "") else .ok {
      sources
      configurations := valuesOf "config" pieces
      defaultLocale := valueOf? "default-locale" pieces
      json := isSet "json" pieces }

/-- A density in decimal; a sign counts only by the value it leaves. -/
def densityOf (pieces : List Piece) : Except UsageError (Option UInt16) :=
  match valueOf? "density" pieces with
  | none => .ok none
  | some text =>
    match Text.integer? text.toList with
    | some n =>
      if 0 ≤ n ∧ n < UInt16.size then .ok (some (.ofNat n.toNat)) else .error (.invalidValue "density" text)
    | none => .error (.invalidValue "density" text)

def elementOf (style : Option String) (pieces : List Piece) : Element where
  theme := valuesOf "theme" pieces
  attributes := valuesOf "xml" pieces
  style := style
  defaultAttr := valueOf? "def-style-attr" pieces
  defaultStyle := valueOf? "def-style" pieces

/-- No operands. -/
def noOperand (pieces : List Piece) : Except UsageError Unit :=
  match operands pieces with
  | [] => .ok ()
  | word :: _ => .error (.unexpectedOperand word)

/-- One operand at most. -/
def operand? (pieces : List Piece) : Except UsageError (Option String) :=
  match operands pieces with
  | [] => .ok none
  | [word] => .ok (some word)
  | _ :: word :: _ => .error (.unexpectedOperand word)

/-- Just one operand. -/
def operand (name : String) (pieces : List Piece) : Except UsageError String := do
  match ← operand? pieces with
  | some word => pure word
  | none => throw (.missingOperand name)

/-- One operand at least. -/
def someOperands (name : String) (pieces : List Piece) : Except UsageError (List String) :=
  match operands pieces with
  | [] => .error (.missingOperand name)
  | words => .ok words

/-- The command of a name. -/
def commandOf (name : String) (pieces : List Piece) : Except UsageError Command :=
  match name with
  | "packages" => do
    noOperand pieces
    pure (.packages (isSet "include-overlays" pieces) (isSet "include-loaders" pieces))
  | "resource" => do
    let name ← operand "name" pieces
    let density ← densityOf pieces
    pure (.resource name density (!isSet "no-resolve" pieces) (isSet "trace" pieces))
  | "bag" => do pure (.bag (← operand "name" pieces))
  | "theme" => do
    let styles ← someOperands "styles" pieces
    pure (.theme styles (isSet "force" pieces) (valuesOf "attr" pieces))
  | "attrs" => do
    let attrs ← someOperands "attrs" pieces
    pure (.attrs (elementOf (valueOf? "style" pieces) pieces) attrs)
  | "stack" => do pure (.stack (elementOf (← operand? pieces) pieces))
  | "locales" => do
    noOperand pieces
    pure (.locales (isSet "exclude-system" pieces) (isSet "configurations" pieces)
      (isSet "exclude-mipmap" pieces))
  | _ => .error (.unknownCommand name)

/-- Reads a command line. -/
def Invocation.ofWords : List String → Except UsageError Invocation
  | [] => .error .missingCommand
  | name :: words =>
    match optionsOf? name with
    | none => .error (.unknownCommand name)
    | some options => do
      let pieces ← read (sharedOptions ++ options) words
      pure ⟨← setupOf pieces,← commandOf name pieces⟩

end AndroidResources.CommandLine
