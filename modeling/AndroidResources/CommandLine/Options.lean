/-!
# Options

The words of a command line are options, by a long name or a letter, with their values, and operands. Every
word behind `--` is an operand. An option for many values takes all words up to the next option.
-/
namespace AndroidResources.CommandLine

/-- What stands behind an option, and whether the option may be repeated. -/
inductive Arity where
  | flag
  | value
  /-- One value each time. -/
  | list
  /-- At least one value each time. -/
  | many
  deriving DecidableEq

/-- An option that a command has. -/
structure OptionSpec where
  name : String
  letter : Option Char := none
  arity : Arity

/-- Why a command line is refused. -/
inductive UsageError where
  | missingCommand
  | unknownCommand (word : String)
  | unknownOption (word : String)
  | missingValue (option : String)
  | unexpectedValue (option : String)
  | invalidValue (option value : String)
  | repeatedOption (option : String)
  | missingOption (option : String)
  | missingOperand (operand : String)
  | unexpectedOperand (word : String)
  deriving DecidableEq

/-- The wording of a refusal. -/
def UsageError.message : UsageError → String
  | missingCommand => "a command is required"
  | unknownCommand word => "unknown command " ++ word
  | unknownOption word => "unknown option " ++ word
  | missingValue option => "option --" ++ option ++ " requires a value"
  | unexpectedValue option => "option --" ++ option ++ " takes no value"
  | invalidValue option value => "invalid value " ++ value ++ " for option --" ++ option
  | repeatedOption option => "option --" ++ option ++ " is given more than once"
  | missingOption option => "option --" ++ option ++ " is required"
  | missingOperand operand => "operand " ++ operand ++ " is required"
  | unexpectedOperand word => "unexpected operand " ++ word

/-- A part of a command line. -/
inductive Piece where
  | flag (option : String)
  | value (option value : String)
  | operand (word : String)
  deriving DecidableEq

/-! ## Options -/

/-- Whether a word is an option rather than a value or an operand. -/
def isOption (word : String) : Bool :=
  word.startsWith "-" && word ≠ "-"

/-- What an option with a value attached to it says. -/
def attached (spec : OptionSpec) (value : List Char) : Except UsageError Piece :=
  if spec.arity = .flag then .error (.unexpectedValue spec.name)
  else .ok (.value spec.name (String.ofList value))

/-- An option by itself: a flag, or one that takes its value from the words behind it. -/
def single (spec : OptionSpec) : List Piece × Option OptionSpec :=
  if spec.arity = .flag then ([.flag spec.name],none) else ([],some spec)

/-- Reads an option by its long name, with or without a value behind an equals sign. -/
def readLong (specs : List OptionSpec) (word : List Char) :
    Except UsageError (List Piece × Option OptionSpec) :=
  let name := String.ofList (word.takeWhile (· ≠ '='))
  match specs.find? fun spec => spec.name = name with
  | none => .error (.unknownOption ("--" ++ name))
  | some spec =>
    match word.dropWhile (· ≠ '=') with
    | [] => .ok (single spec)
    | _ :: value => (attached spec value).map fun piece => ([piece],none)

/-- Reads options by their letters. Behind the letter of an option for values, the rest is the value. -/
def readLetters (specs : List OptionSpec) : List Char → Except UsageError (List Piece × Option OptionSpec)
  | [] => .ok ([],none)
  | letter :: rest =>
    match specs.find? fun spec => spec.letter = some letter with
    | none => .error (.unknownOption (String.ofList ['-',letter]))
    | some spec =>
      if spec.arity = .flag then
        (readLetters specs rest).map fun (pieces,open?) => (.flag spec.name :: pieces,open?)
      else
        match rest with
        | [] => .ok ([],some spec)
        | '=' :: value => (attached spec value).map fun piece => ([piece],none)
        | value => (attached spec value).map fun piece => ([piece],none)

/-- Reads the options in a word, the last of which may still want a value. -/
def readOption (specs : List OptionSpec) (word : String) :
    Except UsageError (List Piece × Option OptionSpec) :=
  match word.toList with
  | '-' :: '-' :: name => readLong specs name
  | _ :: letters => readLetters specs letters
  | [] => .ok ([],none)

/-! ## Command lines -/

/-- What a word is that is no option: a value of the option that takes all, or an operand. -/
def plain (taking : Option String) (word : String) : Piece :=
  match taking with
  | some option => .value option word
  | none => .operand word

/-- Reads words, while `taking` is the option that takes all values. -/
def pieces (specs : List OptionSpec) : (taking : Option String) → List String → Except UsageError (List Piece)
  | _, [] => .ok []
  | taking, word :: rest =>
    if word = "--" then .ok (rest.map .operand)
    else if isOption word then
      match readOption specs word with
      | .error error => .error error
      | .ok (found,none) => (pieces specs none rest).map fun later => found ++ later
      | .ok (found,some spec) =>
        match rest with
        | [] => .error (.missingValue spec.name)
        | value :: rest =>
          if isOption value then .error (.missingValue spec.name)
          else
            let taking := if spec.arity = .many then some spec.name else none
            (pieces specs taking rest).map fun later => found ++ .value spec.name value :: later
    else (pieces specs taking rest).map fun later => plain taking word :: later

/-- The pieces of an option. -/
def occurrences (option : String) (pieces : List Piece) : List Piece :=
  pieces.filter fun piece =>
    match piece with
    | .flag name => name = option
    | .value name _ => name = option
    | .operand _ => false

/-- Refuses options that are repeated and must not be. -/
def checkRepeats (specs : List OptionSpec) (pieces : List Piece) : Except UsageError Unit :=
  match specs.find? fun spec =>
      (spec.arity = .flag || spec.arity = .value) && 1 < (occurrences spec.name pieces).length with
  | some spec => .error (.repeatedOption spec.name)
  | none => .ok ()

/-- Reads the words behind a command. -/
def read (specs : List OptionSpec) (words : List String) : Except UsageError (List Piece) := do
  let pieces ← pieces specs none words
  checkRepeats specs pieces
  pure pieces

/-- Whether a flag is set. -/
def isSet (option : String) (pieces : List Piece) : Bool :=
  pieces.any (· = .flag option)

/-- The values of an option in order. -/
def valuesOf (option : String) (pieces : List Piece) : List String :=
  pieces.filterMap fun piece =>
    match piece with
    | .value name value => if name = option then some value else none
    | _ => none

/-- The value of an option. -/
def valueOf? (option : String) (pieces : List Piece) : Option String :=
  (valuesOf option pieces).head?

/-- The operands in order. -/
def operands (pieces : List Piece) : List String :=
  pieces.filterMap fun piece =>
    match piece with
    | .operand word => some word
    | _ => none

end AndroidResources.CommandLine
