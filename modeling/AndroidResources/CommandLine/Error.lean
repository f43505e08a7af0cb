import AndroidResources.Error

/-!
# Failures of commands

Why a command that was understood cannot be carried out, from the outermost cause to the innermost.
-/
namespace AndroidResources.CommandLine

/-- Why a text is no number. -/
inductive NumberError where
  | empty
  | invalidDigit
  | tooLarge
  deriving DecidableEq

def NumberError.message : NumberError → String
  | empty => "cannot parse integer from empty string"
  | invalidDigit => "invalid digit found in string"
  | tooLarge => "number too large to fit in target type"

/-- Why a command fails. -/
inductive CommandError where
  | noSources (paths : List String)
  | loading (path : String) (error : ResourceError)
  | invalidConfiguration (text : String) (error : TableError)
  | invalidId (text : String) (error : NumberError)
  | unknownResource (text : String)
  | missingBag (name : String)
  | missingValue (name : String)
  | unpairedAttribute (text : String)
  | resource (error : ResourceError)
  deriving DecidableEq

/-- The wording of a failure, each cause behind the one that it led to. -/
def CommandError.message : CommandError → String
  | noSources paths =>
    "no source descriptions found in [" ++ String.intercalate ", " (paths.map Text.quoted) ++ "]"
  | loading path error => "got error while loading source: " ++ Text.quoted path ++ ": " ++ error.message
  | invalidConfiguration text error =>
    "got invalid configuration: " ++ Text.quoted text ++ ": " ++ error.message
  | invalidId text error => "got invalid resource id: " ++ text ++ ": " ++ error.message
  | unknownResource text => "can't find resource: " ++ text
  | missingBag name => name ++ " is not a bag or its parent chain is broken"
  | missingValue name => "resource " ++ name ++ " has no value for this configuration"
  | unpairedAttribute text => "expected name=value, got " ++ Text.quoted text
  | resource error => error.message

end AndroidResources.CommandLine
