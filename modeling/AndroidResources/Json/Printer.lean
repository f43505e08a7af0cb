import AndroidResources.Json.Basic
import AndroidResources.Text.Digits

/-!
# Writing JSON

Values are written without blanks, or over several lines with two blanks for each level.
-/
namespace AndroidResources.Json

/-- How a character is written between quotes: control characters have escapes, all but a few by number. -/
def escapedChar : Char → List Char
  | '"' => ['\\','"']
  | '\\' => ['\\','\\']
  | '\x08' => ['\\','b']
  | '\x0c' => ['\\','f']
  | '\n' => ['\\','n']
  | '\r' => ['\\','r']
  | '\t' => ['\\','t']
  | c => if c.toNat < 0x20 then '\\' :: 'u' :: Text.hexWord 4 c.toNat else [c]

/-- A text between quotes. -/
def textLiteral (s : String) : String :=
  String.ofList ('"' :: s.toList.flatMap escapedChar ++ ['"'])

/-- A number with an exponent. -/
def decimalLiteral (negative : Bool) (significand : Nat) (exponent : Int) : String :=
  (if negative then "-" else "") ++ Nat.repr significand ++ "e" ++ Text.signedDecimal exponent

mutual

/-- A value without blanks. -/
def compact : Json → String
  | .null => "null"
  | .bool b => if b then "true" else "false"
  | .integer n => Text.signedDecimal n
  | .decimal negative significand exponent => decimalLiteral negative significand exponent
  | .string s => textLiteral s
  | .array items => "[" ++ compactItems items ++ "]"
  | .object members => "\x7b" ++ compactMembers members ++ "\x7d"
  | .malformed => "1e999"

/-- Items with commas between them. -/
def compactItems : List Json → String
  | [] => ""
  | [item] => compact item
  | item :: rest => compact item ++ "," ++ compactItems rest

/-- Members with commas between them. -/
def compactMembers : List (String × Json) → String
  | [] => ""
  | [(name,value)] => textLiteral name ++ ":" ++ compact value
  | (name,value) :: rest => textLiteral name ++ ":" ++ compact value ++ "," ++ compactMembers rest

end

/-- The start of a line at a level of nesting. -/
def newLine (level : Nat) : String :=
  String.ofList ('\n' :: List.replicate (2 * level) ' ')

mutual

/-- A value over several lines, of which the first one has been started at `level`. -/
def prettyAt (level : Nat) : Json → String
  | .array [] => "[]"
  | .array items => "[" ++ prettyItems (level + 1) items ++ newLine level ++ "]"
  | .object [] => "\x7b\x7d"
  | .object members => "\x7b" ++ prettyMembers (level + 1) members ++ newLine level ++ "\x7d"
  | value => compact value

/-- Items on lines of their own. -/
def prettyItems (level : Nat) : List Json → String
  | [] => ""
  | [item] => newLine level ++ prettyAt level item
  | item :: rest => newLine level ++ prettyAt level item ++ "," ++ prettyItems level rest

/-- Members on lines of their own. -/
def prettyMembers (level : Nat) : List (String × Json) → String
  | [] => ""
  | [(name,value)] => newLine level ++ textLiteral name ++ ": " ++ prettyAt level value
  | (name,value) :: rest =>
    newLine level ++ textLiteral name ++ ": " ++ prettyAt level value ++ "," ++ prettyMembers level rest

end

/-- A value over several lines. -/
def pretty (value : Json) : String :=
  prettyAt 0 value

end AndroidResources.Json
