import AndroidResources.Text.Digits
import AndroidResources.Text.Printed

/-!
# Quoted text

Texts inside messages stand between double quotes, with every character that could not be told
apart on a terminal written by an escape.
-/
namespace AndroidResources.Text

/-- How one character is written between double quotes. -/
def quotedChar (c : Char) : String :=
  match c with
  | '\x00' => "\\0"
  | '\t' => "\\t"
  | '\r' => "\\r"
  | '\n' => "\\n"
  | '"' => "\\\""
  | '\\' => "\\\\"
  | c => if isPrinted c then c.toString else "\\u\x7b" ++ hexShort c.toNat ++ "\x7d"

/-- A text between double quotes. -/
def quoted (s : String) : String :=
  "\"" ++ String.join (s.toList.map quotedChar) ++ "\""

end AndroidResources.Text
