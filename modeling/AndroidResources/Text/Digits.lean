/-!
# Digits

Hexadecimal words of a fixed width, and the digit runs that numbers are read from.
Decimal numbers are written by `Nat.repr` and read back by `Nat.ofDigitChars`.
-/
namespace AndroidResources.Text

/-- The last `width` hexadecimal digits of `n`, most significant first. -/
def hexWord : (width : Nat) → (n : Nat) → List Char
  | 0, _ => []
  | width + 1, n => hexWord width (n / 16) ++ [Nat.digitChar (n % 16)]

/-- A number in hexadecimal, filled with zeros up to `width` digits. -/
def hex (width n : Nat) : String :=
  String.ofList (hexWord width n)

/-- A number in hexadecimal without leading zeros. -/
def hexShort (n : Nat) : String :=
  String.ofList (Nat.toDigits 16 n)

/-- A resource id, or any other 32-bit word, as it is named in messages. -/
def hexId (n : UInt32) : String :=
  "0x" ++ hex 8 n.toNat

/-- An integer in decimal, with a sign only when it is negative. -/
def signedDecimal : Int → String
  | .ofNat n => Nat.repr n
  | .negSucc n => "-" ++ Nat.repr (n + 1)

theorem length_hexWord (width n : Nat) : (hexWord width n).length = width := by
  induction width generalizing n with
  | zero => rfl
  | succ width ih => simp [hexWord,ih]

/-! ## Reading -/

/-- The value of a hexadecimal digit of either case. -/
def hexValue? (c : Char) : Option Nat :=
  if '0' ≤ c ∧ c ≤ '9' then some (c.toNat - '0'.toNat)
  else if 'a' ≤ c ∧ c ≤ 'f' then some (c.toNat - 'a'.toNat + 10)
  else if 'A' ≤ c ∧ c ≤ 'F' then some (c.toNat - 'A'.toNat + 10)
  else none

/-- Whether a character is a hexadecimal digit of either case. -/
def isHexDigit (c : Char) : Bool :=
  (hexValue? c).isSome

/-- The number a run of hexadecimal digits stands for; other characters count as zero. -/
def hexValue (cs : List Char) : Nat :=
  cs.foldl (fun sum c => 16 * sum + (hexValue? c).getD 0) 0

/-- A non-empty run of hexadecimal digits and nothing else. -/
def hexNumber? (cs : List Char) : Option Nat :=
  if cs ≠ [] ∧ cs.all isHexDigit then some (hexValue cs) else none

/-- A word of one to eight hexadecimal digits and nothing else. -/
def hexWord? (cs : List Char) : Option UInt32 :=
  if cs.length ≤ 8 then (hexNumber? cs).map UInt32.ofNat else none

/-- What follows a leading `0x` or `0X`. -/
def afterHexMark? : List Char → Option (List Char)
  | '0' :: 'x' :: rest => some rest
  | '0' :: 'X' :: rest => some rest
  | _ => none

/-- A non-empty run of decimal digits and nothing else. -/
def decimalNumber? (cs : List Char) : Option Nat :=
  if cs ≠ [] ∧ cs.all Char.isDigit then some (Nat.ofDigitChars 10 cs 0) else none

/-- Reads a number in the given way after an optional plus sign. -/
def afterPlus? (read : List Char → Option Nat) : List Char → Option Nat
  | '+' :: rest => read rest
  | cs => read cs

/-- A decimal integer after an optional sign, and nothing else. -/
def integer? : List Char → Option Int
  | '-' :: digits => (decimalNumber? digits).map fun n => -n
  | cs => (afterPlus? decimalNumber? cs).map fun n => n

/-- Splits a decimal number without leading zeros off the front of a text. -/
def leadingDecimal? : List Char → Option (Nat × List Char)
  | '0' :: rest => some (0,rest)
  | cs =>
    match cs.takeWhile Char.isDigit with
    | [] => none
    | digits => some (Nat.ofDigitChars 10 digits 0,cs.dropWhile Char.isDigit)

end AndroidResources.Text
