import AndroidResources.Text.Digits

/-!
# JSON tokens

The words of a JSON document. Blanks between them are spaces, tabs and line ends.
-/
namespace AndroidResources.Json

/-- A word of a document. -/
inductive Token where
  | openArray
  | closeArray
  | openObject
  | closeObject
  | comma
  | colon
  | null
  | bool (b : Bool)
  | integer (n : Int)
  | decimal (negative : Bool) (significand : Nat) (exponent : Int)
  | text (s : String)
  /-- Text with half of a surrogate pair. -/
  | brokenText
  /-- A number that no double precision number is near to. -/
  | hugeNumber
  deriving DecidableEq

/-! ## Text -/

/-- A piece of text between quotes: a character as it stands, or a UTF-16 unit by its number. -/
inductive Piece where
  | char (c : Char)
  | unit (n : Nat)

/-- The character of a one-letter escape. -/
def escaped? : Char → Option Char
  | '"' => some '"'
  | '\\' => some '\\'
  | '/' => some '/'
  | 'b' => some '\x08'
  | 'f' => some '\x0c'
  | 'n' => some '\n'
  | 'r' => some '\r'
  | 't' => some '\t'
  | _ => none

/-- The pieces up to the closing quote, with what follows it. -/
def pieces? : List Char → Option (List Piece × List Char)
  | [] => none
  | '"' :: rest => some ([],rest)
  | '\\' :: 'u' :: a :: b :: c :: d :: rest =>
    match Text.hexNumber? [a,b,c,d], pieces? rest with
    | some n, some (ps,rest) => some (.unit n :: ps,rest)
    | _, _ => none
  | '\\' :: c :: rest =>
    match escaped? c, pieces? rest with
    | some c, some (ps,rest) => some (.char c :: ps,rest)
    | _, _ => none
  | c :: rest =>
    if c.toNat < 0x20 then none
    else (pieces? rest).map fun (ps,rest) => (.char c :: ps,rest)

/-- Puts pieces together; a high surrogate needs a low one behind it, and a low one a high one before. -/
def assemble? : List Piece → Option (List Char)
  | [] => some []
  | .char c :: rest => (assemble? rest).map (c :: ·)
  | .unit high :: .unit low :: rest =>
    if 0xd800 ≤ high ∧ high < 0xdc00 then
      if 0xdc00 ≤ low ∧ low < 0xe000 then
        (assemble? rest).map (Char.ofNat (0x10000 + (high - 0xd800) * 0x400 + (low - 0xdc00)) :: ·)
      else none
    else if 0xdc00 ≤ high ∧ high < 0xe000 then none
    else (assemble? (.unit low :: rest)).map (Char.ofNat high :: ·)
  | .unit n :: rest =>
    if 0xd800 ≤ n ∧ n < 0xe000 then none else (assemble? rest).map (Char.ofNat n :: ·)

/-- The text that starts after an opening quote. -/
def textToken? (cs : List Char) : Option (Token × List Char) :=
  (pieces? cs).map fun (ps,rest) =>
    match assemble? ps with
    | some text => (.text (String.ofList text),rest)
    | none => (.brokenText,rest)

/-! ## Numbers -/

/-- Whether `significand * 10 ^ exponent` rounds to no finite number of double precision. -/
def isHuge (significand : Nat) (exponent : Int) : Bool :=
  let magnitude := (Nat.toDigits 10 significand).length + exponent
  if significand = 0 ∨ magnitude < 309 then false
  else if 309 < magnitude then true
  else 0x3fffffffffffff * Nat.pow 2 970 * Nat.pow 10 (-exponent).toNat ≤ significand * Nat.pow 10 exponent.toNat

/-- The digits after a point, of which there has to be one; no digits when there is no point. -/
def fraction? : List Char → Option (List Char × List Char)
  | '.' :: rest =>
    match rest.takeWhile Char.isDigit with
    | [] => none
    | digits => some (digits,rest.dropWhile Char.isDigit)
  | cs => some ([],cs)

/-- The exponent after `e` or `E`; none when there is neither. -/
def exponent? : List Char → Option (Option Int × List Char)
  | c :: rest =>
    if c = 'e' ∨ c = 'E' then
      let (negative,rest) :=
        match rest with
        | '-' :: rest => (true,rest)
        | '+' :: rest => (false,rest)
        | rest => (false,rest)
      match rest.takeWhile Char.isDigit with
      | [] => none
      | digits =>
        let n : Int := Nat.ofDigitChars 10 digits 0
        some (some (if negative then -n else n),rest.dropWhile Char.isDigit)
    else some (none,c :: rest)
  | [] => some (none,[])

/-- The number at the front of a text, after its sign. -/
def numberToken? (negative : Bool) (cs : List Char) : Option (Token × List Char) := do
  let (whole,rest) ← Text.leadingDecimal? cs
  let (digits,rest) ← fraction? rest
  let (exponent,rest) ← exponent? rest
  if digits = [] ∧ exponent = none ∧ ¬ (negative ∧ whole = 0) then
    if isHuge whole 0 then some (.hugeNumber,rest)
    else some (.integer (if negative then -(whole : Int) else whole),rest)
  else
    let significand := Nat.ofDigitChars 10 digits whole
    let exponent := exponent.getD 0 - digits.length
    if isHuge significand exponent then some (.hugeNumber,rest)
    else some (.decimal negative significand exponent,rest)

/-! ## Documents -/

/-- Whether a character may stand between words. -/
def isBlank (c : Char) : Bool :=
  c == ' ' || c == '\n' || c == '\t' || c == '\r'

/-- The word at the front of a text that does not start with a blank. -/
def token? : List Char → Option (Token × List Char)
  | '[' :: rest => some (.openArray,rest)
  | ']' :: rest => some (.closeArray,rest)
  | '\x7b' :: rest => some (.openObject,rest)
  | '\x7d' :: rest => some (.closeObject,rest)
  | ',' :: rest => some (.comma,rest)
  | ':' :: rest => some (.colon,rest)
  | 'n' :: 'u' :: 'l' :: 'l' :: rest => some (.null,rest)
  | 't' :: 'r' :: 'u' :: 'e' :: rest => some (.bool true,rest)
  | 'f' :: 'a' :: 'l' :: 's' :: 'e' :: rest => some (.bool false,rest)
  | '"' :: rest => textToken? rest
  | '-' :: rest => numberToken? true rest
  | cs => numberToken? false cs

/-- The words of a text, read in at most `fuel` steps. -/
def tokensWithin? : (fuel : Nat) → List Char → Option (List Token)
  | fuel, cs =>
    match cs.dropWhile isBlank with
    | [] => some []
    | c :: rest =>
      match fuel with
      | 0 => none
      | fuel + 1 =>
        match token? (c :: rest) with
        | none => none
        | some (token,rest) => (tokensWithin? fuel rest).map (token :: ·)

/-- The words of a text; every word takes at least one character. -/
def tokens? (s : String) : Option (List Token) :=
  let cs := s.toList
  tokensWithin? cs.length cs

end AndroidResources.Json
