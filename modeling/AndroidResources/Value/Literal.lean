import AndroidResources.ResourceName
import AndroidResources.Value.Text

/-!
# Literals

The texts that values are written with: `@null`, `@0x7f010000`, `@style/Base`, `?attr/accent`, `#ff00ff`,
`true`, `0x10`, `-3`, `1.5`, `16dp`, `50%`. Whatever has none of these forms is a string, and so is
everything behind a backslash.
-/
namespace AndroidResources

open Number (Binary)

/-- A value as it is written, before names and strings are looked up. -/
inductive Literal where
  | value (v : Value)
  | string (s : String)
  /-- A reference by name, to a theme attribute or to another resource. -/
  | name (name : String) (isAttribute : Bool)
  deriving DecidableEq

namespace Literal

/-- A 32-bit word in hexadecimal. -/
def hexId? (cs : List Char) : Option UInt32 :=
  (Text.afterHexMark? cs).bind Text.hexWord?

/-- A reference, by id or by name, of which `s` is the text with its sign. -/
def ofReference (s : String) (rest : List Char) (isAttribute : Bool) : Except TableError Literal :=
  match hexId? rest with
  | some id => .ok (.value (if isAttribute then .themeAttribute id else .reference id))
  | none => (NameParts.ofText s).map fun _ => .name (String.ofList rest) isAttribute

/-! ## Colours -/

/-- A colour from its digits; one digit stands for two of its kind, and alpha is full when left out. -/
def color? (digits : List Char) : Option Value :=
  if digits.all Text.isHexDigit then
    let pair (c : Char) : List Char := [c,c]
    let word (cs : List Char) : UInt32 := .ofNat (Text.hexValue cs)
    match digits with
    | [_,_,_] => some ⟨.rgb4,word ('f' :: 'f' :: digits.flatMap pair)⟩
    | [_,_,_,_] => some ⟨.argb4,word (digits.flatMap pair)⟩
    | [_,_,_,_,_,_] => some ⟨.rgb8,word ('f' :: 'f' :: digits)⟩
    | [_,_,_,_,_,_,_,_] => some ⟨.argb8,word digits⟩
    | _ => none
  else none

/-! ## Numbers -/

/-- A decimal integer without leading zeros that fits into 32 bits; zero has no sign. -/
def integer? (cs : List Char) : Option Value :=
  let (negative,signed,rest) :=
    match cs with
    | '-' :: rest => (true,true,rest)
    | '+' :: rest => (false,true,rest)
    | cs => (false,false,cs)
  match Text.leadingDecimal? rest with
  | some (n,[]) =>
    if signed ∧ n = 0 then none
    else if negative then if n ≤ 0x80000000 then some ⟨.decimal,.ofNat (0x100000000 - n)⟩ else none
    else if n < 0x80000000 then some ⟨.decimal,.ofNat n⟩ else none
  | _ => none

/-- The units of numbers. -/
def units : List (String × ValueType × UInt32) :=
  [("px",.dimension,0),("dp",.dimension,1),("dip",.dimension,1),("sp",.dimension,2),("pt",.dimension,3),
    ("in",.dimension,4),("mm",.dimension,5),("%",.fraction,0),("%p",.fraction,1)]

/-- A decimal number, rounded to single precision, and what stands behind it. -/
def decimal? (cs : List Char) : Option (Binary × List Char) :=
  let (negative,rest) :=
    match cs with
    | '-' :: rest => (true,rest)
    | '+' :: rest => (false,rest)
    | cs => (false,cs)
  match rest.takeWhile Char.isDigit with
  | [] => none
  | whole =>
    let (fraction,rest) :=
      match rest.dropWhile Char.isDigit with
      | '.' :: rest => (rest.takeWhile Char.isDigit,rest.dropWhile Char.isDigit)
      | rest => ([],rest)
    let n := Nat.ofDigitChars 10 (whole ++ fraction) 0
    some (.ofRatio .single negative n (Nat.pow 10 fraction.length),rest)

/-- A number with its unit; without one it is a floating point number. -/
def ofUnit? (n : Binary) (unit : List Char) : Option Value :=
  if unit = [] then some ⟨.float,.ofNat (n.toBits .single)⟩
  else
    (units.lookup (String.ofList unit)).map fun (type,code) =>
      let n := if type = .fraction then n.dividedBy .single 100 else n
      ⟨type,Complex.encode n ||| code⟩

/-- A number of any form. -/
def number? (cs : List Char) : Option Value :=
  match hexId? cs with
  | some data => some ⟨.hexadecimal,data⟩
  | none =>
    match integer? cs with
    | some v => some v
    | none => (decimal? cs).bind fun (n,unit) => ofUnit? n unit

/-! ## Reading -/

/-- The texts that stand for one value each. -/
def keywords : List (String × Value) :=
  [("@null",.reference 0),("@empty",.empty),("@undefined",.undefined),("true",.boolean true),
    ("false",.boolean false)]

/-- Reads a literal. -/
def ofText (s : String) : Except TableError Literal :=
  match keywords.lookup s with
  | some v => .ok (.value v)
  | none =>
    match s.toList with
    | '\\' :: rest => .ok (.string (String.ofList rest))
    | '@' :: rest => ofReference s rest false
    | '?' :: rest => ofReference s rest true
    | '#' :: rest =>
      match color? rest with
      | some v => .ok (.value v)
      | none => .error (.invalidValue s)
    | cs =>
      match number? cs with
      | some v => .ok (.value v)
      | none => .ok (.string s)

end Literal

end AndroidResources
