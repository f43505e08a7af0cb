import AndroidResources.Configuration.Basic
import AndroidResources.Text.Digits

/-!
# Qualifiers

A qualifier is one word of a configuration's text: a keyword such as `land`, a number with a unit such
as `sw600dp`, a language or a region. Words of every other kind are refused.
-/
namespace AndroidResources

namespace LocaleCode

/-- Packs two or three ASCII characters; three of them by their distance from a base, five bits each. -/
def encode (base : UInt8) : List Char → LocaleCode
  | [a,b] => ⟨a.toUInt8,b.toUInt8⟩
  | [a,b,c] =>
    let first := (a.toUInt8 - base) &&& 0x1f
    let second := (b.toUInt8 - base) &&& 0x1f
    let third := (c.toUInt8 - base) &&& 0x1f
    ⟨(0x80 : UInt8) ||| (third <<< 2) ||| (second >>> 3),(second <<< 5) ||| first⟩
  | _ => unset

/-- The characters that a code packs. A second byte beyond ASCII is no character. -/
def decode (base : UInt8) (code : LocaleCode) : List Char :=
  if code = unset then []
  else if code.first &&& 0x80 = 0 then
    [Char.ofUInt8 code.first,if code.second < 0x80 then Char.ofUInt8 code.second else '\ufffd']
  else
    let first := code.second &&& 0x1f
    let second := ((code.second &&& 0xe0) >>> 5) ||| ((code.first &&& 0x03) <<< 3)
    let third := (code.first &&& 0x7c) >>> 2
    [first,second,third].map fun letter => Char.ofUInt8 (letter + base)

/-- Three letters of a language count from `a`. -/
def languageBase : UInt8 := 'a'.toUInt8

/-- Three digits of a region count from `0`. -/
def regionBase : UInt8 := '0'.toUInt8

end LocaleCode

/-- One qualifier with its value. -/
inductive Qualifier where
  | mobileCountry (code : UInt16)
  | mobileNetwork (code : UInt16)
  | language (code : LocaleCode)
  | region (code : LocaleCode)
  | gender (bits : UInt8)
  | direction (bits : UInt8)
  | smallestWidth (dp : UInt16)
  | width (dp : UInt16)
  | height (dp : UInt16)
  | screenSize (bits : UInt8)
  | screenLength (bits : UInt8)
  | roundness (bits : UInt8)
  | gamut (bits : UInt8)
  | dynamicRange (bits : UInt8)
  | orientation (bits : UInt8)
  | uiType (bits : UInt8)
  | night (bits : UInt8)
  | density (dpi : UInt16)
  | touchscreen (bits : UInt8)
  | keysHidden (bits : UInt8)
  | keyboard (bits : UInt8)
  | navigationHidden (bits : UInt8)
  | navigation (bits : UInt8)
  | pixels (width height : UInt16)
  | version (sdk : UInt16)
  deriving DecidableEq

namespace Qualifier

/-- The words that stand for one qualifier each. -/
def keywords : List (String × Qualifier) :=
  [("neuter",gender 1),("feminine",gender 2),("masculine",gender 3),
    ("ldltr",direction 0x40),("ldrtl",direction 0x80),
    ("small",screenSize 1),("normal",screenSize 2),("large",screenSize 3),("xlarge",screenSize 4),
    ("notlong",screenLength 0x10),("long",screenLength 0x20),
    ("notround",roundness 1),("round",roundness 2),
    ("nowidecg",gamut 1),("widecg",gamut 2),
    ("lowdr",dynamicRange 4),("highdr",dynamicRange 8),
    ("port",orientation 1),("land",orientation 2),("square",orientation 3),
    ("desk",uiType 2),("car",uiType 3),("television",uiType 4),("appliance",uiType 5),("watch",uiType 6),
    ("vrheadset",uiType 7),
    ("notnight",night 0x10),("night",night 0x20),
    ("ldpi",density 120),("mdpi",density 160),("tvdpi",density 213),("hdpi",density 240),
    ("xhdpi",density 320),("xxhdpi",density 480),("xxxhdpi",density 640),("anydpi",density 0xfffe),
    ("nodpi",density 0xffff),
    ("notouch",touchscreen 1),("stylus",touchscreen 2),("finger",touchscreen 3),
    ("keysexposed",keysHidden 1),("keyshidden",keysHidden 2),("keyssoft",keysHidden 3),
    ("nokeys",keyboard 1),("qwerty",keyboard 2),("12key",keyboard 3),
    ("navexposed",navigationHidden 4),("navhidden",navigationHidden 8),
    ("nonav",navigation 1),("dpad",navigation 2),("trackball",navigation 3),("wheel",navigation 4)]

/-! ## Reading -/

/-- A way to read a qualifier off the front of a word. -/
abbrev Reader := List Char → Option (Qualifier × List Char)

/-- A 16-bit decimal number without leading zeros. -/
def number? (cs : List Char) : Option (UInt16 × List Char) :=
  match Text.leadingDecimal? cs with
  | some (n,rest) => if n < UInt16.size then some (.ofNat n,rest) else none
  | none => none

/-- A number between two texts. -/
def numbered (before after : String) (make : UInt16 → Qualifier) : Reader := fun cs => do
  let rest ← List.isPrefixOf? before.toList cs
  let (n,rest) ← number? rest
  let rest ← List.isPrefixOf? after.toList rest
  some (make n,rest)

/-- Width and height in pixels with an `x` between them. -/
def pixelReader : Reader := fun cs => do
  let (across,rest) ← number? cs
  let rest ← List.isPrefixOf? ['x'] rest
  let (down,rest) ← number? rest
  some (pixels across down,rest)

/-- The first `n` characters, when all of them are of one kind. -/
def run? (n : Nat) (kind : Char → Bool) (cs : List Char) : Option (List Char × List Char) :=
  if n ≤ cs.length ∧ (cs.take n).all kind then some (cs.take n,cs.drop n) else none

/-- A region: an `r` with two capital letters or three digits. -/
def regionReader : Reader := fun cs => do
  let rest ← List.isPrefixOf? ['r'] cs
  let (code,rest) ← (run? 2 Char.isUpper rest).or (run? 3 Char.isDigit rest)
  some (region (.encode LocaleCode.regionBase code),rest)

/-- A language: three small letters, or two where there are no three. -/
def languageReader : Reader := fun cs => do
  let (code,rest) ← (run? 3 Char.isLower cs).or (run? 2 Char.isLower cs)
  some (language (.encode LocaleCode.languageBase code),rest)

/-- The readers in the order in which they are tried. -/
def readers : List Reader :=
  [numbered "mcc" "" mobileCountry,numbered "mnc" "" mobileNetwork,numbered "sw" "dp" smallestWidth,
    numbered "w" "dp" width,numbered "h" "dp" height,numbered "" "dpi" density,pixelReader,
    numbered "v" "" version,regionReader,languageReader]

/-- The qualifier that a word stands for: a keyword, or what the first reader that accepts its front
    makes of all of it. -/
def ofWord? (word : List Char) : Option Qualifier :=
  match keywords.lookup (String.ofList word) with
  | some qualifier => some qualifier
  | none =>
    match readers.findSome? fun read => read word with
    | some (qualifier,[]) => some qualifier
    | _ => none

/-! ## Writing -/

/-- How a value without a keyword is written, so that it cannot be read back. -/
def unknownText (bits : UInt8) : String :=
  "unknown_0x" ++ Text.hexShort bits.toNat

/-- How a qualifier without a keyword is written. -/
def plainText : Qualifier → String
  | mobileCountry code => "mcc" ++ Nat.repr code.toNat
  | mobileNetwork code => "mnc" ++ Nat.repr code.toNat
  | language code => String.ofList (code.decode LocaleCode.languageBase)
  | region code => "r" ++ String.ofList (code.decode LocaleCode.regionBase)
  | smallestWidth dp => "sw" ++ Nat.repr dp.toNat ++ "dp"
  | width dp => "w" ++ Nat.repr dp.toNat ++ "dp"
  | height dp => "h" ++ Nat.repr dp.toNat ++ "dp"
  | density dpi => Nat.repr dpi.toNat ++ "dpi"
  | pixels across down => Nat.repr across.toNat ++ "x" ++ Nat.repr down.toNat
  | version sdk => "v" ++ Nat.repr sdk.toNat
  | gender bits | direction bits | screenSize bits | screenLength bits | roundness bits | gamut bits
  | dynamicRange bits | orientation bits | uiType bits | night bits | touchscreen bits | keysHidden bits
  | keyboard bits | navigationHidden bits | navigation bits => unknownText bits

/-- The word for a qualifier. -/
def text (q : Qualifier) : String :=
  match keywords.find? fun entry => entry.2 = q with
  | some (word,_) => word
  | none => q.plainText

end Qualifier

end AndroidResources
