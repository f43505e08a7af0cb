/-!
# Configurations

What a device is, or what a definition is meant for. A field that is zero says nothing about the
device; several qualifiers may share the bits of one field.
-/
namespace AndroidResources

/-- A language or region: two ASCII characters, or three packed into fifteen bits below a high bit. -/
structure LocaleCode where
  first : UInt8 := 0
  second : UInt8 := 0
  deriving DecidableEq, Inhabited

namespace LocaleCode

/-- No language or region. -/
def unset : LocaleCode := {}

/-- The two bytes as one number. -/
def toNat (code : LocaleCode) : Nat :=
  code.first.toNat * 256 + code.second.toNat

end LocaleCode

/-- A device configuration, or the qualifiers of a definition. -/
structure Configuration where
  mobileCountry : UInt16 := 0
  mobileNetwork : UInt16 := 0
  language : LocaleCode := .unset
  region : LocaleCode := .unset
  grammar : UInt8 := 0
  /-- Screen size, screen length and layout direction. -/
  screenLayout : UInt8 := 0
  smallestWidth : UInt16 := 0
  width : UInt16 := 0
  height : UInt16 := 0
  /-- Whether the screen is round. -/
  screenShape : UInt8 := 0
  /-- Colour gamut and dynamic range. -/
  colorMode : UInt8 := 0
  orientation : UInt8 := 0
  /-- Kind of device and night mode. -/
  uiMode : UInt8 := 0
  density : UInt16 := 0
  touchscreen : UInt8 := 0
  keyboard : UInt8 := 0
  navigation : UInt8 := 0
  /-- Whether keyboard and navigation are hidden. -/
  input : UInt8 := 0
  pixelWidth : UInt16 := 0
  pixelHeight : UInt16 := 0
  sdk : UInt16 := 0
  minorVersion : UInt16 := 0
  deriving DecidableEq, Inhabited

namespace Configuration

/-! ## Qualifiers that share a field -/

def gender (c : Configuration) : UInt8 := c.grammar &&& 0x03
def screenSize (c : Configuration) : UInt8 := c.screenLayout &&& 0x0f
def screenLength (c : Configuration) : UInt8 := c.screenLayout &&& 0x30
def direction (c : Configuration) : UInt8 := c.screenLayout &&& 0xc0
def roundness (c : Configuration) : UInt8 := c.screenShape &&& 0x03
def gamut (c : Configuration) : UInt8 := c.colorMode &&& 0x03
def dynamicRange (c : Configuration) : UInt8 := c.colorMode &&& 0x0c
def uiType (c : Configuration) : UInt8 := c.uiMode &&& 0x0f
def night (c : Configuration) : UInt8 := c.uiMode &&& 0x30
def keysHidden (c : Configuration) : UInt8 := c.input &&& 0x03
def navigationHidden (c : Configuration) : UInt8 := c.input &&& 0x0c

/-! ## Locale -/

/-- Whether a language is set; a region alone is no locale. -/
def hasLocale (c : Configuration) : Bool :=
  c.language ≠ .unset

/-- Nothing but the language and region. -/
def localeOnly (c : Configuration) : Configuration :=
  { language := c.language, region := c.region }

/-- The same device with the language and region of another. -/
def withLocale (c other : Configuration) : Configuration :=
  { c with language := other.language, region := other.region }

/-- The device with another density, unless that is unset. -/
def withDensity (c : Configuration) : Option UInt16 → Configuration
  | some density => if density ≠ 0 then { c with density } else c
  | none => c

/-! ## Order -/

/-- All fields as numbers, in order of precedence. -/
def fields (c : Configuration) : List Nat :=
  [c.mobileCountry.toNat,c.mobileNetwork.toNat,c.language.first.toNat,c.language.second.toNat,
    c.region.first.toNat,c.region.second.toNat,c.grammar.toNat,c.screenLayout.toNat,c.smallestWidth.toNat,
    c.width.toNat,c.height.toNat,c.screenShape.toNat,c.colorMode.toNat,c.orientation.toNat,c.uiMode.toNat,
    c.density.toNat,c.touchscreen.toNat,c.keyboard.toNat,c.navigation.toNat,c.input.toNat,c.pixelWidth.toNat,
    c.pixelHeight.toNat,c.sdk.toNat,c.minorVersion.toNat]

/-- Configurations are ordered by their first different field. -/
instance : Ord Configuration where
  compare a b := compare a.fields b.fields

theorem fields_injective {a b : Configuration} (same : a.fields = b.fields) : a = b := by
  rcases a with ⟨_,_,⟨_,_⟩,⟨_,_⟩⟩
  rcases b with ⟨_,_,⟨_,_⟩,⟨_,_⟩⟩
  simpa [fields,← UInt8.toNat_inj,← UInt16.toNat_inj,and_assoc] using same

instance : Std.TransOrd Configuration where
  eq_swap {a b} := Std.OrientedOrd.eq_swap (a := a.fields) (b := b.fields)
  isLE_trans {a b c} := Std.TransOrd.isLE_trans (a := a.fields) (b := b.fields) (c := c.fields)

instance : Std.LawfulEqOrd Configuration where
  compare_self {a} := Std.ReflOrd.compare_self (a := a.fields)
  eq_of_compare same := fields_injective (Std.LawfulEqOrd.eq_of_compare same)

end Configuration

end AndroidResources
