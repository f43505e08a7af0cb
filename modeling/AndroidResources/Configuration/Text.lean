import AndroidResources.Configuration.Qualifier
import AndroidResources.Text.Blank
import AndroidResources.Error

/-!
# The text of a configuration

Qualifiers with hyphens between them, as in `en-rUS-land-hdpi`. In reading they may come in any order and
may repeat, the last one of a kind counting; in writing they have one order.
-/
namespace AndroidResources.Configuration

/-- The configuration with one qualifier replaced. -/
def apply (c : Configuration) : Qualifier → Configuration
  | .mobileCountry code => { c with mobileCountry := code }
  | .mobileNetwork code => { c with mobileNetwork := code }
  | .language code => { c with language := code }
  | .region code => { c with region := code }
  | .gender bits => { c with grammar := (c.grammar &&& 0xfc) ||| bits }
  | .direction bits => { c with screenLayout := (c.screenLayout &&& 0x3f) ||| bits }
  | .smallestWidth dp => { c with smallestWidth := dp }
  | .width dp => { c with width := dp }
  | .height dp => { c with height := dp }
  | .screenSize bits => { c with screenLayout := (c.screenLayout &&& 0xf0) ||| bits }
  | .screenLength bits => { c with screenLayout := (c.screenLayout &&& 0xcf) ||| bits }
  | .roundness bits => { c with screenShape := (c.screenShape &&& 0xfc) ||| bits }
  | .gamut bits => { c with colorMode := (c.colorMode &&& 0xfc) ||| bits }
  | .dynamicRange bits => { c with colorMode := (c.colorMode &&& 0xf3) ||| bits }
  | .orientation bits => { c with orientation := bits }
  | .uiType bits => { c with uiMode := (c.uiMode &&& 0xf0) ||| bits }
  | .night bits => { c with uiMode := (c.uiMode &&& 0xcf) ||| bits }
  | .density dpi => { c with density := dpi }
  | .touchscreen bits => { c with touchscreen := bits }
  | .keysHidden bits => { c with input := (c.input &&& 0xfc) ||| bits }
  | .keyboard bits => { c with keyboard := bits }
  | .navigationHidden bits => { c with input := (c.input &&& 0xf3) ||| bits }
  | .navigation bits => { c with navigation := bits }
  | .pixels width height => { c with pixelWidth := width, pixelHeight := height }
  | .version sdk => { c with sdk := sdk }

/-- A configuration with the given qualifiers alone. -/
def ofQualifiers (qualifiers : List Qualifier) : Configuration :=
  qualifiers.foldl apply {}

/-- The qualifiers that words stand for, or the first word that is none. -/
def qualifiersOf : List (List Char) → Except TableError (List Qualifier)
  | [] => .ok []
  | word :: rest =>
    match Qualifier.ofWord? word with
    | none => .error (.invalidQualifier (String.ofList word))
    | some qualifier => (qualifiersOf rest).map (qualifier :: ·)

/-- The texts of the configuration that sets nothing. -/
def defaultTexts : List String := ["","default","any"]

/-- Reads a configuration; blanks around it do not count. -/
def ofText (s : String) : Except TableError Configuration :=
  let cs := Text.trimmed Text.isBlank s.toList
  if String.ofList cs ∈ defaultTexts then .ok {}
  else (qualifiersOf (cs.splitOn '-')).map ofQualifiers

/-! ## Writing -/

/-- A qualifier, unless its value is zero. -/
def unlessZero (make : UInt8 → Qualifier) (bits : UInt8) : List Qualifier :=
  if bits = 0 then [] else [make bits]

/-- A qualifier with a 16-bit value, unless that is zero. -/
def unlessUnset (make : UInt16 → Qualifier) (value : UInt16) : List Qualifier :=
  if value = 0 then [] else [make value]

/-- Language and region; a region without a language is not written. -/
def localeQualifiers (c : Configuration) : List Qualifier :=
  if c.hasLocale then
    .language c.language :: if c.region = .unset then [] else [.region c.region]
  else []

/-- Width and height in pixels, if one of them is set. -/
def pixelQualifiers (c : Configuration) : List Qualifier :=
  if c.pixelWidth = 0 ∧ c.pixelHeight = 0 then [] else [.pixels c.pixelWidth c.pixelHeight]

/-- The qualifiers that are set, in their fixed order. -/
def qualifiers (c : Configuration) : List Qualifier :=
  unlessUnset .mobileCountry c.mobileCountry ++
  unlessUnset .mobileNetwork c.mobileNetwork ++
  c.localeQualifiers ++
  unlessZero .gender c.gender ++
  unlessZero .direction c.direction ++
  unlessUnset .smallestWidth c.smallestWidth ++
  unlessUnset .width c.width ++
  unlessUnset .height c.height ++
  unlessZero .screenSize c.screenSize ++
  unlessZero .screenLength c.screenLength ++
  unlessZero .roundness c.roundness ++
  unlessZero .gamut c.gamut ++
  unlessZero .dynamicRange c.dynamicRange ++
  unlessZero .orientation c.orientation ++
  unlessZero .uiType c.uiType ++
  unlessZero .night c.night ++
  unlessUnset .density c.density ++
  unlessZero .touchscreen c.touchscreen ++
  unlessZero .keysHidden c.keysHidden ++
  unlessZero .keyboard c.keyboard ++
  unlessZero .navigationHidden c.navigationHidden ++
  unlessZero .navigation c.navigation ++
  c.pixelQualifiers ++
  unlessUnset .version c.sdk

/-- A configuration's text, empty when it sets nothing. -/
def text (c : Configuration) : String :=
  "-".intercalate (c.qualifiers.map Qualifier.text)

/-- A configuration's text, with a word for the one that sets nothing. -/
def name (c : Configuration) : String :=
  let text := c.text
  if text = "" then "default" else text

/-- The locale as a language tag, empty when there is none. -/
def localeTag (c : Configuration) : String :=
  if c.hasLocale then
    String.ofList (c.language.decode LocaleCode.languageBase) ++
      if c.region = .unset then "" else "-" ++ String.ofList (c.region.decode LocaleCode.regionBase)
  else ""

end AndroidResources.Configuration
