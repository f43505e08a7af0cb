import Mathlib.Data.List.Induction
import AndroidResources.Configuration.Text

/-!
# Kinds of qualifiers

A configuration has one qualifier of each kind, some of them in the bits of one field. To apply a qualifier replaces the one of
its kind and keeps all others (`Configuration.qualifier_apply`), so that of many qualifiers the last one of each kind counts
(`Configuration.ofQualifiers_qualifier`), and nothing else does (`Configuration.ofQualifiers_eq`).
-/
namespace AndroidResources

/-! ## Fields that are shared -/

section
variable {field keep bits mask mask' : UInt8}

theorem and_or_and (field keep bits mask : UInt8) :
    ((field &&& keep) ||| bits) &&& mask = (field &&& (keep &&& mask)) ||| (bits &&& mask) := by
  rw [← UInt8.and_assoc,← UInt8.toBitVec_inj]
  simp only [UInt8.toBitVec_and,UInt8.toBitVec_or,BitVec.and_or_distrib_right]

/-- Bits that replace those under their mask are there. -/
theorem and_or_and_same (fits : bits &&& mask = bits) (cleared : keep &&& mask = 0) :
    ((field &&& keep) ||| bits) &&& mask = bits := by
  rw [and_or_and,cleared,fits,UInt8.and_zero,UInt8.zero_or]

/-- Bits under another mask stay. -/
theorem and_or_and_other (fits : bits &&& mask = bits) (apart : mask &&& mask' = 0) (kept : keep &&& mask' = mask') :
    ((field &&& keep) ||| bits) &&& mask' = field &&& mask' := by
  rw [and_or_and,kept,← fits,UInt8.and_assoc,apart,UInt8.and_zero,UInt8.or_zero]

theorem and_eq_or {field' : UInt8} (same : field &&& mask = field' &&& mask) (same' : field &&& mask' = field' &&& mask') :
    field &&& (mask ||| mask') = field' &&& (mask ||| mask') := by
  have under (field : UInt8) : field &&& (mask ||| mask') = (field &&& mask) ||| (field &&& mask') := by
    rw [← UInt8.toBitVec_inj]
    simp only [UInt8.toBitVec_and,UInt8.toBitVec_or,BitVec.and_or_distrib_left]
  rw [under,under,same,same']

theorem eq_of_and_eq {field' : UInt8} (same : field &&& 0xff = field' &&& 0xff) : field = field' := by
  have under (field : UInt8) : field &&& 0xff = field := UInt8.and_neg_one
  rwa [under,under] at same

end

namespace Qualifier

/-- What a qualifier says something about. -/
inductive Kind where
  | mobileCountry
  | mobileNetwork
  | language
  | region
  | gender
  | direction
  | smallestWidth
  | width
  | height
  | screenSize
  | screenLength
  | roundness
  | gamut
  | dynamicRange
  | orientation
  | uiType
  | night
  | density
  | touchscreen
  | keysHidden
  | keyboard
  | navigationHidden
  | navigation
  | pixels
  | version
  deriving DecidableEq

def kind : Qualifier → Kind
  | mobileCountry _ => .mobileCountry
  | mobileNetwork _ => .mobileNetwork
  | language _ => .language
  | region _ => .region
  | gender _ => .gender
  | direction _ => .direction
  | smallestWidth _ => .smallestWidth
  | width _ => .width
  | height _ => .height
  | screenSize _ => .screenSize
  | screenLength _ => .screenLength
  | roundness _ => .roundness
  | gamut _ => .gamut
  | dynamicRange _ => .dynamicRange
  | orientation _ => .orientation
  | uiType _ => .uiType
  | night _ => .night
  | density _ => .density
  | touchscreen _ => .touchscreen
  | keysHidden _ => .keysHidden
  | keyboard _ => .keyboard
  | navigationHidden _ => .navigationHidden
  | navigation _ => .navigation
  | pixels _ _ => .pixels
  | version _ => .version

/-- Whether a qualifier has no bits but those of its kind. -/
def fits : Qualifier → Bool
  | gender bits | roundness bits | gamut bits | keysHidden bits => bits &&& 0x03 = bits
  | dynamicRange bits | navigationHidden bits => bits &&& 0x0c = bits
  | screenSize bits | uiType bits => bits &&& 0x0f = bits
  | screenLength bits | night bits => bits &&& 0x30 = bits
  | direction bits => bits &&& 0xc0 = bits
  | _ => true

end Qualifier

namespace Configuration
open Qualifier (Kind)
variable {c c' : Configuration} {q : Qualifier} {qualifiers : List Qualifier} {k : Kind}

/-- The qualifier of a kind that a configuration has. -/
def qualifier (c : Configuration) : Kind → Qualifier
  | .mobileCountry => .mobileCountry c.mobileCountry
  | .mobileNetwork => .mobileNetwork c.mobileNetwork
  | .language => .language c.language
  | .region => .region c.region
  | .gender => .gender c.gender
  | .direction => .direction c.direction
  | .smallestWidth => .smallestWidth c.smallestWidth
  | .width => .width c.width
  | .height => .height c.height
  | .screenSize => .screenSize c.screenSize
  | .screenLength => .screenLength c.screenLength
  | .roundness => .roundness c.roundness
  | .gamut => .gamut c.gamut
  | .dynamicRange => .dynamicRange c.dynamicRange
  | .orientation => .orientation c.orientation
  | .uiType => .uiType c.uiType
  | .night => .night c.night
  | .density => .density c.density
  | .touchscreen => .touchscreen c.touchscreen
  | .keysHidden => .keysHidden c.keysHidden
  | .keyboard => .keyboard c.keyboard
  | .navigationHidden => .navigationHidden c.navigationHidden
  | .navigation => .navigation c.navigation
  | .pixels => .pixels c.pixelWidth c.pixelHeight
  | .version => .version c.sdk

theorem kind_qualifier (c : Configuration) (k : Kind) : (c.qualifier k).kind = k := by
  cases k <;> rfl

theorem fits_qualifier (c : Configuration) (k : Kind) : (c.qualifier k).fits := by
  have under (field mask : UInt8) : (field &&& mask) &&& mask = field &&& mask := by
    rw [UInt8.and_assoc,UInt8.and_self]
  cases k <;> first | rfl | exact decide_eq_true (under _ _)

/-- A qualifier replaces the one of its kind, and no other one. -/
theorem qualifier_apply (fits : q.fits) (c : Configuration) (k : Kind) :
    (c.apply q).qualifier k = if k = q.kind then q else c.qualifier k := by
  cases q
  case gender | roundness | gamut | dynamicRange | uiType | night | keysHidden | navigationHidden | direction | screenSize |
      screenLength =>
    have fits := of_decide_eq_true fits
    cases k <;> try rfl
    all_goals
      -- What is left are the kinds that share the field, the qualifier's own one among them.
      simp only [qualifier,Qualifier.kind,reduceIte,reduceCtorEq]
      congr 1
      first
        | exact and_or_and_same fits rfl
        | exact and_or_and_other fits rfl rfl
  all_goals cases k <;> rfl

/-- What a configuration has besides its qualifiers. -/
def remainder (c : Configuration) : Configuration :=
  { grammar := c.grammar &&& 0xfc
    screenShape := c.screenShape &&& 0xfc
    colorMode := c.colorMode &&& 0xf0
    uiMode := c.uiMode &&& 0xc0
    input := c.input &&& 0xf0
    minorVersion := c.minorVersion }

theorem remainder_apply (fits : q.fits) (c : Configuration) : (c.apply q).remainder = c.remainder := by
  cases q
  case gender | roundness | gamut | dynamicRange | uiType | night | keysHidden | navigationHidden =>
    have fits := of_decide_eq_true fits
    simp only [apply,remainder]
    congr 1
    exact and_or_and_other fits rfl rfl
  all_goals rfl

/-- A configuration is its qualifiers and what it has besides them. -/
theorem ext_qualifier (same : ∀ k, c.qualifier k = c'.qualifier k) (rest : c.remainder = c'.remainder) : c = c' := by
  have grammar : c.grammar = c'.grammar :=
    eq_of_and_eq (and_eq_or (Qualifier.gender.inj (same .gender)) (congrArg Configuration.grammar rest))
  have screenShape : c.screenShape = c'.screenShape :=
    eq_of_and_eq (and_eq_or (Qualifier.roundness.inj (same .roundness)) (congrArg screenShape rest))
  have colorMode : c.colorMode = c'.colorMode :=
    eq_of_and_eq (and_eq_or (and_eq_or (Qualifier.gamut.inj (same .gamut)) (Qualifier.dynamicRange.inj (same .dynamicRange)))
      (congrArg Configuration.colorMode rest))
  have uiMode : c.uiMode = c'.uiMode :=
    eq_of_and_eq (and_eq_or (and_eq_or (Qualifier.uiType.inj (same .uiType)) (Qualifier.night.inj (same .night)))
      (congrArg Configuration.uiMode rest))
  have input : c.input = c'.input :=
    eq_of_and_eq (and_eq_or (and_eq_or (Qualifier.keysHidden.inj (same .keysHidden))
      (Qualifier.navigationHidden.inj (same .navigationHidden))) (congrArg Configuration.input rest))
  have screenLayout : c.screenLayout = c'.screenLayout :=
    eq_of_and_eq (and_eq_or (and_eq_or (Qualifier.screenSize.inj (same .screenSize))
      (Qualifier.screenLength.inj (same .screenLength))) (Qualifier.direction.inj (same .direction)))
  have minorVersion : c.minorVersion = c'.minorVersion :=
    show c.remainder.minorVersion = c'.remainder.minorVersion by rw [rest]
  obtain ⟨pixelWidth,pixelHeight⟩ := Qualifier.pixels.inj (same .pixels)
  apply fields_injective
  unfold fields
  rw [Qualifier.mobileCountry.inj (same .mobileCountry),Qualifier.mobileNetwork.inj (same .mobileNetwork),
    Qualifier.language.inj (same .language),Qualifier.region.inj (same .region),grammar,screenLayout,
    Qualifier.smallestWidth.inj (same .smallestWidth),Qualifier.width.inj (same .width),
    Qualifier.height.inj (same .height),screenShape,colorMode,Qualifier.orientation.inj (same .orientation),uiMode,
    Qualifier.density.inj (same .density),Qualifier.touchscreen.inj (same .touchscreen),
    Qualifier.keyboard.inj (same .keyboard),Qualifier.navigation.inj (same .navigation),input,pixelWidth,pixelHeight,
    Qualifier.version.inj (same .version),minorVersion]

/-- Of qualifiers of different kinds there is at most one to find. -/
theorem find?_kind_eq_some_iff (apart : qualifiers.Pairwise fun q r => q.kind ≠ r.kind) :
    (qualifiers.find? fun q => q.kind = k) = some q ↔ q ∈ qualifiers ∧ q.kind = k := by
  constructor
  · exact fun found => ⟨List.mem_of_find?_eq_some found,by simpa using List.find?_some found⟩
  · rintro ⟨mem,rfl⟩
    induction apart with
    | nil => cases mem
    | @cons first rest differ _ ih =>
      rcases List.mem_cons.1 mem with rfl | mem
      · exact List.find?_cons_of_pos (by simp)
      · rw [List.find?_cons_of_neg (by simpa using differ q mem)]
        exact ih mem

/-- Of many qualifiers the last one of a kind is the one that there is. -/
theorem ofQualifiers_qualifier (fit : ∀ q ∈ qualifiers, q.fits) (k : Kind) : (ofQualifiers qualifiers).qualifier k =
    (qualifiers.reverse.find? fun q => q.kind = k).getD (({} : Configuration).qualifier k) := by
  induction qualifiers using List.reverseRecOn with
  | nil => rfl
  | append_singleton qualifiers q ih =>
    have earlier := ih fun q mem => fit q (List.mem_append_left _ mem)
    have last : (ofQualifiers (qualifiers ++ [q])) = (ofQualifiers qualifiers).apply q := List.foldl_append
    rw [last,qualifier_apply (fit q (by simp)),earlier,List.reverse_append,List.reverse_singleton,List.singleton_append,
      List.find?_cons]
    by_cases here : q.kind = k
    · simp [here]
    · simp [here,Ne.symm here]

theorem remainder_ofQualifiers (fit : ∀ q ∈ qualifiers, q.fits) : (ofQualifiers qualifiers).remainder = {} := by
  induction qualifiers using List.reverseRecOn with
  | nil => rfl
  | append_singleton qualifiers q ih =>
    have last : (ofQualifiers (qualifiers ++ [q])) = (ofQualifiers qualifiers).apply q := List.foldl_append
    rw [last,remainder_apply (fit q (by simp)),ih fun q mem => fit q (List.mem_append_left _ mem)]

theorem ofQualifiers_eq {qualifiers' : List Qualifier} (fit : ∀ q ∈ qualifiers, q.fits) (fit' : ∀ q ∈ qualifiers', q.fits)
    (last : ∀ k, (qualifiers.reverse.find? fun q => q.kind = k) = qualifiers'.reverse.find? fun q => q.kind = k) :
    ofQualifiers qualifiers = ofQualifiers qualifiers' := by
  refine ext_qualifier (fun k => ?_) ?_
  · rw [ofQualifiers_qualifier fit,ofQualifiers_qualifier fit',last k]
  · rw [remainder_ofQualifiers fit,remainder_ofQualifiers fit']

/-- Qualifiers of different kinds make the same configuration in any order. -/
theorem ofQualifiers_perm {qualifiers' : List Qualifier} (fit : ∀ q ∈ qualifiers, q.fits)
    (apart : qualifiers.Pairwise fun q r => q.kind ≠ r.kind) (perm : qualifiers'.Perm qualifiers) :
    ofQualifiers qualifiers' = ofQualifiers qualifiers := by
  have fit' : ∀ q ∈ qualifiers', q.fits := fun q mem => fit q (perm.subset mem)
  refine ofQualifiers_eq fit' fit fun k => Option.ext fun q => ?_
  have both := (qualifiers'.reverse_perm.trans perm).trans qualifiers.reverse_perm.symm
  have apartReversed := (qualifiers.reverse_perm.pairwise_iff fun apart => Ne.symm apart).2 apart
  rw [find?_kind_eq_some_iff ((both.pairwise_iff fun apart => Ne.symm apart).2 apartReversed),
    find?_kind_eq_some_iff apartReversed,both.mem_iff]

end Configuration

end AndroidResources
