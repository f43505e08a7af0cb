import AndroidResources.Configuration.Preference
import AndroidResources.Proofs.ConfigurationDimensions

/-!
# Preference as an order of merits

On definitions that suit a device, each stage of a comparison rates every definition by a number of its own,
its merit, and prefers the greater one (`Criterion`). So one definition is better than another when its list
of merits is the greater one in lexicographic order (`Configuration.isBetter_iff`).
-/
namespace AndroidResources

open AndroidResources.Configuration (Stage)

/-- What a stage answers that prefers the greater of two numbers. -/
def Configuration.Stage.prefer (mine other : Int) : Option Bool :=
  if mine = other then none else some (other < mine)

theorem Configuration.Stage.prefer_eq_some {mine other : Int} {better : Prop} [Decidable better] (differ : mine ≠ other)
    (agree : better ↔ other < mine) : some (decide better) = prefer mine other := by
  simp [prefer,differ,agree]

/-- A stage, the dimension that it looks at, and the merit of a definition for a device. -/
structure Criterion where
  dimension : Dimension
  stage : Configuration → Stage
  merit : Configuration → Configuration → Int
  /-- The stage prefers the greater merit. -/
  rates : ∀ {device a b : Configuration}, a.suits device → b.suits device →
    stage device a b = Stage.prefer (merit device a) (merit device b)
  /-- The merit depends on the dimension only. -/
  sees : ∀ {device device' c c' : Configuration}, dimension.view device = dimension.view device' →
    dimension.view c = dimension.view c' → merit device c = merit device' c'

namespace Criterion

/-! ## Qualifiers that are set or not -/

/-- Whether a definition sets a qualifier that the device sets. -/
def presence (want held : Nat) : Int :=
  if want = 0 ∨ held = 0 then 0 else 1

/-- A qualifier that a suiting definition shares with the device if both set it. -/
def Shared (d : Dimension) (read : Configuration → Nat) : Prop :=
  ∀ {c device : Configuration}, d.admits c device → read device = 0 ∨ read c = 0 ∨ read c = read device

theorem of_demands {mine theirs : Nat} (met : Configuration.demands mine theirs) :
    theirs = 0 ∨ mine = 0 ∨ mine = theirs := by
  simp only [Configuration.demands,Bool.or_eq_true,decide_eq_true_eq] at met
  exact .inr met

theorem of_agrees {mine theirs : Nat} (met : Configuration.agrees mine theirs) :
    theirs = 0 ∨ mine = 0 ∨ mine = theirs := by
  simp only [Configuration.agrees,Bool.or_eq_true,decide_eq_true_eq] at met
  rcases met with (unset | open_) | same
  · exact .inr (.inl unset)
  · exact .inl open_
  · exact .inr (.inr same)

theorem present_eq {d : Dimension} {read : Configuration → Nat} (shared : Shared d read)
    {device a b : Configuration} (suits_a : a.suits device) (suits_b : b.suits device) :
    Stage.present read device a b =
      Stage.prefer (presence (read device) (read a)) (presence (read device) (read b)) := by
  have of_a := shared (Configuration.suits_iff.1 suits_a d)
  have of_b := shared (Configuration.suits_iff.1 suits_b d)
  by_cases asked : read device = 0
  · simp [Stage.present,Stage.prefer,presence,asked]
  · -- Both read zero or what the device has.
    rcases of_a.resolve_left asked with unset_a | set_a <;> rcases of_b.resolve_left asked with unset_b | set_b
    · simp [Stage.present,Stage.prefer,presence,unset_a,unset_b]
    · simp [Stage.present,Stage.prefer,presence,unset_a,set_b,asked,Ne.symm asked]
    · simp [Stage.present,Stage.prefer,presence,set_a,unset_b,asked]
    · simp [Stage.present,Stage.prefer,presence,set_a,set_b]

/-- A set qualifier is better than an unset one. -/
def present (d : Dimension) (read : Configuration → Nat) (sees : d.Sees read) (shared : Shared d read) :
    Criterion where
  dimension := d
  stage := Stage.present read
  merit device c := presence (read device) (read c)
  rates := present_eq shared
  sees devices definitions := by rw [sees _ _ devices,sees _ _ definitions]

/-- A region counts where the device has a language. -/
def region : Criterion where
  dimension := .locale
  stage := Stage.region
  merit device c := if device.hasLocale then presence device.region.toNat c.region.toNat else 0
  rates {device a b} suits_a suits_b := by
    have shared : Shared .locale (·.region.toNat) := fun met => by
      simp only [Dimension.admits,Bool.and_eq_true] at met
      exact of_demands met.2
    unfold Stage.region
    split
    · exact present_eq shared suits_a suits_b
    · simp [Stage.prefer]
  sees devices definitions := by
    have region_device := Dimension.sees_region _ _ devices
    have region_definition := Dimension.sees_region _ _ definitions
    simp only at region_device region_definition
    rw [Dimension.sees_hasLocale _ _ devices,region_device,region_definition]

/-! ## Sizes -/

/-- A greater qualifier is better. -/
def greater (d : Dimension) (read : Configuration → Nat) (sees : d.Sees read) : Criterion where
  dimension := d
  stage := Stage.greater read
  merit device c := if read device = 0 then 0 else read c
  rates {device a b} _ _ := by
    by_cases unset : read device = 0
    · simp [Stage.greater,Stage.prefer,unset]
    · by_cases same : read a = read b
      · simp [Stage.greater,Stage.prefer,same]
      · have differ : (read a : Int) ≠ read b := fun numbers => same (Int.ofNat_inj.1 numbers)
        simp [Stage.greater,Stage.prefer,unset,same,differ]
  sees devices definitions := by rw [sees _ _ devices,sees _ _ definitions]

/-- A smaller shortfall is better. -/
def closer (d : Dimension) (read : Configuration → Nat × Nat) (sees : d.Sees read) : Criterion where
  dimension := d
  stage := Stage.closer read
  merit device c := -Stage.shortfall read device c
  rates {device a b} _ _ := by
    simp only [Stage.closer,Stage.prefer,Int.neg_inj,Int.neg_lt_neg_iff]
    by_cases same : Stage.shortfall read device a = Stage.shortfall read device b <;> simp [same]
  sees devices definitions := by
    simp only [Stage.shortfall,sees _ _ devices,sees _ _ definitions]

/-- The screen size that a definition stands for: an unset one is normal on screens of at least that size. -/
def impliedSize (want held : Nat) : Nat :=
  if held = 0 ∧ 2 ≤ want then 2 else held

/-- The merit of a screen size: that which is implied, and a little more if it is set. -/
def screenSizeMerit (want held : Nat) : Int :=
  if want = 0 then 0 else 2 * impliedSize want held + if held = 0 then 0 else 1

/-- A greater screen size is better. -/
def screenSize : Criterion where
  dimension := .screenLayout
  stage := Stage.screenSize
  merit device c := screenSizeMerit device.screenSize.toNat c.screenSize.toNat
  rates {device a b} _ _ := by
    have unset : device.screenSize = 0 ↔ device.screenSize.toNat = 0 := by simp [← UInt8.toNat_inj]
    simp only [Stage.screenSize,screenSizeMerit,unset,ne_eq]
    generalize device.screenSize.toNat = want
    generalize a.screenSize.toNat = mine
    generalize b.screenSize.toNat = other
    by_cases asked : want = 0
    · simp [asked,Stage.prefer]
    · by_cases same : mine = other
      · simp [same,Stage.prefer]
      · simp only [asked,same,not_false_eq_true,and_self,if_true,if_false]
        show (if impliedSize want mine = impliedSize want other then some (decide ¬mine = 0)
          else some (decide (impliedSize want other < impliedSize want mine))) = _
        split <;> apply Stage.prefer_eq_some <;> unfold impliedSize at * <;> grind
  sees devices definitions := by
    have size_device := Dimension.sees_screenSize _ _ devices
    have size_definition := Dimension.sees_screenSize _ _ definitions
    simp only at size_device size_definition
    rw [size_device,size_definition]

/-! ## Densities -/

/-- The merit of a density: `any` above all others and `fixed` below them, then the nearer one, then the
    higher one. -/
def densityMerit (want held : Nat) : Int :=
  let held := Density.effective held
  if held = Density.any then 65536
  else if held = Density.fixed then -(65536 * 65536)
  else held - 65536 * Density.distance held (Density.target want)

/-- Distances count before the densities themselves. -/
theorem compare_distances {mine other near far : Nat} (mine_lt : mine < 65536) (other_lt : other < 65536) :
    (compare far near).then (compare mine other) =
      compare ((mine : Int) - 65536 * near) ((other : Int) - 65536 * far) := by
  rcases Nat.lt_trichotomy far near with less | same | greater
  · rw [Nat.compare_eq_lt.2 less,Int.compare_eq_lt.2 (by omega)]
    rfl
  · subst same
    rw [Nat.compare_eq_eq.2 rfl]
    rcases Nat.lt_trichotomy mine other with less | same | greater
    · rw [Nat.compare_eq_lt.2 less,Int.compare_eq_lt.2 (by omega)]
      rfl
    · rw [Nat.compare_eq_eq.2 same,Int.compare_eq_eq.2 (by omega)]
      rfl
    · rw [Nat.compare_eq_gt.2 greater,Int.compare_eq_gt.2 (by omega)]
      rfl
  · rw [Nat.compare_eq_gt.2 greater,Int.compare_eq_gt.2 (by omega)]
    rfl

theorem effective_lt {held : Nat} (held_lt : held < 65536) : Density.effective held < 65536 := by
  unfold Density.effective Density.medium
  split <;> omega

theorem target_lt {want : Nat} (want_lt : want < 65536) : Density.target want < 65536 := by
  unfold Density.target Density.medium
  split <;> omega

theorem distance_lt {a b : Nat} (a_lt : a < 65536) (b_lt : b < 65536) : Density.distance a b < 65536 := by
  unfold Density.distance
  omega

/-- Densities compare as their merits do. -/
theorem density_compare {want mine other : Nat} (want_lt : want < 65536) (mine_lt : mine < 65536)
    (other_lt : other < 65536) :
    Density.compare mine other want = compare (densityMerit want mine) (densityMerit want other) := by
  have mine_lt := effective_lt mine_lt
  have other_lt := effective_lt other_lt
  have near_lt := distance_lt mine_lt (target_lt want_lt)
  have far_lt := distance_lt other_lt (target_lt want_lt)
  simp only [Density.compare,densityMerit]
  generalize Density.effective mine = mine at *
  generalize Density.effective other = other at *
  by_cases same : mine = other
  · rw [if_pos same,same,Int.compare_eq_eq.2 rfl]
  · generalize Density.distance mine (Density.target want) = near at *
    generalize Density.distance other (Density.target want) = far at *
    rw [if_neg same]
    by_cases mine_any : mine = Density.any
    · have other_not : other ≠ Density.any := fun other_any => same (mine_any.trans other_any.symm)
      rw [if_pos mine_any,if_pos mine_any,if_neg other_not,Int.compare_eq_gt.2]
      split <;> omega
    · rw [if_neg mine_any,if_neg mine_any]
      by_cases other_any : other = Density.any
      · rw [if_pos other_any,if_pos other_any,Int.compare_eq_lt.2]
        split <;> omega
      · rw [if_neg other_any,if_neg other_any]
        by_cases mine_fixed : mine = Density.fixed
        · have other_not : other ≠ Density.fixed := fun other_fixed => same (mine_fixed.trans other_fixed.symm)
          rw [if_pos mine_fixed,if_pos mine_fixed,if_neg other_not,Int.compare_eq_lt.2]
          omega
        · rw [if_neg mine_fixed,if_neg mine_fixed]
          by_cases other_fixed : other = Density.fixed
          · rw [if_pos other_fixed,if_pos other_fixed,Int.compare_eq_gt.2]
            omega
          · rw [if_neg other_fixed,if_neg other_fixed]
            exact compare_distances mine_lt other_lt

/-- The nearer density is better. -/
def density : Criterion where
  dimension := .density
  stage := Stage.density
  merit device c := densityMerit device.density.toNat c.density.toNat
  rates {device a b} _ _ := by
    unfold Stage.density
    rw [density_compare device.density.toNat_lt a.density.toNat_lt b.density.toNat_lt]
    generalize densityMerit device.density.toNat a.density.toNat = mine
    generalize densityMerit device.density.toNat b.density.toNat = other
    unfold Stage.prefer
    rcases Int.lt_trichotomy mine other with less | same | greater
    · rw [Int.compare_eq_lt.2 less,if_neg (by omega),decide_eq_false (by omega)]
    · rw [Int.compare_eq_eq.2 same,if_pos same]
    · rw [Int.compare_eq_gt.2 greater,if_neg (by omega),decide_eq_true greater]
  sees devices definitions := by
    simp only [Dimension.view,List.cons.injEq,and_true] at devices definitions
    rw [devices,definitions]

/-! ## Hidden keys -/

/-- The merit of a setting of hidden keys. -/
def keysHiddenMerit (want held : Nat) : Int :=
  if want = 0 ∨ held = 0 then 0 else if held = want then 2 else 1

/-- The setting of the device is better than any other. -/
def keysHidden : Criterion where
  dimension := .keyboardHidden
  stage := Stage.keysHidden
  merit device c := keysHiddenMerit device.keysHidden.toNat c.keysHidden.toNat
  rates {device a b} _ _ := by
    simp only [Stage.keysHidden,keysHiddenMerit,← UInt8.toNat_inj,UInt8.toNat_zero,ne_eq]
    generalize device.keysHidden.toNat = want
    generalize a.keysHidden.toNat = mine
    generalize b.keysHidden.toNat = other
    unfold Stage.prefer
    by_cases asked : want = 0
    · simp [asked]
    · by_cases same : mine = other
      · simp [same]
      · by_cases mine_unset : mine = 0 <;> by_cases other_unset : other = 0 <;> grind
  sees devices definitions := by
    simp only [Dimension.view,List.cons.injEq,and_true] at devices definitions
    rw [devices.1,definitions.1]

/-! ## All criteria -/

section
open Dimension

/-- All criteria, the most important first. -/
def all : List Criterion :=
  [present .mobileCountry (·.mobileCountry.toNat) (sees_at 0 fun _ => rfl) of_demands,
    present .mobileNetwork (·.mobileNetwork.toNat) (sees_at 0 fun _ => rfl) of_demands,
    present .locale (·.language.toNat) sees_language fun met => of_demands (Bool.and_eq_true_iff.1 met).1,
    region,
    present .gender (·.gender.toNat) (sees_at 0 fun _ => rfl) of_demands,
    greater .direction (·.direction.toNat) (sees_at 0 fun _ => rfl),
    greater .smallestScreenSize (·.smallestWidth.toNat) (sees_at 0 fun _ => rfl),
    closer .screenSize (fun c => (c.width.toNat,c.height.toNat))
      (sees_of (fun view => (view.getD 2 0,view.getD 3 0)) fun _ => rfl),
    screenSize,
    present .screenLayout (·.screenLength.toNat) sees_screenLength fun met => of_agrees (Bool.and_eq_true_iff.1 met).2,
    present .screenRound (·.roundness.toNat) (sees_at 0 fun _ => rfl) of_agrees,
    present .colorMode (·.dynamicRange.toNat) sees_dynamicRange fun met => of_agrees (Bool.and_eq_true_iff.1 met).1,
    present .colorMode (·.gamut.toNat) sees_gamut fun met => of_agrees (Bool.and_eq_true_iff.1 met).2,
    present .orientation (·.orientation.toNat) (sees_at 0 fun _ => rfl) of_agrees,
    present .uiMode (·.uiType.toNat) sees_uiType fun met => of_agrees (Bool.and_eq_true_iff.1 met).1,
    present .uiMode (·.night.toNat) sees_night fun met => of_agrees (Bool.and_eq_true_iff.1 met).2,
    density,
    present .touchscreen (·.touchscreen.toNat) (sees_at 0 fun _ => rfl) of_agrees,
    keysHidden,
    present .keyboard (·.keyboard.toNat) (sees_at 0 fun _ => rfl) of_agrees,
    present .keyboardHidden (·.navigationHidden.toNat) (sees_at 1 fun _ => rfl)
      fun met => of_agrees (Bool.and_eq_true_iff.1 met).2,
    present .navigation (·.navigation.toNat) (sees_at 0 fun _ => rfl) of_agrees,
    closer .screenSize (fun c => (c.pixelWidth.toNat,c.pixelHeight.toNat))
      (sees_of (fun view => (view.getD 0 0,view.getD 1 0)) fun _ => rfl),
    greater .version (·.sdk.toNat) (sees_at 0 fun _ => rfl),
    present .version (·.minorVersion.toNat) (sees_at 1 fun _ => rfl)
      fun met => of_demands (Bool.and_eq_true_iff.1 met).2]

end

theorem stages_eq (device : Configuration) : Configuration.stages device = all.map fun k => k.stage device := rfl

/-- The merits of a definition for a device, in order of importance. -/
def merits (criteria : List Criterion) (device c : Configuration) : List Int :=
  criteria.map fun k => k.merit device c

/-- The first stage that tells two definitions apart decides as the first merit does in which they differ. -/
theorem findSome?_iff (criteria : List Criterion) {device a b : Configuration} (suits_a : a.suits device)
    (suits_b : b.suits device) :
    (criteria.findSome? fun k => k.stage device a b).getD false ↔
      compare (merits criteria device a) (merits criteria device b) = .gt := by
  induction criteria with
  | nil => simp [merits]
  | cons k rest ih =>
    have first : compare (merits (k :: rest) device a) (merits (k :: rest) device b) =
        (compare (k.merit device a) (k.merit device b)).then
          (compare (merits rest device a) (merits rest device b)) :=
      List.compareLex_cons_cons
    rw [first,List.findSome?_cons,k.rates suits_a suits_b,Stage.prefer]
    rcases Int.lt_trichotomy (k.merit device a) (k.merit device b) with less | same | greater
    · rw [Int.compare_eq_lt.2 less,if_neg (by omega)]
      simp [Ordering.then,Int.le_of_lt less]
    · rw [Int.compare_eq_eq.2 same,if_pos same]
      exact ih
    · rw [Int.compare_eq_gt.2 greater,if_neg (by omega)]
      simp [Ordering.then,greater]

end Criterion

namespace Configuration

/-- The merits of a definition for a device. -/
def merits (device c : Configuration) : List Int :=
  Criterion.merits Criterion.all device c

/-- Of two definitions that suit a device, the one with the greater merits is better. -/
theorem isBetter_iff {a b device : Configuration} (suits_a : a.suits device) (suits_b : b.suits device) :
    a.isBetter b device ↔ compare (device.merits a) (device.merits b) = .gt := by
  rw [isBetter,Criterion.stages_eq,List.findSome?_map]
  exact Criterion.findSome?_iff Criterion.all suits_a suits_b

end Configuration

end AndroidResources
