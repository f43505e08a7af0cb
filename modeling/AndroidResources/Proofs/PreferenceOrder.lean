import Mathlib.Data.List.Forall2
import Mathlib.Order.RelClasses
import AndroidResources.Proofs.ConfigurationMerit

/-!
# Preference as a strict weak order

On the definitions that suit a device, better is a strict weak order: lists of merits are compared lexicographically, with
one merit for each stage and in the order of the stages (`Configuration.isBetter_lexicographic`). The merit of a density says
which of two densities is nearer (`Density.Nearer`, `Criterion.densityMerit_lt_iff`).
-/
namespace AndroidResources

/-! ## The nearer density -/

namespace Density

/-- Whether definitions for a density are scaled to that of the device. -/
def Scaled (density : Nat) : Prop :=
  density ≠ any ∧ density ≠ fixed

/-- Whether one density is nearer to a target than another one: `any` is nearer than all others, all others are nearer
    than `fixed`, and of two that are scaled it is the one at the smaller distance, or the higher one at the same. -/
inductive Nearer (target : Nat) : (mine other : Nat) → Prop
  | any {other : Nat} : other ≠ any → Nearer target any other
  | fixed {mine : Nat} : mine ≠ fixed → Nearer target mine fixed
  | closer {mine other : Nat} : Scaled mine → Scaled other → distance mine target < distance other target →
      Nearer target mine other
  | higher {mine other : Nat} : Scaled mine → Scaled other → distance mine target = distance other target →
      other < mine → Nearer target mine other

end Density

namespace Criterion
open Density (any fixed effective target distance Scaled Nearer)
variable {want held : Nat}

theorem densityMerit_any (isAny : effective held = any) : densityMerit want held = 65536 := by
  simp [densityMerit,isAny]

theorem densityMerit_fixed (isFixed : effective held = fixed) : densityMerit want held = -(65536 * 65536) := by
  have notAny : effective held ≠ any := by simp [isFixed,any,fixed]
  simp only [densityMerit]
  rw [if_neg notAny,if_pos isFixed]

theorem densityMerit_scaled (scaled : Scaled (effective held)) :
    densityMerit want held = effective held - 65536 * distance (effective held) (target want) := by
  simp only [densityMerit]
  rw [if_neg scaled.1,if_neg scaled.2]

/-- What is scaled has its merit between those of `fixed` and `any`. -/
theorem densityMerit_bounds (want_lt : want < 65536) (held_lt : held < 65536) (scaled : Scaled (effective held)) :
    -(65536 * 65536) < densityMerit want held ∧ densityMerit want held < 65536 := by
  have small := effective_lt held_lt
  have near := distance_lt small (target_lt want_lt)
  rw [densityMerit_scaled scaled]
  omega

/-- The nearer density has the greater merit. -/
theorem densityMerit_lt_iff {mine other : Nat} (want_lt : want < 65536) (mine_lt : mine < 65536)
    (other_lt : other < 65536) :
    densityMerit want other < densityMerit want mine ↔ Nearer (target want) (effective mine) (effective other) := by
  have mine_small := effective_lt mine_lt
  have other_small := effective_lt other_lt
  constructor
  · intro less
    by_cases mine_any : effective mine = any
    · rw [mine_any]
      refine .any fun other_any => ?_
      rw [densityMerit_any mine_any,densityMerit_any other_any] at less
      exact Int.lt_irrefl _ less
    · by_cases other_fixed : effective other = fixed
      · rw [other_fixed]
        refine .fixed fun mine_fixed => ?_
        rw [densityMerit_fixed mine_fixed,densityMerit_fixed other_fixed] at less
        exact Int.lt_irrefl _ less
      · -- The lesser one is not `any`, and the greater one not `fixed`.
        have mine_scaled : Scaled (effective mine) := by
          refine ⟨mine_any,fun mine_fixed => ?_⟩
          rw [densityMerit_fixed mine_fixed] at less
          by_cases other_any : effective other = any
          · rw [densityMerit_any other_any] at less
            omega
          · have bounds := densityMerit_bounds want_lt other_lt ⟨other_any,other_fixed⟩
            omega
        have other_scaled : Scaled (effective other) := by
          refine ⟨fun other_any => ?_,other_fixed⟩
          rw [densityMerit_any other_any] at less
          have bounds := densityMerit_bounds want_lt mine_lt mine_scaled
          omega
        rw [densityMerit_scaled mine_scaled,densityMerit_scaled other_scaled] at less
        rcases Nat.lt_trichotomy (distance (effective mine) (target want)) (distance (effective other) (target want)) with
          near | same | far
        · exact .closer mine_scaled other_scaled near
        · exact .higher mine_scaled other_scaled same (by omega)
        · omega
  · intro nearer
    generalize left : effective mine = held at nearer
    generalize right : effective other = held' at nearer
    cases nearer with
    | any notAny =>
      rw [densityMerit_any left]
      by_cases other_fixed : effective other = fixed
      · rw [densityMerit_fixed other_fixed]
        omega
      · exact (densityMerit_bounds want_lt other_lt ⟨right ▸ notAny,other_fixed⟩).2
    | fixed notFixed =>
      rw [densityMerit_fixed right]
      by_cases mine_any : effective mine = any
      · rw [densityMerit_any mine_any]
        omega
      · exact (densityMerit_bounds want_lt mine_lt ⟨mine_any,left ▸ notFixed⟩).1
    | closer mine_scaled other_scaled near =>
      subst left right
      rw [densityMerit_scaled mine_scaled,densityMerit_scaled other_scaled]
      omega
    | higher mine_scaled other_scaled same above =>
      subst left right
      rw [densityMerit_scaled mine_scaled,densityMerit_scaled other_scaled,same]
      omega

end Criterion

/-! ## Lists of merits -/

theorem compare_eq_gt_iff {xs ys : List Int} : compare xs ys = .gt ↔ ys < xs := by
  induction xs generalizing ys with
  | nil => cases ys <;> simp
  | cons x xs ih =>
    cases ys with
    | nil => simp
    | cons y ys =>
      have first : compare (x :: xs) (y :: ys) = (compare x y).then (compare xs ys) := List.compareLex_cons_cons
      rw [first,Ordering.then_eq_gt,Int.compare_eq_gt,Int.compare_eq_eq,ih,List.cons_lt_cons_iff,eq_comm (a := y)]

namespace Configuration
variable {a b : Configuration}

/-- Of two definitions that suit a device, the better one has the lexicographically greater merits. -/
theorem isBetter_iff_lt {device : Configuration} (suits_a : a.suits device) (suits_b : b.suits device) :
    a.isBetter b device ↔ device.merits b < device.merits a :=
  (isBetter_iff suits_a suits_b).trans compare_eq_gt_iff

/-- Definitions that suit a device. -/
abbrev Suiting (device : Configuration) : Type := {c : Configuration // c.suits device}

/-- Whether one of two definitions that suit a device is better. -/
def Better (device : Configuration) (a b : Suiting device) : Prop := a.1.isBetter b.1 device

theorem better_iff_lt {device : Configuration} {a b : Suiting device} :
    Better device a b ↔ device.merits b.1 < device.merits a.1 :=
  isBetter_iff_lt a.2 b.2

instance (device : Configuration) : IsStrictWeakOrder (Suiting device) (Better device) where
  irrefl a := by
    rw [better_iff_lt]
    exact List.lt_irrefl _
  trans a b c := by
    rw [better_iff_lt,better_iff_lt,better_iff_lt]
    exact fun first second => List.lt_trans second first
  incomp_trans a b c := by
    simp only [better_iff_lt,List.not_lt]
    exact fun first second => ⟨List.le_trans first.1 second.1,List.le_trans second.2 first.2⟩

/-- Among definitions that suit a device, better is a strict weak order, and the lexicographic one of their merits: each
    stage in turn prefers the greater one of its merits, which depend on nothing but the definition and the device. That
    of the density is greater for the nearer one, where an unset density counts as the medium one. -/
theorem isBetter_lexicographic (device : Configuration) :
    (IsStrictWeakOrder (Suiting device) (Better device) ∧ Std.Asymm (Better device)) ∧
    (∀ a b : Configuration, a.suits device → b.suits device →
      (a.isBetter b device ↔ device.merits b < device.merits a) ∧
      List.Forall₂ (fun stage key => stage a b = Stage.prefer (key.merit device a) (key.merit device b))
        (stages device) Criterion.all) ∧
    (∀ c, device.merits c = Criterion.all.map fun key => key.merit device c) ∧
    (∃ i : Nat, (stages device)[i]? = some (Stage.density device) ∧ Criterion.all[i]? = some Criterion.density) ∧
    ∀ a b : Configuration, Criterion.density.merit device b < Criterion.density.merit device a ↔
      Density.Nearer (Density.target device.density.toNat) (Density.effective a.density.toNat)
        (Density.effective b.density.toNat) := by
  refine ⟨⟨inferInstance,inferInstance⟩,fun a b suits_a suits_b => ⟨isBetter_iff_lt suits_a suits_b,?_⟩,fun c => rfl,
    ⟨16,rfl,rfl⟩,fun a b => ?_⟩
  · rw [Criterion.stages_eq,List.forall₂_map_left_iff,List.forall₂_same]
    exact fun key _ => key.rates suits_a suits_b
  · exact Criterion.densityMerit_lt_iff device.density.toNat_lt a.density.toNat_lt b.density.toNat_lt

/-- Of an unset density and a higher one that are as far from that of the device, the higher one is better. -/
theorem isBetter_lexicographic_higher :
    let device : Configuration := { density := 240 }
    let high : Configuration := { density := 320 }
    high.suits device ∧ suits {} device ∧ high.isBetter {} device ∧ ¬ isBetter {} high device := by
  intro device high
  have suits_high : high.suits device := by decide
  have suits_plain : suits {} device := by decide
  obtain ⟨⟨_,asymm⟩,compared,_⟩ := isBetter_lexicographic device
  have better : high.isBetter {} device := (compared high {} suits_high suits_plain).1.2 (by decide)
  exact ⟨suits_high,suits_plain,better,asymm.asymm ⟨high,suits_high⟩ ⟨{},suits_plain⟩ better⟩

/-- Where definitions for two countries do not suit the device, each is better than the other. -/
example : isBetter { mobileCountry := 1 } { mobileCountry := 2 } { mobileCountry := 3 } ∧
    isBetter { mobileCountry := 2 } { mobileCountry := 1 } { mobileCountry := 3 } := by
  decide

end Configuration

end AndroidResources
