import Mathlib.Algebra.Order.Floor.Semifield
import Mathlib.Data.Rat.Floor
import Mathlib.Tactic.NormNum
import AndroidResources.Value.Complex
import AndroidResources.Proofs.Rounding

/-!
# The numbers that complex data stand for

A magnitude is taken in units of `2 ^ -23` and loses as many of its last bits as it takes to make room for the first ones
(`Complex.CutAt`). If there is room below `2 ^ 46`, nothing else is lost (`Complex.pack_exact`): the mantissa never comes
to the sign bit, the data without unit stand for the magnitude without these bits, with its sign, and so do they in double
precision.
-/
namespace AndroidResources

/-- The number on the other side of zero. -/
def Number.Binary.negated : Binary → Binary
  | .nan => .nan
  | .infinite negative => .infinite !negative
  | .finite negative mantissa exponent => .finite (!negative) mantissa exponent

namespace Complex

open Number (Binary Format)

/-! ## Magnitudes -/

theorem isNegative_of_toRat? {b : Binary} {q : ℚ} (value : b.toRat? = some q) : isNegative b = decide (q < 0) := by
  rcases b with _ | negative | ⟨negative,mantissa,exponent⟩
  · cases value
  · cases value
  · have nonneg := Number.magnitude_nonneg mantissa exponent
    obtain rfl := Option.some.inj value
    cases negative
    · simpa [isNegative] using nonneg
    · have power : (0 : ℚ) < 2 ^ exponent := zpow_pos two_pos exponent
      rcases Nat.eq_zero_or_pos mantissa with rfl | positive
      · simp [isNegative]
      · have : (0 : ℚ) < mantissa := by exact_mod_cast positive
        simp [isNegative,positive.ne',this,power]

/-- A magnitude is taken in units of `2 ^ -23`, and the half of one is rounded up. -/
theorem scaled_of_toRat? {b : Binary} {q : ℚ} (value : b.toRat? = some q) :
    scaled b = min ⌊|q| * 2 ^ 23 + 1 / 2⌋₊ 0xffffffffffffffff := by
  rcases b with _ | negative | ⟨negative,mantissa,exponent⟩
  · cases value
  · cases value
  · have magnitude := Binary.magnitude_of_toRat? value
    have isRatio := Number.scaledRatio_value mantissa 1 (-(exponent + 23))
    have positive := Number.scaledRatio_positive mantissa Nat.one_pos (-(exponent + 23))
    rw [scaled]
    generalize Number.scaledRatio mantissa 1 (-(exponent + 23)) = ratio at isRatio positive
    have den_ne_zero : (ratio.2 : ℚ) ≠ 0 := by exact_mod_cast positive.ne'
    have isQuotient : (ratio.1 : ℚ) / ratio.2 = |q| * 2 ^ 23 := by
      have power : (2 : ℚ) ^ exponent ≠ 0 := zpow_ne_zero exponent two_ne_zero
      rw [Nat.cast_one,mul_one,zpow_neg,zpow_add₀ two_ne_zero] at isRatio
      rw [← magnitude,div_eq_iff den_ne_zero]
      field_simp at isRatio
      rw [isRatio]
      ring
    have half : (2 * ratio.1 + ratio.2) / (2 * ratio.2) = ⌊|q| * 2 ^ 23 + 1 / 2⌋₊ := by
      rw [← isQuotient,← Nat.floor_div_eq_div (K := ℚ)]
      push_cast
      congr 1
      field_simp
    simp only [half]

/-! ## Parts of the data -/

/-- The number that complex data stand for. -/
def value (data : UInt32) : ℚ := mantissa data / 2 ^ fractionBits (radix data)

section Parts

variable {data : UInt32} {n : Int} {place code : Nat}
  (isData : data.toNat = (n % 0x1000000).toNat * 256 + place * 16 + code) (listed : place < 4) (low : code < 16)
include isData listed low

omit listed in
theorem unit_eq : unit data = code := by
  unfold unit
  omega

theorem radix_eq : radix data = place := by
  unfold radix
  omega

theorem mantissa_eq : mantissa data = Int.bmod n 0x1000000 := by
  have isMantissa : (data.toNat : Int) / 256 = n % 0x1000000 := by omega
  unfold mantissa
  rw [isMantissa]
  exact Int.emod_bmod n 0x1000000

theorem value_eq : value data = Int.bmod n 0x1000000 / 2 ^ fractionBits place := by
  rw [value,mantissa_eq isData listed low,radix_eq isData listed low]

end Parts

/-- Double precision holds what complex data stand for. -/
theorem toRat?_toBinary (data : UInt32) : (toBinary data 1).toRat? = some (value data) := by
  have upper : mantissa data < 0x800000 := Int.bmod_lt (by decide)
  have lower : -0x800000 ≤ mantissa data := Int.le_bmod (by decide)
  have fits : (mantissa data).natAbs ≤ 2 ^ Format.double.precision := by
    have : 2 ^ Format.double.precision = 0x20000000000000 := by norm_num [Format.double]
    omega
  have few : fractionBits (radix data) ≤ 23 := by
    unfold fractionBits
    split <;> decide
  have small : Format.double.minExponent ≤ 1 - (Format.double.precision : Int) - fractionBits (radix data) := by
    simp only [Format.double]
    omega
  rw [toBinary,ratio,Nat.mul_one,Nat.pow_eq,Binary.ofRatio_int Number.Format.double_whole fits small]
  rfl

/-! ## Bits that are cut off -/

/-- How many of the last bits of a magnitude in units of `2 ^ -23` are cut off: those behind the point of a whole number,
    else the fewest that leave room for the others. -/
inductive CutAt (scaled : Nat) : Nat → Prop
  | whole : 2 ^ 23 ∣ scaled → CutAt scaled 23
  | least {shift : Nat} : ¬ 2 ^ 23 ∣ scaled → shift ∈ [0,8,16,23] → scaled / 2 ^ shift < 2 ^ 23 →
      (∀ fewer ∈ [0,8,16,23], scaled / 2 ^ fewer < 2 ^ 23 → shift ≤ fewer) → CutAt scaled shift

theorem placement_cut {scaled : Nat} (fits : scaled < 2 ^ 46) : CutAt scaled (placement scaled).2 := by
  unfold placement
  split_ifs with isWhole below23 below31 below39
  · exact .whole (Nat.dvd_of_mod_eq_zero isWhole)
  all_goals
    refine .least (fun whole => isWhole (Nat.mod_eq_zero_of_dvd whole)) (by simp) (by dsimp only; omega) ?_
    simp
    try omega

theorem CutAt.room {scaled shift : Nat} (cut : CutAt scaled shift) (fits : scaled < 2 ^ 46) :
    scaled / 2 ^ shift < 2 ^ 23 := by
  cases cut with
  | whole _ => omega
  | least _ _ room _ => exact room

theorem fractionBits_placement (scaled : Nat) : fractionBits (placement scaled).1 + (placement scaled).2 = 23 := by
  unfold placement
  split_ifs <;> rfl

theorem placement_lt (scaled : Nat) : (placement scaled).1 < 4 := by
  unfold placement
  split_ifs <;> decide

/-! ## Packing -/

/-- A natural number behind a sign. -/
def withSign (negative : Bool) (n : Nat) : Int :=
  if negative then -n else n

theorem withSign_not (negative : Bool) (n : Nat) : withSign (!negative) n = -withSign negative n := by
  cases negative <;> simp [withSign]

theorem withSign_mul (negative : Bool) (n factor : Nat) : withSign negative (n * factor) = withSign negative n * factor := by
  cases negative <;> simp [withSign]

/-- What is left of a magnitude, with its sign. -/
def kept (negative : Bool) (scaled : Nat) : Int :=
  withSign negative (scaled / 2 ^ (placement scaled).2)

/-- The mantissa is what is left, in two's complement. -/
theorem toNat_pack (negative : Bool) (scaled : Nat) :
    (pack negative scaled).toNat = (kept negative scaled % 0x1000000).toNat * 256 + (placement scaled).1 * 16 + 0 := by
  have listed := placement_lt scaled
  rw [pack,kept,withSign,UInt32.toNat_ofNat']
  simp only [Nat.pow_eq]
  generalize scaled / 2 ^ (placement scaled).2 = magnitude
  cases negative with
  | false => simp; omega
  | true => simp; omega

theorem value_pack (negative : Bool) (scaled : Nat) :
    value (pack negative scaled) = Int.bmod (kept negative scaled) 0x1000000 / 2 ^ fractionBits (placement scaled).1 :=
  value_eq (toNat_pack negative scaled) (placement_lt scaled) (by decide)

/-- Data without unit stand for a magnitude of which some bits are cut off, in double precision too, and the mantissa
    leaves its sign bit to the sign. -/
structure StandsFor (data : UInt32) (negative : Bool) (scaled shift : Nat) : Prop where
  noUnit : unit data = 0
  room : scaled / 2 ^ shift < 2 ^ 23
  mantissa_eq : mantissa data = withSign negative (scaled / 2 ^ shift)
  value_eq : value data = withSign negative (scaled / 2 ^ shift * 2 ^ shift) / 2 ^ 23
  exact : (toBinary data 1).toRat? = some (value data)

theorem pack_standsFor {scaled : Nat} (fits : scaled < 2 ^ 46) (negative : Bool) :
    StandsFor (pack negative scaled) negative scaled (placement scaled).2 := by
  have room := (placement_cut fits).room fits
  have isMantissa : Int.bmod (kept negative scaled) 0x1000000 = kept negative scaled := by
    unfold kept withSign
    generalize scaled / 2 ^ (placement scaled).2 = left at room
    apply Int.bmod_eq_of_le <;> split <;> omega
  have isData := toNat_pack negative scaled
  have listed := placement_lt scaled
  refine ⟨unit_eq isData (by decide),room,?_,?_,toRat?_toBinary _⟩
  · rw [mantissa_eq isData listed (by decide),isMantissa,kept]
  · have split : (2 : ℚ) ^ 23 = 2 ^ fractionBits (placement scaled).1 * 2 ^ (placement scaled).2 := by
      rw [← pow_add,fractionBits_placement]
    rw [value_pack,isMantissa,kept,split,withSign_mul]
    push_cast
    field_simp

/-! ## Encoding -/

theorem scaled_negated (b : Binary) : scaled b.negated = scaled b := by
  cases b <;> rfl

/-- Only zero has no other side. -/
theorem isNegative_negated {b : Binary} (positive : 0 < scaled b) : isNegative b.negated = !isNegative b := by
  rcases b with _ | negative | ⟨negative,mantissa,exponent⟩
  · cases positive
  · rfl
  · have nonzero : mantissa ≠ 0 := by
      rintro rfl
      have isZero : (Binary.finite negative 0 exponent).toRat? = some 0 := by simp [Binary.toRat?]
      rw [scaled_of_toRat? isZero] at positive
      norm_num at positive
    cases negative <;> simp [Number.Binary.negated,isNegative,nonzero]

/-- A magnitude that has room loses only the bits that are cut off, and nothing of its sign. A number on the other side of
    zero is packed as one on the other side of zero. -/
theorem pack_exact {magnitude : Nat} (fits : magnitude < 2 ^ 46) :
    ∃ shift, CutAt magnitude shift ∧
      (∀ negative, StandsFor (pack negative magnitude) negative magnitude shift) ∧
      (∀ negative, value (pack (!negative) magnitude) = -value (pack negative magnitude)) ∧
      ∀ b : Binary, scaled b = magnitude → value (encode b.negated) = -value (encode b) := by
  have stands := pack_standsFor fits
  have opposite (negative : Bool) : value (pack (!negative) magnitude) = -value (pack negative magnitude) := by
    rw [(stands (!negative)).value_eq,(stands negative).value_eq,withSign_not]
    push_cast
    ring
  refine ⟨_,placement_cut fits,stands,opposite,?_⟩
  rintro b rfl
  rw [encode,encode,scaled_negated]
  rcases Nat.eq_zero_or_pos (scaled b) with zero | positive
  · have nothing (negative : Bool) : value (pack negative 0) = 0 := by
      rw [(pack_standsFor (by decide) negative).value_eq]
      cases negative <;> simp [withSign]
    rw [zero,nothing,nothing,neg_zero]
  · rw [isNegative_negated positive,opposite]

/-- One unit below `2 ^ 8`, eight bits are cut off. -/
theorem pack_exact_below :
    0x7fffffff < 2 ^ 46 ∧ value (pack true 0x7fffffff) = -0x7fffff00 / 2 ^ 23 ∧
      value (pack false 0x7fffffff) = 0x7fffff00 / 2 ^ 23 := by
  have fits : 0x7fffffff < 2 ^ 46 := by decide
  obtain ⟨shift,cut,stands,opposite,_⟩ := pack_exact fits
  have isShift : shift = 8 := by
    cases cut with
    | whole isWhole => exact absurd isWhole (by decide)
    | least _ listed room fewest =>
      have := fewest 8 (by decide) (by decide)
      simp only [List.mem_cons,List.not_mem_nil,or_false] at listed
      rcases listed with rfl | rfl | rfl | rfl
      · exact absurd room (by decide)
      all_goals omega
  subst isShift
  have isValue := (stands false).value_eq
  norm_num [withSign] at isValue
  refine ⟨fits,?_,?_⟩
  · rw [← Bool.not_false,opposite,isValue]
    norm_num
  · rw [isValue]
    norm_num

end Complex

end AndroidResources
