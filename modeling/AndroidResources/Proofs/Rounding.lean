import Mathlib.Algebra.Order.Field.Rat
import Mathlib.Tactic.FieldSimp
import Mathlib.Tactic.Ring
import AndroidResources.Number.Binary

/-!
# Rounding

A quotient is rounded to itself where a format has room for it: if its mantissa is not too long and its exponent not too
small (`Number.Binary.ofRatio_exact`). This is so above all for a whole number divided by a power of two
(`Number.Binary.ofRatio_dyadic`).
-/
namespace AndroidResources.Number

/-- The number that is meant; there is none behind infinity. -/
def Binary.toRat? : Binary → Option ℚ
  | .finite negative mantissa exponent => some (if negative then -(mantissa * 2 ^ exponent) else mantissa * 2 ^ exponent)
  | _ => none

/-! ## Quotients -/

theorem roundedRatio_mul (n : Nat) {den : Nat} (positive : 0 < den) : roundedRatio (n * den) den = n := by
  simp [roundedRatio,positive]

theorem scaledRatio_positive (num : Nat) {den : Nat} (positive : 0 < den) (exponent : Int) :
    0 < (scaledRatio num den exponent).2 := by
  unfold scaledRatio
  split
  · exact Nat.mul_pos positive (Nat.pow_pos Nat.two_pos)
  · exact positive

theorem scaledRatio_value (num den : Nat) (exponent : Int) :
    ((scaledRatio num den exponent).1 : ℚ) * den * 2 ^ exponent = num * (scaledRatio num den exponent).2 := by
  by_cases up : 0 ≤ exponent
  · obtain ⟨k,rfl⟩ := Int.eq_ofNat_of_zero_le up
    simp [scaledRatio,mul_assoc]
  · obtain ⟨k,rfl⟩ : ∃ k : Nat, exponent = -k := ⟨exponent.natAbs,by omega⟩
    simp only [scaledRatio,if_neg up,Int.neg_neg,Int.toNat_natCast,Nat.pow_eq,Nat.cast_mul,Nat.cast_pow,Nat.cast_ofNat,
      zpow_neg,zpow_natCast]
    field_simp

/-- A quotient that is a whole multiple of a power of two is divided by it without rest. -/
theorem scaledRatio_whole {num den n : Nat} {exponent : Int} (positive : 0 < den)
    (value : (num : ℚ) / den = n * 2 ^ exponent) :
    (scaledRatio num den exponent).1 = n * (scaledRatio num den exponent).2 := by
  have power : (2 : ℚ) ^ exponent ≠ 0 := zpow_ne_zero exponent two_ne_zero
  have den_ne_zero : (den : ℚ) ≠ 0 := by exact_mod_cast positive.ne'
  have scaled := scaledRatio_value num den exponent
  have isNum : (num : ℚ) = n * 2 ^ exponent * den := (div_eq_iff den_ne_zero).mp value
  have : ((scaledRatio num den exponent).1 : ℚ) = n * (scaledRatio num den exponent).2 := by
    apply mul_right_cancel₀ (mul_ne_zero den_ne_zero power)
    rw [← mul_assoc,scaled,isNum]
    ring
  exact_mod_cast this

theorem logRatio_dyadic {n : Nat} (nonzero : n ≠ 0) (k : Nat) : logRatio n (2 ^ k) = n.log2 - k := by
  have log := Nat.log2_self_le nonzero
  have reached : ¬ (scaledRatio n (2 ^ k) (n.log2 - k)).1 < (scaledRatio n (2 ^ k) (n.log2 - k)).2 := by
    rw [Nat.not_lt]
    unfold scaledRatio
    split
    next up =>
      have sum : k + ((n.log2 : Int) - k).toNat = n.log2 := by omega
      calc 2 ^ k * Nat.pow 2 ((n.log2 : Int) - k).toNat = 2 ^ n.log2 := by rw [Nat.pow_eq,← Nat.pow_add,sum]
        _ ≤ n := log
    next down =>
      have sum : n.log2 + (-((n.log2 : Int) - k)).toNat = k := by omega
      calc 2 ^ k = 2 ^ n.log2 * 2 ^ (-((n.log2 : Int) - k)).toNat := by rw [← Nat.pow_add,sum]
        _ ≤ n * Nat.pow 2 (-((n.log2 : Int) - k)).toNat := Nat.mul_le_mul_right _ log
  rw [logRatio,Nat.log2_two_pow]
  simp only [if_neg reached]

/-! ## Numbers that a format holds -/

section
variable {f : Format} {negative : Bool}

/-- A quotient is not rounded if the place of its last digit is one that it would be rounded to. -/
theorem Binary.ofRatio_exact {num den mantissa : Nat} {exponent : Int} (nonzero : num ≠ 0) (positive : 0 < den)
    (scale : max f.minExponent (logRatio num den - (f.precision - 1 : Nat)) = exponent)
    (value : (num : ℚ) / den = mantissa * 2 ^ exponent) (fits : mantissa < 2 ^ f.precision)
    (bounded : exponent ≤ f.maxExponent) :
    (ofRatio f negative num den).toRat? = some (if negative then -(num / den) else num / den : ℚ) := by
  have rounded : roundedRatio (scaledRatio num den exponent).1 (scaledRatio num den exponent).2 = mantissa := by
    rw [scaledRatio_whole positive value]
    exact roundedRatio_mul mantissa (scaledRatio_positive num positive exponent)
  have bounded : ¬ f.maxExponent < exponent := Int.not_lt.mpr bounded
  have same : ofRatio f negative num den = .finite negative mantissa exponent := by
    simp [ofRatio,nonzero,scale,rounded,fits.ne,bounded]
  rw [same,value]
  rfl

/-- A format holds whole numbers. -/
structure Format.Whole (f : Format) : Prop where
  precise : 0 < f.precision
  small : f.minExponent ≤ 1 - (f.precision : Int)
  great : 1 ≤ f.maxExponent

theorem Format.single_whole : Format.single.Whole := ⟨by decide,by decide,by decide⟩
theorem Format.double_whole : Format.double.Whole := ⟨by decide,by decide,by decide⟩

/-- A whole number divided by a power of two is not rounded if it has no more digits than the mantissa, or is the first
    with one more, and no digits that are too small. -/
theorem Binary.ofRatio_dyadic (whole : f.Whole) {n k : Nat} (fits : n ≤ 2 ^ f.precision)
    (small : f.minExponent ≤ 1 - (f.precision : Int) - k) :
    (ofRatio f negative n (2 ^ k)).toRat? = some (if negative then -(n / 2 ^ k) else n / 2 ^ k : ℚ) := by
  have ⟨precise,_,great⟩ := whole
  have exact {mantissa : Nat} {exponent : Int} (nonzero : n ≠ 0)
      (scale : max f.minExponent (logRatio n (2 ^ k) - (f.precision - 1 : Nat)) = exponent)
      (value : (n : ℚ) / 2 ^ k = mantissa * 2 ^ exponent) (fits : mantissa < 2 ^ f.precision)
      (bounded : exponent ≤ f.maxExponent) :
      (ofRatio f negative n (2 ^ k)).toRat? = some (if negative then -(n / 2 ^ k) else n / 2 ^ k : ℚ) := by
    simpa using ofRatio_exact nonzero (Nat.two_pow_pos k) scale (by simpa using value) fits bounded
  rcases Nat.eq_zero_or_pos n with rfl | positive
  · simp [ofRatio,toRat?]
  · have log := logRatio_dyadic positive.ne' k
    rcases Nat.lt_or_eq_of_le fits with below | carry
    · have short : n.log2 < f.precision := (Nat.log2_lt positive.ne').mpr below
      obtain ⟨shift,shifted⟩ : ∃ shift, f.precision - 1 = n.log2 + shift := Nat.exists_eq_add_of_le (by omega)
      have scale : max f.minExponent (logRatio n (2 ^ k) - (f.precision - 1 : Nat)) = -(shift + k : Nat) := by omega
      have value : (n : ℚ) / 2 ^ k = (n * 2 ^ shift : Nat) * 2 ^ (-(shift + k : Nat) : Int) := by
        rw [zpow_neg,zpow_natCast,pow_add]
        push_cast
        field_simp
      refine exact positive.ne' scale value ?_ (by omega)
      calc n * 2 ^ shift < 2 ^ (n.log2 + 1) * 2 ^ shift :=
            Nat.mul_lt_mul_of_pos_right Nat.lt_log2_self (Nat.two_pow_pos shift)
        _ = 2 ^ f.precision := by rw [← Nat.pow_add]; congr 1; omega
    · obtain ⟨p,isSucc⟩ : ∃ p, f.precision = p + 1 := Nat.exists_eq_add_of_le' precise
      have isLog : n.log2 = f.precision := by rw [carry,Nat.log2_two_pow]
      have scale : max f.minExponent (logRatio n (2 ^ k) - (f.precision - 1 : Nat)) = 1 - k := by omega
      have value : (n : ℚ) / 2 ^ k = (2 ^ p : Nat) * 2 ^ (1 - k : Int) := by
        rw [carry,isSucc,zpow_sub₀ two_ne_zero,zpow_natCast,zpow_one]
        push_cast
        ring
      refine exact positive.ne' scale value ?_ (by omega)
      rw [isSucc]
      exact Nat.pow_lt_pow_succ Nat.one_lt_two

theorem Binary.ofRatio_int (whole : f.Whole) {n : Int} {k : Nat} (fits : n.natAbs ≤ 2 ^ f.precision)
    (small : f.minExponent ≤ 1 - (f.precision : Int) - k) :
    (ofRatio f (n < 0) n.natAbs (2 ^ k)).toRat? = some (n / 2 ^ k : ℚ) := by
  rw [ofRatio_dyadic whole fits small]
  rcases n with m | m
  · simp
  · simp [Int.negSucc_lt_zero,Int.cast_negSucc,neg_div,-neg_add_rev]

theorem Binary.ofRatio_whole (whole : f.Whole) {n : Int} (fits : n.natAbs ≤ 2 ^ f.precision) :
    (ofRatio f (n < 0) n.natAbs 1).toRat? = some (n : ℚ) := by
  have rounded := ofRatio_int (n := n) (k := 0) whole fits (by simpa using whole.small)
  simpa using rounded

end

/-! ## Magnitudes -/

theorem magnitude_nonneg (mantissa : Nat) (exponent : Int) : (0 : ℚ) ≤ mantissa * 2 ^ exponent :=
  mul_nonneg mantissa.cast_nonneg (zpow_nonneg zero_le_two exponent)

theorem Binary.magnitude_of_toRat? {negative : Bool} {mantissa : Nat} {exponent : Int} {q : ℚ}
    (value : (finite negative mantissa exponent).toRat? = some q) : (mantissa : ℚ) * 2 ^ exponent = |q| := by
  have nonneg := magnitude_nonneg mantissa exponent
  rw [← Option.some.inj value]
  cases negative <;> simp [abs_of_nonneg nonneg]

end AndroidResources.Number
