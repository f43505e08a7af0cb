import Mathlib.Data.Nat.Digits.Defs
import Mathlib.Data.List.Basic
import AndroidResources.Text.Digits

/-!
# Written numbers

A decimal number is read back from its digits if no other digit follows (`Text.leadingDecimal?_repr`), and a hexadecimal
one from as many of its last digits as were written (`Text.hexNumber?_hexWord`).
-/
namespace AndroidResources.Text

/-! ## Decimal numbers -/

/-- A positive number does not start with a zero. -/
theorem toDigits_positive {n : Nat} (positive : 0 < n) : ∃ c rest, Nat.toDigits 10 n = c :: rest ∧ c ≠ '0' := by
  induction n using Nat.strongRecOn with
  | ind n ih =>
    rw [Nat.toDigits_eq_if (by decide)]
    split
    · refine ⟨_,_,rfl,?_⟩
      rw [ne_eq,Nat.digitChar_eq_zero]
      omega
    · obtain ⟨c,rest,digits,nonzero⟩ := ih (n / 10) (by omega) (by omega)
      exact ⟨c,rest ++ [(n % 10).digitChar],by rw [digits]; rfl,nonzero⟩

theorem isDigit_of_mem_repr {n : Nat} {c : Char} (mem : c ∈ (Nat.repr n).toList) : c.isDigit :=
  Nat.isDigit_of_mem_toDigits (by decide) (by decide) (Nat.toList_repr ▸ mem)

/-- A number is written with digits, and there is at least one. -/
theorem repr_cons (n : Nat) : ∃ c rest, (Nat.repr n).toList = c :: rest ∧ c.isDigit := by
  cases digits : (Nat.repr n).toList with
  | nil => exact absurd (Nat.toList_repr ▸ digits) Nat.toDigits_ne_nil
  | cons c rest => exact ⟨c,rest,rfl,isDigit_of_mem_repr (digits ▸ List.mem_cons_self)⟩

/-- The digits of a number are the run of digits in front, if no other digit follows. -/
theorem repr_run (n : Nat) {rest : List Char} (stop : ∀ c ∈ rest.head?, ¬ c.isDigit) :
    ((Nat.repr n).toList ++ rest).takeWhile Char.isDigit = (Nat.repr n).toList ∧
      ((Nat.repr n).toList ++ rest).dropWhile Char.isDigit = rest := by
  have all : ∀ c ∈ (Nat.repr n).toList, c.isDigit := fun _ => isDigit_of_mem_repr
  rw [List.takeWhile_append_of_pos all,List.dropWhile_append_of_pos all]
  cases rest with
  | nil => simp
  | cons d rest => simp [List.takeWhile_cons_of_neg (stop d rfl),List.dropWhile_cons_of_neg (stop d rfl)]

theorem ofDigitChars_repr (n : Nat) : Nat.ofDigitChars 10 (Nat.repr n).toList 0 = n := by
  rw [Nat.toList_repr]
  exact Nat.ofDigitChars_toDigits (by decide) (by decide)

/-- A number is read back from its digits, if no other digit follows. -/
theorem leadingDecimal?_repr (n : Nat) {rest : List Char} (stop : ∀ c ∈ rest.head?, ¬ c.isDigit) :
    leadingDecimal? ((Nat.repr n).toList ++ rest) = some (n,rest) := by
  rcases Nat.eq_zero_or_pos n with rfl | positive
  · rw [Nat.toList_repr]
    rfl
  · obtain ⟨taken,dropped⟩ := repr_run n stop
    have value := ofDigitChars_repr n
    obtain ⟨c,others,digits,nonzero⟩ := toDigits_positive positive
    rw [← Nat.toList_repr] at digits
    unfold leadingDecimal?
    split
    next zero =>
      rw [digits] at zero
      exact absurd (List.cons.inj zero).1 nonzero
    next =>
      rw [taken,dropped]
      rw [digits] at value ⊢
      exact congrArg (fun n => some (n,rest)) value

theorem leadingDecimal?_front {cs rest : List Char} {n : Nat} (read : leadingDecimal? cs = some (n,rest)) :
    ∃ digits, cs = digits ++ rest ∧ digits ≠ [] ∧ ∀ c ∈ digits, c.isDigit := by
  unfold leadingDecimal? at read
  split at read
  next others =>
    obtain ⟨_,rfl⟩ := Prod.mk.inj (Option.some.inj read)
    exact ⟨['0'],rfl,by simp,by simp⟩
  next =>
    split at read
    · cases read
    next nonempty =>
      obtain ⟨_,rfl⟩ := Prod.mk.inj (Option.some.inj read)
      refine ⟨cs.takeWhile Char.isDigit,List.takeWhile_append_dropWhile.symm,nonempty,?_⟩
      exact fun c mem => (List.all_eq_true.1 (List.all_takeWhile (p := Char.isDigit))) c mem

/-- A sign stands in front of a negative number, and none in front of any other. -/
theorem signedDecimal_cases (n : Int) (rest : List Char) :
    (n < 0 ∧ (signedDecimal n).toList ++ rest = '-' :: ((Nat.repr n.natAbs).toList ++ rest)) ∨
      0 ≤ n ∧ (signedDecimal n).toList ++ rest = (Nat.repr n.natAbs).toList ++ rest ∧
        (∀ cs, (Nat.repr n.natAbs).toList ++ rest = '-' :: cs → False) ∧
        ∀ cs, (Nat.repr n.natAbs).toList ++ rest = '+' :: cs → False := by
  rcases n with n | n
  · obtain ⟨c,digits,written,isDigit⟩ := repr_cons n
    have front {sign : Char} {cs : List Char} (same : (Nat.repr n).toList ++ rest = sign :: cs) : sign.isDigit := by
      rw [written] at same
      exact (List.cons.inj same).1 ▸ isDigit
    exact .inr ⟨Int.natCast_nonneg n,rfl,fun _ same => absurd (front same) (by decide),
      fun _ same => absurd (front same) (by decide)⟩
  · exact .inl ⟨Int.negSucc_lt_zero n,by simp [signedDecimal]⟩

/-! ## Hexadecimal numbers -/

theorem hexValue?_digitChar : ∀ d < 16, hexValue? (Nat.digitChar d) = some d := by decide

theorem isHexDigit_of_mem_hexWord {width n : Nat} {c : Char} (mem : c ∈ hexWord width n) : isHexDigit c := by
  induction width generalizing n with
  | zero => cases mem
  | succ width ih =>
    rcases List.mem_append.1 mem with earlier | last
    · exact ih earlier
    · rw [List.mem_singleton.1 last,isHexDigit,hexValue?_digitChar _ (Nat.mod_lt n (by decide))]
      rfl

theorem hexValue_concat (cs : List Char) (c : Char) :
    hexValue (cs ++ [c]) = 16 * hexValue cs + (hexValue? c).getD 0 := by
  rw [hexValue,List.foldl_append]
  rfl

theorem hexValue_hexWord (width n : Nat) : hexValue (hexWord width n) = n % 16 ^ width := by
  induction width generalizing n with
  | zero => exact (Nat.mod_one n).symm
  | succ width ih =>
    have last := hexValue?_digitChar (n % 16) (Nat.mod_lt n (by decide))
    rw [hexWord,hexValue_concat,ih,last,Option.getD_some,Nat.pow_succ',Nat.mod_mul,Nat.add_comm]

theorem hexNumber?_hexWord {width : Nat} (positive : 0 < width) (n : Nat) :
    hexNumber? (hexWord width n) = some (n % 16 ^ width) := by
  have nonempty : hexWord width n ≠ [] := by
    rw [ne_eq,← List.length_eq_zero_iff,length_hexWord]
    exact Nat.ne_of_gt positive
  have digits : (hexWord width n).all isHexDigit := List.all_eq_true.2 fun _ => isHexDigit_of_mem_hexWord
  rw [hexNumber?,if_pos ⟨nonempty,digits⟩,hexValue_hexWord]

/-- A word of thirty-two bits is read back from its eight digits. -/
theorem hexWord?_hexWord (n : UInt32) : hexWord? (hexWord 8 n.toNat) = some n := by
  have whole : n.toNat % 16 ^ 8 = n.toNat := Nat.mod_eq_of_lt n.toNat_lt
  have short : (hexWord 8 n.toNat).length ≤ 8 := Nat.le_of_eq (length_hexWord 8 n.toNat)
  rw [hexWord?,if_pos short,hexNumber?_hexWord (by decide),whole,Option.map_some,UInt32.ofNat_toNat]

end AndroidResources.Text
