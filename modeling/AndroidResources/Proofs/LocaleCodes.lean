import Mathlib.Data.List.Basic
import AndroidResources.Configuration.Qualifier

/-!
# Codes of languages and regions

Two letters are packed as they are, three letters or digits by five bits of their distance from a base. What is packed can be
unpacked (`LocaleCode.decode_encode_language`,`LocaleCode.decode_encode_region`).
-/
namespace AndroidResources

/-! ## Characters -/

namespace Text
variable {c : Char}

theorem isAlphanum_iff : c.isAlphanum ↔ c.isUpper ∨ c.isLower ∨ c.isDigit := by
  show (c.isUpper || c.isLower || c.isDigit) = true ↔ _
  rw [Bool.or_eq_true,Bool.or_eq_true,or_assoc]

theorem isAlphanum_of_isDigit (digit : c.isDigit) : c.isAlphanum := isAlphanum_iff.2 (.inr (.inr digit))

theorem isAlphanum_of_isUpper (upper : c.isUpper) : c.isAlphanum := isAlphanum_iff.2 (.inl upper)

theorem isAlphanum_of_isLower (lower : c.isLower) : c.isAlphanum := isAlphanum_iff.2 (.inr (.inl lower))

theorem toNat_lt_of_isAlphanum (alphanum : c.isAlphanum) : c.toNat < 128 := by
  have below (last : Char) (within : c.val ≤ last.val) (last_lt : last.toNat < 128) : c.toNat < 128 :=
    Nat.lt_of_le_of_lt (UInt32.le_iff_toNat_le.1 within) last_lt
  rcases isAlphanum_iff.1 alphanum with upper | lower | digit
  · exact below 'Z' (of_decide_eq_true upper).2 (by decide)
  · exact below 'z' (of_decide_eq_true ((Bool.and_eq_true _ _).mp lower).2) (by decide)
  · exact below '9' (of_decide_eq_true ((Bool.and_eq_true _ _).mp digit).2) (by decide)

/-- What holds of all letters and digits, as can be tried out. -/
theorem of_isAlphanum {P : Char → Prop} (all : ∀ n < 128, (Char.ofNat n).isAlphanum → P (Char.ofNat n))
    (alphanum : c.isAlphanum) : P c := by
  have here := all c.toNat (toNat_lt_of_isAlphanum alphanum)
  rw [Char.ofNat_toNat] at here
  exact here alphanum

theorem byte_of_isAlphanum (alphanum : c.isAlphanum) :
    c.toUInt8 ≠ 0 ∧ c.toUInt8 < 0x80 ∧ c.toUInt8 &&& 0x80 = 0 ∧ Char.ofUInt8 c.toUInt8 = c :=
  of_isAlphanum (P := fun c => c.toUInt8 ≠ 0 ∧ c.toUInt8 < 0x80 ∧ c.toUInt8 &&& 0x80 = 0 ∧ Char.ofUInt8 c.toUInt8 = c)
    (by decide +kernel) alphanum

end Text

namespace LocaleCode
variable {base : UInt8} {a b c : Char} {code : List Char}

/-! ## Bits -/

/-- The second byte has the first letter and the lower bits of the second one. -/
theorem second_bits (x y : UInt8) (x_lt : x < 32) (y_lt : y < 32) :
    ((y <<< 5) ||| x) &&& 0x1f = x ∧ (((y <<< 5) ||| x) &&& 0xe0) >>> 5 = y &&& 7 := by
  have all : ∀ x < 32, ∀ y < 32, ((UInt8.ofNat y <<< 5) ||| UInt8.ofNat x) &&& 0x1f = UInt8.ofNat x ∧
      (((UInt8.ofNat y <<< 5) ||| UInt8.ofNat x) &&& 0xe0) >>> 5 = UInt8.ofNat y &&& 7 := by decide +kernel
  simpa using all x.toNat x_lt y.toNat y_lt

/-- The first byte has a high bit, the third letter and the upper bits of the second one. -/
theorem first_bits (y z : UInt8) (y_lt : y < 32) (z_lt : z < 32) :
    ((0x80 : UInt8) ||| (z <<< 2) ||| (y >>> 3)) &&& 0x80 = 0x80 ∧
      (((0x80 : UInt8) ||| (z <<< 2) ||| (y >>> 3)) &&& 0x03) <<< 3 = y &&& 0x18 ∧
      (((0x80 : UInt8) ||| (z <<< 2) ||| (y >>> 3)) &&& 0x7c) >>> 2 = z := by
  have all : ∀ y < 32, ∀ z < 32,
      ((0x80 : UInt8) ||| (UInt8.ofNat z <<< 2) ||| (UInt8.ofNat y >>> 3)) &&& 0x80 = 0x80 ∧
        (((0x80 : UInt8) ||| (UInt8.ofNat z <<< 2) ||| (UInt8.ofNat y >>> 3)) &&& 0x03) <<< 3 = UInt8.ofNat y &&& 0x18 ∧
        (((0x80 : UInt8) ||| (UInt8.ofNat z <<< 2) ||| (UInt8.ofNat y >>> 3)) &&& 0x7c) >>> 2 = UInt8.ofNat z := by
    decide +kernel
  simpa using all y.toNat y_lt z.toNat z_lt

/-! ## Packing -/

/-- Whether characters are a language: two or three small letters. -/
def IsLanguage (code : List Char) : Prop :=
  (code.length = 2 ∨ code.length = 3) ∧ ∀ c ∈ code, c.isLower

/-- Whether characters are a region: two capital letters, or three digits. -/
def IsRegion (code : List Char) : Prop :=
  code.length = 2 ∧ (∀ c ∈ code, c.isUpper) ∨ code.length = 3 ∧ ∀ c ∈ code, c.isDigit

theorem decode_letters {x y : UInt8} (positive : x ≠ 0) (low : x &&& 0x80 = 0) (small : y < 0x80) :
    decode base ⟨x,y⟩ = [Char.ofUInt8 x,Char.ofUInt8 y] := by
  have set : (⟨x,y⟩ : LocaleCode) ≠ unset := fun none => positive (congrArg LocaleCode.first none)
  rw [decode,if_neg set,if_pos low,if_pos small]

theorem decode_packed {x y z : UInt8} (x_lt : x < 32) (y_lt : y < 32) (z_lt : z < 32) :
    decode base ⟨(0x80 : UInt8) ||| (z <<< 2) ||| (y >>> 3),(y <<< 5) ||| x⟩ =
      [x,y,z].map fun letter => Char.ofUInt8 (letter + base) := by
  obtain ⟨high,upper,third⟩ := first_bits y z y_lt z_lt
  obtain ⟨first,lower⟩ := second_bits x y x_lt y_lt
  -- The second letter is cut between the two bytes.
  have second : (y &&& 7) ||| (y &&& 0x18) = y := by
    have all : ∀ y < 32, (UInt8.ofNat y &&& 7) ||| (UInt8.ofNat y &&& 0x18) = UInt8.ofNat y := by decide +kernel
    simpa using all y.toNat y_lt
  have set : (⟨(0x80 : UInt8) ||| (z <<< 2) ||| (y >>> 3),(y <<< 5) ||| x⟩ : LocaleCode) ≠ unset := by
    intro none
    rw [show (0x80 : UInt8) ||| (z <<< 2) ||| (y >>> 3) = 0 from congrArg LocaleCode.first none] at high
    exact absurd high (by decide)
  rw [decode,if_neg set]
  simp only [high,first,lower,upper,second,third]
  rfl

theorem decode_encode_two (first : a.isAlphanum) (second : b.isAlphanum) : (encode base [a,b]).decode base = [a,b] := by
  obtain ⟨positive,_,low,same⟩ := Text.byte_of_isAlphanum first
  obtain ⟨_,small,_,same'⟩ := Text.byte_of_isAlphanum second
  exact (decode_letters positive low small).trans (by rw [same,same'])

/-- Three characters are unpacked if their distance from the base fits into five bits. -/
theorem decode_encode_three (near : ∀ d ∈ [a,b,c], ((d.toUInt8 - base) &&& 0x1f) + base = d.toUInt8)
    (alphanum : ∀ d ∈ [a,b,c], d.isAlphanum) : (encode base [a,b,c]).decode base = [a,b,c] := by
  have letter {d : Char} (mem : d ∈ [a,b,c]) : Char.ofUInt8 (((d.toUInt8 - base) &&& 0x1f) + base) = d := by
    rw [near d mem]
    exact (Text.byte_of_isAlphanum (alphanum d mem)).2.2.2
  have small (x : UInt8) : x &&& 0x1f < 32 := UInt8.lt_of_le_of_lt (UInt8.and_le_right) (by decide)
  refine (decode_packed (small _) (small _) (small _)).trans ?_
  simp only [List.map_cons,List.map_nil]
  rw [letter (d := a) (by simp),letter (d := b) (by simp),letter (d := c) (by simp)]

theorem decode_encode_language (language : IsLanguage code) : (encode languageBase code).decode languageBase = code := by
  obtain ⟨two | three,lower⟩ := language
  · obtain ⟨a,b,rfl⟩ := List.length_eq_two.1 two
    exact decode_encode_two (Text.isAlphanum_of_isLower (lower a (by simp))) (Text.isAlphanum_of_isLower (lower b (by simp)))
  · obtain ⟨a,b,c,rfl⟩ := List.length_eq_three.1 three
    have alphanum : ∀ d ∈ [a,b,c], d.isAlphanum := fun d mem => Text.isAlphanum_of_isLower (lower d mem)
    refine decode_encode_three (fun d mem => ?_) alphanum
    exact Text.of_isAlphanum (P := fun d => d.isLower → ((d.toUInt8 - languageBase) &&& 0x1f) + languageBase = d.toUInt8)
      (by decide +kernel) (alphanum d mem) (lower d mem)

theorem decode_encode_region (region : IsRegion code) : (encode regionBase code).decode regionBase = code := by
  rcases region with ⟨two,upper⟩ | ⟨three,digit⟩
  · obtain ⟨a,b,rfl⟩ := List.length_eq_two.1 two
    exact decode_encode_two (Text.isAlphanum_of_isUpper (upper a (by simp))) (Text.isAlphanum_of_isUpper (upper b (by simp)))
  · obtain ⟨a,b,c,rfl⟩ := List.length_eq_three.1 three
    have alphanum : ∀ d ∈ [a,b,c], d.isAlphanum := fun d mem => Text.isAlphanum_of_isDigit (digit d mem)
    refine decode_encode_three (fun d mem => ?_) alphanum
    exact Text.of_isAlphanum (P := fun d => d.isDigit → ((d.toUInt8 - regionBase) &&& 0x1f) + regionBase = d.toUInt8)
      (by decide +kernel) (alphanum d mem) (digit d mem)

end LocaleCode

end AndroidResources
