import AndroidResources.ResourceId
import AndroidResources.Value.Text
import AndroidResources.Proofs.WholeDimensions

/-!
# Values that are written and read back

The texts of integers, colours, references, attributes, truth values and nothing are read as the same data, and as the same
type but for a colour, which is always written with alpha (`Value.rawText_readsAs`). References and attributes of the
platform's package are the exception: they are written with a name, and read as one.
-/
namespace AndroidResources

theorem Value.toInt_eq (v : Value) :
    v.toInt = if v.data.toNat < 0x80000000 then (v.data.toNat : Int) else v.data.toNat - 0x100000000 := by
  have isBits : v.toInt = v.data.toBitVec.toInt := rfl
  rw [isBits,BitVec.toInt_eq_toNat_cond,UInt32.toNat_toBitVec]
  split <;> split <;> omega

/-- Whether the text of a value is read as a value. -/
def Value.ReadsAs (v read : Value) : Prop :=
  Literal.ofText v.rawText = .ok (.value read)

theorem ResourceId.package_eq_one_iff (id : ResourceId) : id.package = 1 ↔ id >>> 24 = 1 := by
  have bound := UInt32.toNat_lt id
  have top : (id >>> 24).toNat = id.toNat / 2 ^ 24 := by
    rw [UInt32.toNat_shiftRight,Nat.shiftRight_eq_div_pow]
    rfl
  rw [← UInt32.toNat_inj,← UInt8.toNat_inj,package,UInt32.toNat_toUInt8,top]
  simp only [UInt8.toNat_one,UInt32.toNat_one]
  omega

namespace Text

theorem toList_hexId (n : UInt32) : (hexId n).toList = '0' :: 'x' :: hexWord 8 n.toNat := by
  simp [hexId,hex]

end Text

namespace Literal

variable {data : UInt32} {type : ValueType}

/-- No keyword starts as a text does that starts in none of their ways. -/
theorem lookup_keywords_of_front {s : String} {front rest : List Char} (text : s.toList = front ++ rest)
    (differs : ∀ entry ∈ keywords, ¬ front <+: entry.1.toList) : keywords.lookup s = none := by
  rw [List.lookup_eq_none_iff]
  intro entry listed
  rw [bne_iff_ne]
  rintro rfl
  exact differs entry listed ⟨rest,text.symm⟩

theorem hexId?_hexWord (n : UInt32) : hexId? ('0' :: 'x' :: Text.hexWord 8 n.toNat) = some n :=
  Text.hexWord?_hexWord n

/-! ## Integers -/

theorem integer?_toInt (v : Value) : integer? ((Text.signedDecimal v.toInt).toList ++ []) = some ⟨.decimal,v.data⟩ := by
  have isInt := v.toInt_eq
  have bound := v.data.toNat_lt
  have read : Text.leadingDecimal? ((Nat.repr v.toInt.natAbs).toList ++ []) = some (v.toInt.natAbs,[]) :=
    Text.leadingDecimal?_repr _ (by simp)
  obtain ⟨negative,signed⟩ | ⟨nonneg,unsigned,minus,plus⟩ := Text.signedDecimal_cases v.toInt []
  · have small : ¬ v.data.toNat < 0x80000000 := by
      intro small
      rw [if_pos small] at isInt
      omega
    rw [if_neg small] at isInt
    have nonzero : v.toInt.natAbs ≠ 0 := by omega
    have fits : v.toInt.natAbs ≤ 0x80000000 := by omega
    have isData : 0x100000000 - v.toInt.natAbs = v.data.toNat := by omega
    rw [signed]
    simp only [integer?,read,nonzero,and_false,if_false,if_true,fits,isData,UInt32.ofNat_toNat]
  · have small : v.data.toNat < 0x80000000 := by
      by_contra large
      rw [if_neg large] at isInt
      omega
    rw [if_pos small] at isInt
    have isData : v.toInt.natAbs = v.data.toNat := by omega
    rw [unsigned]
    simp only [integer?,read]
    simp [isData,small]

theorem readsAs_decimal (data : UInt32) : Value.ReadsAs ⟨.decimal,data⟩ ⟨.decimal,data⟩ := by
  refine ofText_signedDecimal (List.append_nil _).symm ?_
  rw [number?,hexId?_whole _ (by simp),integer?_toInt]

theorem readsAs_hexadecimal (data : UInt32) : Value.ReadsAs ⟨.hexadecimal,data⟩ ⟨.hexadecimal,data⟩ := by
  refine ofText_number (Text.toList_hexId data) (.inl rfl) ?_
  rw [number?,hexId?_hexWord]

/-! ## Colours -/

theorem color?_of_length {digits : List Char} (eight : digits.length = 8) (isHex : digits.all Text.isHexDigit) :
    color? digits = some ⟨.argb8,.ofNat (Text.hexValue digits)⟩ := by
  match digits,eight with
  | [_,_,_,_,_,_,_,_],_ => exact if_pos isHex

/-- Every colour is written with alpha. -/
theorem readsAs_argb8 (isColor : type ∈ [.argb8,.rgb8,.argb4,.rgb4]) (data : UInt32) :
    Value.ReadsAs ⟨type,data⟩ ⟨.argb8,data⟩ := by
  have written : Value.rawText ⟨type,data⟩ = "#" ++ Text.hex 8 data.toNat := by
    simp only [List.mem_cons,List.not_mem_nil,or_false] at isColor
    rcases isColor with rfl | rfl | rfl | rfl <;> rfl
  have text : (Value.rawText ⟨type,data⟩).toList = ['#'] ++ Text.hexWord 8 data.toNat := by simp [written,Text.hex]
  have digits : (Text.hexWord 8 data.toNat).all Text.isHexDigit := List.all_eq_true.2 fun _ => Text.isHexDigit_of_mem_hexWord
  have isData : Text.hexValue (Text.hexWord 8 data.toNat) = data.toNat := by
    rw [Text.hexValue_hexWord]
    exact Nat.mod_eq_of_lt data.toNat_lt
  rw [Value.ReadsAs,ofText,lookup_keywords_of_front text (by decide),text]
  simp only [List.singleton_append,color?_of_length (Text.length_hexWord 8 data.toNat) digits,isData,UInt32.ofNat_toNat]

/-! ## References -/

theorem ofReference_hexWord (s : String) (isAttribute : Bool) :
    ofReference s ('0' :: 'x' :: Text.hexWord 8 data.toNat) isAttribute =
      .ok (.value ⟨if isAttribute then .themeAttribute else .reference,data⟩) := by
  rw [ofReference,hexId?_hexWord]
  cases isAttribute <;> rfl

theorem ofReference_of_name {s : String} {rest : List Char} (noId : hexId? rest = none) (isAttribute : Bool) (v : Value) :
    ofReference s rest isAttribute ≠ .ok (.value v) := by
  rw [ofReference,noId]
  cases NameParts.ofText s <;> simp [Except.map]

/-- What starts with a sign and no keyword is a reference. -/
theorem ofText_of_sign {s : String} {isAttribute : Bool} {c : Char} {rest : List Char}
    (text : s.toList = [if isAttribute then '?' else '@',c] ++ rest) (front : c = '0' ∨ c = 'a') :
    ofText s = ofReference s (c :: rest) isAttribute := by
  have differs : ∀ entry ∈ keywords, ¬ [if isAttribute then '?' else '@',c] <+: entry.1.toList := by
    rcases front with rfl | rfl <;> cases isAttribute <;> decide
  rw [ofText,lookup_keywords_of_front text differs,text]
  cases isAttribute <;> rfl

/-- An id is read back unless the platform's package is named in front of it. -/
theorem ofText_idText_iff (isAttribute : Bool) (data : UInt32) :
    ofText (Value.idText (if isAttribute then "?" else "@") data) =
        .ok (.value ⟨if isAttribute then .themeAttribute else .reference,data⟩) ↔
      ResourceId.package data ≠ 1 := by
  rw [ne_eq,ResourceId.package_eq_one_iff]
  by_cases platform : data >>> 24 = 1
  · have text : (Value.idText (if isAttribute then "?" else "@") data).toList =
        [if isAttribute then '?' else '@','a'] ++ ("ndroid:".toList ++ (Text.hexId data).toList) := by
      cases isAttribute <;> simp [Value.idText,platform]
    rw [ofText_of_sign text (.inr rfl)]
    simpa [platform] using ofReference_of_name rfl isAttribute _
  · have text : (Value.idText (if isAttribute then "?" else "@") data).toList =
        [if isAttribute then '?' else '@','0'] ++ 'x' :: Text.hexWord 8 data.toNat := by
      cases isAttribute <;> simp [Value.idText,platform,Text.toList_hexId]
    rw [ofText_of_sign text (.inl rfl)]
    simpa [platform] using ofReference_hexWord _ isAttribute

theorem readsAs_reference_iff (data : UInt32) :
    Value.ReadsAs ⟨.reference,data⟩ ⟨.reference,data⟩ ↔ ResourceId.package data ≠ 1 := by
  by_cases zero : data = 0
  · subst zero
    have null : Literal.ofText "@null" = .ok (.value ⟨.reference,0⟩) := by decide
    exact iff_of_true null (by decide)
  · have written : Value.rawText ⟨.reference,data⟩ = Value.idText "@" data := if_neg zero
    rw [Value.ReadsAs,written]
    exact ofText_idText_iff false data

theorem readsAs_themeAttribute_iff (data : UInt32) :
    Value.ReadsAs ⟨.themeAttribute,data⟩ ⟨.themeAttribute,data⟩ ↔ ResourceId.package data ≠ 1 :=
  ofText_idText_iff true data

end Literal

namespace Value

/-! ## Truth values and nothing -/

theorem readsAs_boolean_iff (data : UInt32) :
    ReadsAs ⟨.boolean,data⟩ ⟨.boolean,data⟩ ↔ data = 0 ∨ data = 0xffffffff := by
  have falseText : Literal.ofText "false" = .ok (.value ⟨.boolean,0⟩) := by decide
  have trueText : Literal.ofText "true" = .ok (.value ⟨.boolean,0xffffffff⟩) := by decide
  rw [ReadsAs]
  by_cases zero : data = 0
  · simp [rawText,zero,falseText]
  · simp [rawText,zero,trueText,eq_comm]

theorem readsAs_null_iff (data : UInt32) : ReadsAs ⟨.null,data⟩ ⟨.null,data⟩ ↔ data = 0 ∨ data = 1 := by
  have emptyText : Literal.ofText "@empty" = .ok (.value ⟨.null,1⟩) := by decide
  have undefinedText : Literal.ofText "@undefined" = .ok (.value ⟨.null,0⟩) := by decide
  rw [ReadsAs]
  by_cases one : data = 1
  · simp [rawText,one,emptyText]
  · simp [rawText,one,undefinedText,eq_comm]

/-- Integers and colours with alpha are read back whatever their data are, and the data of the other colours as those of
    one with alpha. References and attributes are read back unless they lead into the platform's package, which is named,
    truth values if they are all ones or zero, and nothing if it is undefined or empty. -/
theorem rawText_readsAs (data : UInt32) :
    (∀ type ∈ [.decimal,.hexadecimal,.argb8], ReadsAs ⟨type,data⟩ ⟨type,data⟩) ∧
      (∀ type ∈ [.rgb8,.argb4,.rgb4], ReadsAs ⟨type,data⟩ ⟨.argb8,data⟩) ∧
      (∀ type ∈ [.reference,.themeAttribute], ReadsAs ⟨type,data⟩ ⟨type,data⟩ ↔ ResourceId.package data ≠ 1) ∧
      (ReadsAs ⟨.boolean,data⟩ ⟨.boolean,data⟩ ↔ data = 0 ∨ data = 0xffffffff) ∧
      (ReadsAs ⟨.null,data⟩ ⟨.null,data⟩ ↔ data = 0 ∨ data = 1) := by
  refine ⟨?_,?_,?_,readsAs_boolean_iff data,readsAs_null_iff data⟩
  · intro type listed
    simp only [List.mem_cons,List.not_mem_nil,or_false] at listed
    rcases listed with rfl | rfl | rfl
    · exact Literal.readsAs_decimal data
    · exact Literal.readsAs_hexadecimal data
    · exact Literal.readsAs_argb8 (by decide) data
  · intro type listed
    exact Literal.readsAs_argb8 (List.mem_cons_of_mem _ listed) data
  · intro type listed
    simp only [List.mem_cons,List.not_mem_nil,or_false] at listed
    rcases listed with rfl | rfl
    · exact Literal.readsAs_reference_iff data
    · exact Literal.readsAs_themeAttribute_iff data

end Value

end AndroidResources
