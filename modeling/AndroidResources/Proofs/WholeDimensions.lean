import AndroidResources.Value.Literal
import AndroidResources.Proofs.ComplexValues
import AndroidResources.Proofs.WrittenNumbers

/-!
# Whole dimensions

A whole number with a unit of length, as far as single precision holds every whole number, is read as a dimension whose
number is the written one modulo `2 ^ 24` (`Literal.ofText_dimension`). The mantissa has 24 signed bits, so that from
`-2 ^ 23` up to below `2 ^ 23` the number is kept, and beyond them another one stands in its place.
-/
namespace AndroidResources

/-! ## Encoding -/

namespace Complex

open Number (Binary Format)

/-- A whole number is not changed by the half that is added before the rest is cut off. -/
theorem scaled_whole {b : Binary} {n : Int} (value : b.toRat? = some (n : ℚ)) (fits : n.natAbs ≤ 0x1000000) :
    scaled b = n.natAbs * 0x800000 := by
  have isWhole : |(n : ℚ)| * 2 ^ 23 + 1 / 2 = (n.natAbs * 0x800000 : Nat) + 1 / 2 := by
    push_cast
    norm_num
  have half : ⌊(1 / 2 : ℚ)⌋₊ = 0 := by norm_num
  rw [scaled_of_toRat? value,isWhole,add_comm,Nat.floor_add_natCast (by norm_num),half]
  omega

theorem placement_whole (n : Nat) : placement (n * 0x800000) = (0,23) := by
  simp [placement]

theorem kept_whole (n : Int) : kept (n < 0) (n.natAbs * 0x800000) = n := by
  rw [kept,placement_whole]
  have isWhole : n.natAbs * 0x800000 / 2 ^ 23 = n.natAbs := by omega
  simp only [isWhole,withSign,decide_eq_true_eq]
  omega

theorem toNat_encode_whole {b : Binary} {n : Int} {code : UInt32} (value : b.toRat? = some (n : ℚ))
    (fits : n.natAbs ≤ 0x1000000) (low : code.toNat < 16) :
    (encode b ||| code).toNat = (n % 0x1000000).toNat * 256 + 0 * 16 + code.toNat := by
  have sign : isNegative b = decide (n < 0) := by simpa using isNegative_of_toRat? value
  rw [UInt32.toNat_or,encode,sign,scaled_whole value fits,toNat_pack,kept_whole,placement_whole]
  have := Nat.two_pow_add_eq_or_of_lt (i := 8) (show code.toNat < 2 ^ 8 by omega) (n % 0x1000000).toNat
  rw [Nat.mul_comm,Nat.zero_mul,Nat.add_zero,this]

/-- The number of a whole dimension is its remainder modulo `2 ^ 24`, with no bit behind the point. -/
theorem toRat?_toBinary_whole {data : UInt32} {n : Int} {code : Nat}
    (isData : data.toNat = (n % 0x1000000).toNat * 256 + 0 * 16 + code) (low : code < 16) :
    (toBinary data 1).toRat? = some ((Int.bmod n 0x1000000 : Int) : ℚ) := by
  rw [toRat?_toBinary,value_eq isData (by decide) low,fractionBits,pow_zero,div_one]

end Complex

/-! ## Reading -/

namespace Literal

open Number (Binary)

/-- No unit starts with what could belong to the number in front of it. -/
theorem unit_front : ∀ entry ∈ units, ∀ c ∈ entry.1.toList.head?, ¬ c.isDigit ∧ c ≠ '.' ∧ c ≠ 'x' ∧ c ≠ 'X' := by
  simp [units]

theorem unit_ne : ∀ entry ∈ units, entry.1.toList ≠ [] := by decide
theorem unit_code : ∀ entry ∈ units, entry.2.2.toNat < 16 := by decide
theorem unit_lookup : ∀ entry ∈ units, units.lookup entry.1 = some entry.2 := by decide

/-- A decimal integer has nothing behind it. -/
theorem integer?_whole (n : Int) {rest : List Char} (stop : ∀ c ∈ rest.head?, ¬ c.isDigit) (more : rest ≠ []) :
    integer? ((Text.signedDecimal n).toList ++ rest) = none := by
  have read := Text.leadingDecimal?_repr n.natAbs stop
  obtain ⟨d,others,rfl⟩ := List.exists_cons_of_ne_nil more
  obtain ⟨-,signed⟩ | ⟨-,unsigned,minus,plus⟩ := Text.signedDecimal_cases n (d :: others)
  · rw [signed]
    simp only [integer?,read]
  · rw [unsigned]
    -- `minus` and `plus` take the match past the two signs.
    simp only [integer?,read]

theorem decimal?_whole (n : Int) {rest : List Char} (stop : ∀ c ∈ rest.head?, ¬ c.isDigit)
    (point : ∀ cs, rest = '.' :: cs → False) :
    decimal? ((Text.signedDecimal n).toList ++ rest) = some (.ofRatio .single (n < 0) n.natAbs 1,rest) := by
  obtain ⟨taken,dropped⟩ := Text.repr_run n.natAbs stop
  have value := Text.ofDigitChars_repr n.natAbs
  have nonempty : (Nat.repr n.natAbs).toList = [] → False := by simp [Nat.toDigits_ne_nil]
  obtain ⟨negative,signed⟩ | ⟨nonneg,unsigned,minus,plus⟩ := Text.signedDecimal_cases n rest
  · rw [signed]
    simp only [decimal?,taken,dropped]
    simp only [List.append_nil,value,negative]
    rfl
  · rw [unsigned]
    simp only [decimal?,taken,dropped]
    simp only [List.append_nil,value,Int.not_lt.mpr nonneg]
    rfl

theorem hexId?_whole (n : Int) {rest : List Char} (noMark : ∀ c ∈ rest.head?, c ≠ 'x' ∧ c ≠ 'X') :
    hexId? ((Text.signedDecimal n).toList ++ rest) = none := by
  suffices Text.afterHexMark? ((Text.signedDecimal n).toList ++ rest) = none by rw [hexId?,this,Option.bind_none]
  obtain ⟨-,signed⟩ | ⟨-,unsigned,-⟩ := Text.signedDecimal_cases n rest
  · rw [signed]
    rfl
  · obtain ⟨first,digits,written,-⟩ := Text.repr_cons n.natAbs
    have second {c d : Char} {cs : List Char} (same : (Nat.repr n.natAbs).toList ++ rest = c :: d :: cs) :
        d.isDigit ∨ d ≠ 'x' ∧ d ≠ 'X' := by
      cases digits with
      | nil =>
        rw [written] at same
        exact .inr (noMark d (by simp_all))
      | cons e digits =>
        have isDigit : e.isDigit := Text.isDigit_of_mem_repr (n := n.natAbs) (by simp [written])
        rw [written] at same
        obtain ⟨rfl,-⟩ := List.cons.inj (List.cons.inj same).2
        exact .inl isDigit
    rw [unsigned]
    unfold Text.afterHexMark?
    split
    next same => simpa using second same
    next same => simpa using second same
    next => rfl

theorem ofText_number {s : String} {c : Char} {cs : List Char} {v : Value} (text : s.toList = c :: cs)
    (front : c.isDigit ∨ c = '-') (number : number? (c :: cs) = some v) : ofText s = .ok (.value v) := by
  have keywordless : keywords.lookup s = none := by
    have : ∀ entry ∈ keywords, ∀ c ∈ entry.1.toList.head?, ¬ (c.isDigit ∨ c = '-') := by simp [keywords]
    rw [List.lookup_eq_none_iff]
    intro entry listed
    rw [bne_iff_ne]
    rintro rfl
    exact this entry listed c (by rw [text]; rfl) front
  unfold ofText
  rw [keywordless,text]
  dsimp only
  split
  case h_5 => rw [number]
  all_goals
    obtain ⟨rfl,-⟩ := List.cons.inj ‹c :: cs = _›
    exact absurd front (by decide)

/-- What starts as a whole number is read as a number. -/
theorem ofText_signedDecimal {s : String} {n : Int} {rest : List Char} {v : Value}
    (text : s.toList = (Text.signedDecimal n).toList ++ rest)
    (number : number? ((Text.signedDecimal n).toList ++ rest) = some v) : ofText s = .ok (.value v) := by
  obtain ⟨-,signed⟩ | ⟨-,unsigned,-⟩ := Text.signedDecimal_cases n rest
  · exact ofText_number (text.trans signed) (.inr rfl) (signed ▸ number)
  · obtain ⟨c,digits,written,isDigit⟩ := Text.repr_cons n.natAbs
    rw [unsigned,written] at number text
    exact ofText_number text (.inl isDigit) number

/-- A whole number in front of a unit. -/
theorem ofText_unit (n : Int) {unit : String} {type : ValueType} {code : UInt32} (listed : (unit,type,code) ∈ units)
    {v : Value} (read : ofUnit? (.ofRatio .single (n < 0) n.natAbs 1) unit.toList = some v) :
    ofText (Text.signedDecimal n ++ unit) = .ok (.value v) := by
  have front := unit_front _ listed
  have stop : ∀ c ∈ unit.toList.head?, ¬ c.isDigit := fun c first => (front c first).1
  have point (cs : List Char) (first : unit.toList = '.' :: cs) : False := (front '.' (by rw [first]; rfl)).2.1 rfl
  have number : number? ((Text.signedDecimal n).toList ++ unit.toList) = some v := by
    rw [number?,hexId?_whole n fun c first => (front c first).2.2,integer?_whole n stop (unit_ne _ listed),
      decimal?_whole n stop point]
    exact read
  exact ofText_signedDecimal String.toList_append number

theorem ofUnit?_dimension (b : Binary) {unit : String} {code : UInt32} (listed : (unit,.dimension,code) ∈ units) :
    ofUnit? b unit.toList = some ⟨.dimension,Complex.encode b ||| code⟩ := by
  rw [ofUnit?,if_neg (unit_ne _ listed),String.ofList_toList,unit_lookup _ listed]
  rfl

/-- The number of a whole dimension is the written one modulo `2 ^ 24`: it is kept exactly if the mantissa can hold it. -/
theorem ofText_dimension {n : Int} {unit : String} {code : UInt32} (single : n.natAbs ≤ 0x1000000)
    (listed : (unit,.dimension,code) ∈ units) :
    ∃ data, ofText (Text.signedDecimal n ++ unit) = .ok (.value ⟨.dimension,data⟩) ∧ Complex.unit data = code.toNat ∧
      (Complex.toBinary data 1).toRat? = some ((Int.bmod n 0x1000000 : Int) : ℚ) ∧
      ((Complex.toBinary data 1).toRat? = some (n : ℚ) ↔ -0x800000 ≤ n ∧ n < 0x800000) := by
  have low : code.toNat < 16 := unit_code _ listed
  have rounded := Binary.ofRatio_whole Number.Format.single_whole (n := n) (single.trans (by decide))
  have isData := Complex.toNat_encode_whole rounded single low
  have value := Complex.toRat?_toBinary_whole isData low
  refine ⟨_,ofText_unit n listed (ofUnit?_dimension _ listed),Complex.unit_eq isData low,value,?_⟩
  rw [value,Option.some_inj,Int.cast_inj,Int.bmod_def]
  omega

/-- The greatest whole dimension is kept. -/
theorem ofText_dimension_greatest :
    ∃ data, ofText "8388607mm" = .ok (.value ⟨.dimension,data⟩) ∧ (Complex.toBinary data 1).toRat? = some 8388607 := by
  have listed : ("mm",.dimension,5) ∈ units := by decide
  obtain ⟨data,read,-,-,kept⟩ := ofText_dimension (n := 8388607) (by decide) listed
  exact ⟨data,read,by simpa using kept.mpr (by decide)⟩

/-- The next number is read as one of the other sign. -/
theorem ofText_dimension_wraps :
    ofText "8388608px" = .ok (.value ⟨.dimension,0x80000000⟩) ∧
      (Complex.toBinary 0x80000000 1).toRat? = some (-8388608) := by
  have number : Complex.toBinary 0x80000000 1 = .finite true 0x10000000000000 (-29) := by decide
  refine ⟨by decide,?_⟩
  rw [number]
  norm_num [Binary.toRat?]

end Literal

end AndroidResources
