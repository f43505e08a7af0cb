import AndroidResources.Proofs.LocaleCodes
import AndroidResources.Proofs.QualifierKinds
import AndroidResources.Proofs.WrittenNumbers

/-!
# Words of qualifiers

A word that stands for a qualifier has letters and digits only (`Qualifier.isAlphanum_of_ofWord?`). The qualifier is written
by a word that stands for it again (`Qualifier.ofWord?_text`), which may be another one: a density that has a keyword is
written by it.
-/
namespace AndroidResources

namespace Qualifier
variable {cs rest word : List Char} {n : UInt16} {q : Qualifier}

theorem number?_repr (n : UInt16) (rest : List Char) (stop : ∀ c ∈ rest.head?, ¬ c.isDigit) :
    number? ((Nat.repr n.toNat).toList ++ rest) = some (n,rest) := by
  rw [number?,Text.leadingDecimal?_repr n.toNat stop]
  simp [UInt16.toNat_lt_size]

theorem number?_front (read : number? cs = some (n,rest)) : ∃ digits, cs = digits ++ rest ∧ digits ≠ [] ∧ ∀ c ∈ digits, c.isDigit := by
  unfold number? at read
  split at read
  next isNumber =>
    split at read
    · obtain ⟨_,rfl⟩ := Prod.mk.inj (Option.some.inj read)
      exact Text.leadingDecimal?_front isNumber
    · cases read
  next => cases read

/-! ## Fronts of words -/

section
variable {before after : String} {make : UInt16 → Qualifier}

theorem numbered_front (read : numbered before after make cs = some (q,rest)) :
    ∃ digits n, cs = before.toList ++ (digits ++ (after.toList ++ rest)) ∧ digits ≠ [] ∧ (∀ c ∈ digits, c.isDigit) ∧
      q = make n := by
  obtain ⟨cs',isBefore,read⟩ := Option.bind_eq_some_iff.1 read
  obtain ⟨⟨n,cs''⟩,isNumber,read⟩ := Option.bind_eq_some_iff.1 read
  obtain ⟨rest',isAfter,read⟩ := Option.bind_eq_some_iff.1 read
  obtain ⟨rfl,rfl⟩ := Prod.mk.inj (Option.some.inj read)
  obtain ⟨digits,rfl,nonempty,all⟩ := number?_front isNumber
  rw [List.isPrefixOf?_eq_some_iff_append_eq] at isBefore isAfter
  subst isAfter
  subst isBefore
  exact ⟨digits,n,rfl,nonempty,all,rfl⟩

theorem numbered_eq_none (other : ¬ before.toList <+: cs) : numbered before after make cs = none := by
  unfold numbered
  cases found : List.isPrefixOf? before.toList cs with
  | none => rfl
  | some rest => exact absurd ⟨rest,List.isPrefixOf?_eq_some_iff_append_eq.1 found⟩ other

theorem numbered_repr (n : UInt16) (stop : ∀ c ∈ after.toList.head?, ¬ c.isDigit) :
    numbered before after make (before.toList ++ ((Nat.repr n.toNat).toList ++ after.toList)) = some (make n,[]) := by
  have isBefore (cs : List Char) : List.isPrefixOf? before.toList (before.toList ++ cs) = some cs :=
    List.isPrefixOf?_eq_some_iff_append_eq.2 rfl
  have isAfter : List.isPrefixOf? after.toList after.toList = some [] :=
    List.isPrefixOf?_eq_some_iff_append_eq.2 (List.append_nil _)
  simp only [numbered,isBefore,Option.bind_eq_bind,Option.bind_some,number?_repr n _ stop,isAfter]

end

theorem run?_front {count : Nat} {is : Char → Bool} {front : List Char} (read : run? count is cs = some (front,rest)) :
    cs = front ++ rest ∧ front.length = count ∧ ∀ c ∈ front, is c := by
  unfold run? at read
  split at read
  next here =>
    obtain ⟨rfl,rfl⟩ := Prod.mk.inj (Option.some.inj read)
    exact ⟨(List.take_append_drop count cs).symm,by simp [here.1],List.all_eq_true.1 here.2⟩
  next => cases read

theorem languageReader_front (read : languageReader cs = some (q,rest)) :
    ∃ code, cs = code ++ rest ∧ LocaleCode.IsLanguage code ∧ q = language (.encode LocaleCode.languageBase code) := by
  obtain ⟨⟨code,rest'⟩,isCode,read⟩ := Option.bind_eq_some_iff.1 read
  obtain ⟨rfl,rfl⟩ := Prod.mk.inj (Option.some.inj read)
  rcases Option.or_eq_some_iff.1 isCode with three | ⟨_,two⟩
  · obtain ⟨split,length,lower⟩ := run?_front three
    exact ⟨code,split,⟨.inr length,lower⟩,rfl⟩
  · obtain ⟨split,length,lower⟩ := run?_front two
    exact ⟨code,split,⟨.inl length,lower⟩,rfl⟩

theorem regionReader_front (read : regionReader cs = some (q,rest)) :
    ∃ code, cs = 'r' :: (code ++ rest) ∧ LocaleCode.IsRegion code ∧ q = region (.encode LocaleCode.regionBase code) := by
  obtain ⟨cs',isMark,read⟩ := Option.bind_eq_some_iff.1 read
  obtain ⟨⟨code,rest'⟩,isCode,read⟩ := Option.bind_eq_some_iff.1 read
  obtain ⟨rfl,rfl⟩ := Prod.mk.inj (Option.some.inj read)
  rw [List.isPrefixOf?_eq_some_iff_append_eq] at isMark
  subst isMark
  rcases Option.or_eq_some_iff.1 isCode with two | ⟨_,three⟩
  · obtain ⟨rfl,length,upper⟩ := run?_front two
    exact ⟨code,rfl,.inl ⟨length,upper⟩,rfl⟩
  · obtain ⟨rfl,length,digit⟩ := run?_front three
    exact ⟨code,rfl,.inr ⟨length,digit⟩,rfl⟩

theorem pixelReader_front (read : pixelReader cs = some (q,rest)) : ∃ across down w h, cs = across ++ ('x' :: (down ++ rest)) ∧
    across ≠ [] ∧ (∀ c ∈ across, c.isDigit) ∧ (∀ c ∈ down, c.isDigit) ∧ q = pixels w h := by
  obtain ⟨⟨w,cs'⟩,isAcross,read⟩ := Option.bind_eq_some_iff.1 read
  obtain ⟨cs'',isMark,read⟩ := Option.bind_eq_some_iff.1 read
  obtain ⟨⟨h,rest'⟩,isDown,read⟩ := Option.bind_eq_some_iff.1 read
  obtain ⟨rfl,rfl⟩ := Prod.mk.inj (Option.some.inj read)
  obtain ⟨across,rfl,nonempty,digits⟩ := number?_front isAcross
  obtain ⟨down,rfl,_,digits'⟩ := number?_front isDown
  rw [List.isPrefixOf?_eq_some_iff_append_eq] at isMark
  subst isMark
  exact ⟨across,down,w,h,rfl,nonempty,digits,digits',rfl⟩

/-! ## Words -/

/-- Whether a qualifier is written with numbers, unless it has a keyword. -/
def isNumeric : Qualifier → Bool
  | mobileCountry _ | mobileNetwork _ | smallestWidth _ | width _ | height _ | density _ | pixels _ _ | version _ => true
  | _ => false

/-- What words stand for a qualifier that has none as a keyword. -/
inductive Spelt : List Char → Qualifier → Prop
  | language {code : List Char} : LocaleCode.IsLanguage code → Spelt code (.language (.encode LocaleCode.languageBase code))
  | region {code : List Char} : LocaleCode.IsRegion code → Spelt ('r' :: code) (.region (.encode LocaleCode.regionBase code))
  | numeric {word : List Char} {q : Qualifier} : q.isNumeric → word ≠ [] → (∀ c ∈ word, c.isAlphanum) → Spelt word q

theorem spelt_numbered {before after : String} {make : UInt16 → Qualifier} (numeric : ∀ n, (make n).isNumeric)
    (isAlphanum : (before.toList ++ after.toList).all Char.isAlphanum) (read : numbered before after make word = some (q,[])) :
    Spelt word q := by
  obtain ⟨digits,n,rfl,nonempty,all,rfl⟩ := numbered_front read
  refine .numeric (numeric n) (by simp [nonempty]) fun c mem => ?_
  have alphanum := List.all_eq_true.1 isAlphanum
  simp only [List.mem_append,List.append_nil] at mem alphanum
  rcases mem with isBefore | digit | isAfter
  · exact alphanum c (.inl isBefore)
  · exact Text.isAlphanum_of_isDigit (all c digit)
  · exact alphanum c (.inr isAfter)

theorem spelt_of_readers (read : readers.findSome? (fun read => read word) = some (q,[])) : Spelt word q := by
  obtain ⟨reader,mem,read⟩ := List.exists_of_findSome?_eq_some read
  simp only [readers,List.mem_cons,List.not_mem_nil,or_false] at mem
  rcases mem with rfl | rfl | rfl | rfl | rfl | rfl | rfl | rfl | rfl | rfl
  · exact spelt_numbered (fun _ => rfl) rfl read
  · exact spelt_numbered (fun _ => rfl) rfl read
  · exact spelt_numbered (fun _ => rfl) rfl read
  · exact spelt_numbered (fun _ => rfl) rfl read
  · exact spelt_numbered (fun _ => rfl) rfl read
  · exact spelt_numbered (fun _ => rfl) rfl read
  · obtain ⟨across,down,w,h,rfl,nonempty,digits,digits',rfl⟩ := pixelReader_front read
    refine .numeric rfl (by simp [nonempty]) fun c mem => ?_
    simp only [List.mem_append,List.mem_cons,List.append_nil] at mem
    rcases mem with digit | rfl | digit
    · exact Text.isAlphanum_of_isDigit (digits c digit)
    · decide
    · exact Text.isAlphanum_of_isDigit (digits' c digit)
  · exact spelt_numbered (fun _ => rfl) rfl read
  · obtain ⟨code,rfl,isRegion,rfl⟩ := regionReader_front read
    rw [List.append_nil]
    exact .region isRegion
  · obtain ⟨code,rfl,isLanguage,rfl⟩ := languageReader_front read
    rw [List.append_nil]
    exact .language isLanguage

/-- A word is a keyword, or spells its qualifier. -/
theorem ofWord?_eq_some (read : ofWord? word = some q) :
    keywords.lookup (String.ofList word) = some q ∨ keywords.lookup (String.ofList word) = none ∧ Spelt word q := by
  unfold ofWord? at read
  split at read
  next isKeyword => exact .inl (isKeyword.trans read)
  next noKeyword =>
    split at read
    next isRead =>
      obtain rfl := Option.some.inj read
      exact .inr ⟨noKeyword,spelt_of_readers isRead⟩
    next => cases read

theorem mem_keywords {text : String} (isKeyword : keywords.lookup text = some q) : (text,q) ∈ keywords := by
  obtain ⟨before,after,split,_⟩ := List.lookup_eq_some_iff.1 isKeyword
  rw [split]
  simp

theorem ofWord?_of_keyword (isKeyword : keywords.lookup (String.ofList word) = some q) : ofWord? word = some q := by
  rw [ofWord?,isKeyword]

theorem ofWord?_of_readers (noKeyword : keywords.lookup (String.ofList word) = none)
    (read : readers.findSome? (fun read => read word) = some (q,[])) : ofWord? word = some q := by
  rw [ofWord?,noKeyword,read]

theorem Spelt.alphanum (spelt : Spelt word q) : word ≠ [] ∧ ∀ c ∈ word, c.isAlphanum := by
  cases spelt with
  | language isLanguage =>
    refine ⟨?_,fun c mem => Text.isAlphanum_of_isLower (isLanguage.2 c mem)⟩
    rintro rfl
    rcases isLanguage.1 with length | length <;> cases length
  | region isRegion =>
    refine ⟨List.cons_ne_nil _ _,fun c mem => ?_⟩
    rcases List.mem_cons.1 mem with rfl | mem
    · decide
    · rcases isRegion with ⟨_,upper⟩ | ⟨_,digit⟩
      · exact Text.isAlphanum_of_isUpper (upper c mem)
      · exact Text.isAlphanum_of_isDigit (digit c mem)
  | numeric _ nonempty alphanum => exact ⟨nonempty,alphanum⟩

/-- A word that stands for a qualifier has letters and digits only, at least one. -/
theorem alphanum_of_ofWord? (read : ofWord? word = some q) : word ≠ [] ∧ ∀ c ∈ word, c.isAlphanum := by
  rcases ofWord?_eq_some read with isKeyword | ⟨_,spelt⟩
  · have all : keywords.all (fun e => !e.1.toList.isEmpty && e.1.toList.all Char.isAlphanum) := by decide +kernel
    simpa using List.all_eq_true.1 all _ (mem_keywords isKeyword)
  · exact spelt.alphanum

/-- A qualifier that a word stands for has no bits but those of its kind. -/
theorem fits_of_ofWord? (read : ofWord? word = some q) : q.fits := by
  rcases ofWord?_eq_some read with isKeyword | ⟨_,spelt⟩
  · have all : ∀ e ∈ keywords, e.2.fits := by decide +kernel
    exact all _ (mem_keywords isKeyword)
  · cases spelt with
    | language => rfl
    | region => rfl
    | @numeric _ q numeric => cases q <;> first | rfl | cases numeric

/-! ## Writing -/

/-- A word with a digit and without a `k` is no keyword. -/
theorem lookup_keywords_of_digit {text : String} {c : Char} (digit : c.isDigit) (mem : c ∈ text.toList)
    (absent : 'k' ∉ text.toList) : keywords.lookup text = none := by
  have all : keywords.all (fun e => !e.1.toList.any Char.isDigit || e.1.toList.contains 'k') := by decide +kernel
  cases found : keywords.lookup text with
  | none => rfl
  | some q =>
    have either := List.all_eq_true.1 all _ (mem_keywords found)
    simp only [List.any_eq_true.2 ⟨c,mem,digit⟩,Bool.not_true,Bool.false_or,List.contains_iff_mem] at either
    exact absurd either absent

theorem lookup_plainText (numeric : q.isNumeric) : keywords.lookup q.plainText = none := by
  have digits (n : UInt16) : ∃ c ∈ Nat.toDigits 10 n.toNat, c.isDigit := by
    obtain ⟨c,mem⟩ := List.exists_mem_of_ne_nil (Nat.toDigits 10 n.toNat) Nat.toDigits_ne_nil
    exact ⟨c,mem,Nat.isDigit_of_mem_toDigits (by decide) (by decide) mem⟩
  have others (n : UInt16) : 'k' ∉ Nat.toDigits 10 n.toNat := fun mem =>
    absurd (Nat.isDigit_of_mem_toDigits (b := 10) (by decide) (by decide) mem) (by decide)
  cases q <;> try cases numeric
  case mobileCountry n | mobileNetwork n | smallestWidth n | width n | height n | density n | pixels n _ | version n =>
    obtain ⟨c,mem,digit⟩ := digits n
    exact lookup_keywords_of_digit digit (by simp [plainText,mem]) (by simp [plainText,others])

theorem numbered_repr_eq_none {before after : String} {make : UInt16 → Qualifier} (n : UInt16)
    (letter : before.toList.head?.any fun c => !c.isDigit) :
    numbered before after make ((Nat.repr n.toNat).toList ++ rest) = none := by
  refine numbered_eq_none fun isPrefix => ?_
  rw [Nat.toList_repr] at isPrefix
  cases first : before.toList with
  | nil =>
    rw [first] at letter
    cases letter
  | cons c others =>
    cases digits : Nat.toDigits 10 n.toNat with
    | nil => exact Nat.toDigits_ne_nil digits
    | cons d more =>
      have digit : d.isDigit :=
        Nat.isDigit_of_mem_toDigits (b := 10) (n := n.toNat) (by decide) (by decide) (by rw [digits]; exact List.mem_cons_self)
      rw [first,digits,List.cons_append,List.cons_prefix_cons] at isPrefix
      rw [first,isPrefix.1] at letter
      simp [digit] at letter

theorem number?_cons_eq_none {c : Char} (letter : ¬ c.isDigit) : number? (c :: cs) = none := by
  have none_of : Text.leadingDecimal? (c :: cs) = none := by
    unfold Text.leadingDecimal?
    split
    next zero =>
      obtain ⟨rfl,_⟩ := List.cons.inj zero
      exact absurd (by decide) letter
    next => rw [List.takeWhile_cons_of_neg letter]
  rw [number?,none_of]

theorem pixelReader_repr (w h : UInt16) :
    pixelReader ((Nat.repr w.toNat).toList ++ 'x' :: (Nat.repr h.toNat).toList) = some (pixels w h,[]) := by
  have across := number?_repr w ('x' :: (Nat.repr h.toNat).toList) (by simp)
  have down := number?_repr h [] (by simp)
  rw [List.append_nil] at down
  have isMark (cs : List Char) : List.isPrefixOf? ['x'] ('x' :: cs) = some cs := rfl
  simp only [pixelReader,across,down,isMark,Option.bind_eq_bind,Option.bind_some]

/-- A number between two texts is read back if the readers before its own one refuse the first text. -/
theorem readers_numbered (count : Nat) (before after : String) (make : UInt16 → Qualifier) (n : UInt16)
    (here : readers = readers.take count ++ numbered before after make :: readers.drop (count + 1))
    (stop : ∀ c ∈ after.toList.head?, ¬ c.isDigit)
    (refused : ∀ read ∈ readers.take count, read (before.toList ++ ((Nat.repr n.toNat).toList ++ after.toList)) = none) :
    readers.findSome? (fun read => read (before ++ Nat.repr n.toNat ++ after).toList) = some (make n,[]) := by
  rw [String.toList_append,String.toList_append,List.append_assoc,List.findSome?_eq_some_iff]
  exact ⟨_,_,_,here,numbered_repr n stop,refused⟩

theorem readers_plainText (numeric : q.isNumeric) :
    readers.findSome? (fun read => read q.plainText.toList) = some (q,[]) := by
  -- The readers before a qualifier's own one ask for another first letter.
  cases q <;> try cases numeric
  case mobileCountry code =>
    have read := readers_numbered 0 "mcc" "" mobileCountry code rfl (by simp) (by simp)
    rwa [String.append_empty] at read
  case mobileNetwork code =>
    have read := readers_numbered 1 "mnc" "" mobileNetwork code rfl (by simp) (by simp [readers,numbered_eq_none])
    rwa [String.append_empty] at read
  case smallestWidth dp =>
    rw [plainText]
    exact readers_numbered 2 "sw" "dp" smallestWidth dp rfl (by simp) (by simp [readers,numbered_eq_none])
  case width dp =>
    rw [plainText]
    exact readers_numbered 3 "w" "dp" width dp rfl (by simp) (by simp [readers,numbered_eq_none])
  case height dp =>
    rw [plainText]
    exact readers_numbered 4 "h" "dp" height dp rfl (by simp) (by simp [readers,numbered_eq_none])
  case density dpi =>
    have read := readers_numbered 5 "" "dpi" density dpi rfl (by simp) (by
      rw [String.toList_empty,List.nil_append]
      simp only [readers,List.take,List.forall_mem_cons,List.not_mem_nil,false_imp_iff,implies_true,and_true]
      exact ⟨numbered_repr_eq_none dpi rfl,numbered_repr_eq_none dpi rfl,numbered_repr_eq_none dpi rfl,
        numbered_repr_eq_none dpi rfl,numbered_repr_eq_none dpi rfl⟩)
    rwa [String.empty_append] at read
  case pixels w h =>
    -- The number across is read for a density as well, which goes on in another way.
    have word : (pixels w h).plainText.toList = (Nat.repr w.toNat).toList ++ 'x' :: (Nat.repr h.toNat).toList := by
      simp [plainText]
    have notDensity : numbered "" "dpi" density ((Nat.repr w.toNat).toList ++ 'x' :: (Nat.repr h.toNat).toList) = none := by
      have isNumber := number?_repr w ('x' :: (Nat.repr h.toNat).toList) (by simp)
      have isStart (cs : List Char) : List.isPrefixOf? "".toList cs = some cs := rfl
      have isOther (cs : List Char) : List.isPrefixOf? "dpi".toList ('x' :: cs) = none := rfl
      simp only [numbered,isStart,Option.bind_eq_bind,Option.bind_some,isNumber,isOther,Option.bind_none]
    rw [word,List.findSome?_eq_some_iff]
    refine ⟨readers.take 6,_,_,rfl,pixelReader_repr w h,?_⟩
    simp only [readers,List.take,List.forall_mem_cons,List.not_mem_nil,false_imp_iff,implies_true,and_true]
    exact ⟨numbered_repr_eq_none w rfl,numbered_repr_eq_none w rfl,numbered_repr_eq_none w rfl,
      numbered_repr_eq_none w rfl,numbered_repr_eq_none w rfl,notDensity⟩
  case version sdk =>
    have notNumber (cs : List Char) : number? ('v' :: cs) = none := number?_cons_eq_none (by decide)
    have read := readers_numbered 7 "v" "" version sdk rfl (by simp) (by
      simp [readers,numbered,pixelReader,notNumber,List.isPrefixOf?])
    rwa [String.append_empty] at read

theorem keywords_lookup : ∀ e ∈ keywords, keywords.lookup e.1 = some e.2 := by decide +kernel

/-- A qualifier that a word stands for is written by a word that stands for it. -/
theorem ofWord?_text (read : ofWord? word = some q) : ofWord? q.text.toList = some q := by
  unfold text
  cases found : keywords.find? fun entry => entry.2 = q with
  | some e =>
    have isKeyword := keywords_lookup e (List.mem_of_find?_eq_some found)
    have same := List.find?_some found
    rw [decide_eq_true_eq] at same
    rw [same] at isKeyword
    refine ofWord?_of_keyword ?_
    rwa [String.ofList_toList]
  | none =>
    rcases ofWord?_eq_some read with isKeyword | ⟨noKeyword,spelt⟩
    · have other := List.find?_eq_none.1 found _ (mem_keywords isKeyword)
      simp at other
    · -- Languages and regions are written by the word itself.
      cases spelt with
      | language isLanguage =>
        simp only [plainText,LocaleCode.decode_encode_language isLanguage,String.toList_ofList]
        exact read
      | region isRegion =>
        simp only [plainText,LocaleCode.decode_encode_region isRegion,String.toList_append,String.toList_ofList]
        exact read
      | numeric numeric nonempty alphanum =>
        refine ofWord?_of_readers ?_ (readers_plainText numeric)
        rw [String.ofList_toList]
        exact lookup_plainText numeric

end Qualifier

end AndroidResources
