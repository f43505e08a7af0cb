import AndroidResources.Proofs.QualifierWords

/-!
# Words of configurations

What is read of a text are its words, one after the other (`Configuration.qualifiersOf_eq`): the first one that stands for no
qualifier is what the text is refused for, and if there is none, the last qualifier of each kind counts
(`Configuration.ofText_words`).
-/
namespace AndroidResources

/-! ## Texts and their words -/

namespace Text

theorem trimmed_eq_self {drop : Char → Bool} {cs : List Char} (kept : ∀ c ∈ cs, ¬ drop c) : trimmed drop cs = cs := by
  have whole {cs : List Char} (kept : ∀ c ∈ cs, ¬ drop c) : cs.dropWhile drop = cs := by
    cases cs with
    | nil => rfl
    | cons c rest => exact List.dropWhile_cons_of_neg (kept c List.mem_cons_self)
  have kept' : ∀ c ∈ cs.reverse, ¬ drop c := fun c mem => kept c (List.mem_reverse.1 mem)
  rw [trimmed,whole kept,whole kept',List.reverse_reverse]

theorem isWord_of_isAlphanum {c : Char} (alphanum : c.isAlphanum) : ¬ isBlank c ∧ c ≠ '-' :=
  of_isAlphanum (P := fun c => ¬ isBlank c ∧ c ≠ '-') (by decide +kernel) alphanum

theorem mem_intercalate (separator : Char) {words : List (List Char)} {c : Char}
    (mem : c ∈ [separator].intercalate words) : c = separator ∨ ∃ word ∈ words, c ∈ word := by
  induction words with
  | nil => cases mem
  | cons word rest ih =>
    cases rest with
    | nil => exact .inr ⟨word,List.mem_cons_self,by simpa using mem⟩
    | cons next rest =>
      rw [List.intercalate_cons_cons,List.mem_append,List.mem_append,List.mem_singleton] at mem
      rcases mem with (inWord | same) | later
      · exact .inr ⟨word,List.mem_cons_self,inWord⟩
      · exact .inl same
      · rcases ih later with same | ⟨other,isOther,inOther⟩
        · exact .inl same
        · exact .inr ⟨other,List.mem_cons_of_mem _ isOther,inOther⟩

end Text

namespace Configuration
open Qualifier (Kind)
variable {words words' : List String}

/-- The words of a text. -/
def wordsOf (s : String) : List (List Char) := (Text.trimmed Text.isBlank s.toList).splitOn '-'

/-- Whether a text is read word by word. -/
def HasWords (s : String) : Prop := String.ofList (Text.trimmed Text.isBlank s.toList) ∉ defaultTexts

instance (s : String) : Decidable (HasWords s) := inferInstanceAs (Decidable (¬ _ ∈ _))

/-- What words stand for, or the first one that stands for nothing. -/
theorem qualifiersOf_eq (words : List (List Char)) : qualifiersOf words =
    match words.find? fun word => (Qualifier.ofWord? word).isNone with
    | some word => .error (.invalidQualifier (String.ofList word))
    | none => .ok (words.filterMap Qualifier.ofWord?) := by
  induction words with
  | nil => rfl
  | cons word rest ih =>
    rw [qualifiersOf,List.find?_cons,List.filterMap_cons]
    cases Qualifier.ofWord? word with
    | none => rfl
    | some q =>
      rw [ih]
      simp only [Option.isNone_some]
      cases rest.find? fun word => (Qualifier.ofWord? word).isNone <;> rfl

theorem ofText_eq {s : String} (hasWords : HasWords s) : ofText s = (qualifiersOf (wordsOf s)).map ofQualifiers := by
  rw [ofText]
  exact if_neg hasWords

/-- Whether words stand for qualifiers. -/
def Accepted (words : List String) : Prop := ∀ word ∈ words, (Qualifier.ofWord? word.toList).isSome

instance (words : List String) : Decidable (Accepted words) := inferInstanceAs (Decidable (∀ word ∈ words, _))

/-- The qualifiers that words stand for. -/
def qualifiersIn (words : List String) : List Qualifier := words.filterMap fun word => Qualifier.ofWord? word.toList

theorem Accepted.alphanum (accepted : Accepted words) {word : String} (mem : word ∈ words) :
    word.toList ≠ [] ∧ ∀ c ∈ word.toList, c.isAlphanum := by
  obtain ⟨q,read⟩ := Option.isSome_iff_exists.1 (accepted word mem)
  exact Qualifier.alphanum_of_ofWord? read

theorem Accepted.trimmed (accepted : Accepted words) :
    Text.trimmed Text.isBlank ("-".intercalate words).toList = ("-".intercalate words).toList := by
  refine Text.trimmed_eq_self fun c mem => ?_
  rw [String.toList_intercalate] at mem
  rcases Text.mem_intercalate '-' mem with rfl | ⟨word,isWord,mem⟩
  · decide
  · obtain ⟨text,isText,rfl⟩ := List.mem_map.1 isWord
    exact (Text.isWord_of_isAlphanum ((accepted.alphanum isText).2 c mem)).1

/-- Words are found again in the text that they make. -/
theorem Accepted.wordsOf (accepted : Accepted words) (nonempty : words ≠ []) :
    wordsOf ("-".intercalate words) = words.map String.toList := by
  unfold Configuration.wordsOf
  rw [accepted.trimmed,String.toList_intercalate]
  refine List.splitOn_intercalate '-' (fun cs mem => ?_) (by simpa using nonempty)
  obtain ⟨word,isWord,rfl⟩ := List.mem_map.1 mem
  exact fun dash => (Text.isWord_of_isAlphanum ((accepted.alphanum isWord).2 '-' dash)).2 rfl

theorem fits_of_mem_qualifiersIn {q : Qualifier} (mem : q ∈ qualifiersIn words) : q.fits := by
  obtain ⟨word,_,read⟩ := List.mem_filterMap.1 mem
  exact Qualifier.fits_of_ofWord? read

theorem Accepted.ofText (accepted : Accepted words) (other : "-".intercalate words ∉ defaultTexts) :
    ofText ("-".intercalate words) = .ok (ofQualifiers (qualifiersIn words)) := by
  have nonempty : words ≠ [] := by
    rintro rfl
    exact other (by decide)
  have hasWords : HasWords ("-".intercalate words) := by
    unfold HasWords
    rwa [accepted.trimmed,String.ofList_toList]
  have noneRefused : (words.map String.toList).find? (fun word => (Qualifier.ofWord? word).isNone) = none := by
    rw [List.find?_eq_none]
    intro cs mem
    obtain ⟨word,isWord,rfl⟩ := List.mem_map.1 mem
    simpa using Option.isSome_iff_ne_none.1 (accepted word isWord)
  rw [ofText_eq hasWords,accepted.wordsOf nonempty,qualifiersOf_eq,noneRefused,List.filterMap_map]
  rfl

/-- The last qualifier of a kind that words stand for. -/
def lastOf (words : List String) (k : Kind) : Option Qualifier := (qualifiersIn words).reverse.find? fun q => q.kind = k

theorem ofText_of_lastOf (accepted : Accepted words) (accepted' : Accepted words')
    (last : ∀ k, lastOf words k = lastOf words' k) (other : "-".intercalate words ∉ defaultTexts)
    (other' : "-".intercalate words' ∉ defaultTexts) :
    ∃ c, ofText ("-".intercalate words) = .ok c ∧ ofText ("-".intercalate words') = .ok c := by
  refine ⟨_,accepted.ofText other,?_⟩
  rw [accepted'.ofText other',ofQualifiers_eq (fun _ => fits_of_mem_qualifiersIn) (fun _ => fits_of_mem_qualifiersIn) last]

/-- A text of two words or more is none of those of the configuration that sets nothing. -/
theorem intercalate_not_mem_defaultTexts {first second : String} (rest : List String) :
    "-".intercalate (first :: second :: rest) ∉ defaultTexts := by
  have dash : '-' ∈ ("-".intercalate (first :: second :: rest)).toList := by
    simp [String.toList_intercalate]
  have none_of : ∀ text ∈ defaultTexts, '-' ∉ text.toList := by decide
  exact fun mem => none_of _ mem dash

/-- Words for different kinds of qualifiers may come in any order. -/
theorem ofText_perm (accepted : Accepted words) (apart : (qualifiersIn words).Pairwise fun q r => q.kind ≠ r.kind)
    (perm : words'.Perm words) : ofText ("-".intercalate words') = ofText ("-".intercalate words) := by
  have accepted' : Accepted words' := fun word mem => accepted word (perm.subset mem)
  -- One word may make a text of the configuration that sets nothing, but has no other order.
  match words,words',perm.length_eq with
  | [],[],_ => rfl
  | [word],[word'],_ => rw [List.perm_singleton.1 perm]
  | _ :: _ :: rest,_ :: _ :: rest',_ =>
    rw [accepted.ofText (intercalate_not_mem_defaultTexts rest),accepted'.ofText (intercalate_not_mem_defaultTexts rest')]
    exact congrArg Except.ok (ofQualifiers_perm (fun _ => fits_of_mem_qualifiersIn) apart (perm.filterMap _))

/-- A text is refused for the first of its words that stands for no qualifier. -/
theorem ofText_error_iff {s : String} (hasWords : HasWords s) {error : TableError} : ofText s = .error error ↔
    ∃ word, ((wordsOf s).find? fun word => (Qualifier.ofWord? word).isNone) = some word ∧
      error = .invalidQualifier (String.ofList word) := by
  rw [ofText_eq hasWords,qualifiersOf_eq]
  cases (wordsOf s).find? fun word => (Qualifier.ofWord? word).isNone with
  | none => simp [Except.map]
  | some word => simp [Except.map,eq_comm]

/-- Only the last word of each kind counts, in whatever order the kinds come, and a text is refused exactly if one of its
    words stands for no qualifier, for the first such word. -/
theorem ofText_words :
    (∀ words words' : List String, Accepted words → Accepted words' → (∀ k, lastOf words k = lastOf words' k) →
      "-".intercalate words ∉ defaultTexts → "-".intercalate words' ∉ defaultTexts →
      ∃ c, ofText ("-".intercalate words) = .ok c ∧ ofText ("-".intercalate words') = .ok c) ∧
    (∀ words words' : List String, Accepted words → ((qualifiersIn words).Pairwise fun q r => q.kind ≠ r.kind) →
      words'.Perm words → ofText ("-".intercalate words') = ofText ("-".intercalate words)) ∧
    ∀ s, HasWords s →
      ((∃ error, ofText s = .error error) ↔ ∃ word ∈ wordsOf s, Qualifier.ofWord? word = none) ∧
      ∀ error, ofText s = .error error ↔ ∃ word, ((wordsOf s).find? fun word => (Qualifier.ofWord? word).isNone) = some word ∧
        error = .invalidQualifier (String.ofList word) := by
  refine ⟨fun _ _ => ofText_of_lastOf,fun _ _ => ofText_perm,fun s hasWords => ⟨?_,fun _ => ofText_error_iff hasWords⟩⟩
  simp only [ofText_error_iff hasWords]
  constructor
  · intro ⟨error,word,first,_⟩
    exact ⟨word,List.mem_of_find?_eq_some first,by simpa using List.find?_some first⟩
  · intro ⟨word,mem,refused⟩
    have found : ((wordsOf s).find? fun word => (Qualifier.ofWord? word).isNone).isSome :=
      List.find?_isSome.2 ⟨word,mem,by rw [refused]; rfl⟩
    obtain ⟨first,isFirst⟩ := Option.isSome_iff_exists.1 found
    exact ⟨_,first,isFirst,rfl⟩

/-- Languages are replaced by the last one, directions and screen sizes share a field, and the first of two wrong words is
    named. -/
theorem ofText_words_screen :
    (∃ c, ofText "en-large-ldrtl-de" = .ok c ∧ ofText "de-ldrtl-small-large" = .ok c) ∧
      ofText "large-de-ldrtl" = ofText "de-ldrtl-large" ∧
      ∀ error, ofText "de-bogus-EN" = .error error ↔ error = .invalidQualifier "bogus" := by
  obtain ⟨last,order,refused⟩ := ofText_words
  refine ⟨?_,?_,fun error => ?_⟩
  · refine last ["en","large","ldrtl","de"] ["de","ldrtl","small","large"] ?_ ?_ (fun k => ?_) (by decide) (by decide)
    · decide +kernel
    · decide +kernel
    · have qualifiers : qualifiersIn ["en","large","ldrtl","de"] =
          [.language ⟨0x65,0x6e⟩,.screenSize 3,.direction 0x80,.language ⟨0x64,0x65⟩] := by decide +kernel
      have qualifiers' : qualifiersIn ["de","ldrtl","small","large"] =
          [.language ⟨0x64,0x65⟩,.direction 0x80,.screenSize 1,.screenSize 3] := by decide +kernel
      rw [lastOf,lastOf,qualifiers,qualifiers']
      cases k <;> rfl
  · refine order ["de","ldrtl","large"] ["large","de","ldrtl"] ?_ ?_ (by decide)
    · decide +kernel
    · decide +kernel
  · have hasWords : HasWords "de-bogus-EN" := by decide +kernel
    have first : ((wordsOf "de-bogus-EN").find? fun word => (Qualifier.ofWord? word).isNone) = some "bogus".toList := by
      decide +kernel
    rw [(refused "de-bogus-EN" hasWords).2 error,first]
    simp

end Configuration

end AndroidResources
