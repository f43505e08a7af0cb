import AndroidResources.Proofs.ConfigurationWords

/-!
# Texts of configurations

A configuration that has been read is written by words that can be read (`Configuration.ofWord?_of_mem_qualifiers`), one for
each kind of qualifier that it sets. So its text is that of the same configuration, with two exceptions: a region without a
language is not written, and the language `any` alone is written like the configuration that sets nothing
(`Configuration.text_round_trip`).
-/
namespace AndroidResources

namespace Qualifier.Kind

/-- All kinds, in the order in which qualifiers are written. -/
def all : List Kind :=
  [mobileCountry,mobileNetwork,language,region,gender,direction,smallestWidth,width,height,screenSize,screenLength,roundness,
    gamut,dynamicRange,orientation,uiType,night,density,touchscreen,keysHidden,keyboard,navigationHidden,navigation,pixels,
    version]

theorem mem_all (k : Kind) : k ∈ all := by
  cases k <;> decide

theorem nodup_all : all.Nodup := by decide

end Qualifier.Kind

namespace Configuration
open Qualifier (Kind)
variable {c : Configuration} {q : Qualifier} {k : Kind} {s : String}

/-! ## What is written -/

/-- Whether the qualifier of a kind is written: it is set, and a region has a language. -/
def writes (c : Configuration) (k : Kind) : Bool :=
  c.qualifier k ≠ ({} : Configuration).qualifier k ∧ (k = .region → c.hasLocale)

/-- The qualifier of a kind, if it is written. -/
def written (c : Configuration) (k : Kind) : List Qualifier := if c.writes k then [c.qualifier k] else []

theorem written_eq {α : Type} [DecidableEq α] (make : α → Qualifier) (value unset : α)
    (injective : ∀ a b, make a = make b → a = b) (here : c.qualifier k = make value)
    (isUnset : ({} : Configuration).qualifier k = make unset) (notRegion : k ≠ .region) :
    c.written k = if value = unset then [] else [make value] := by
  have set : c.writes k ↔ value ≠ unset := by
    simp only [writes,here,isUnset,notRegion,decide_eq_true_eq,false_imp_iff,and_true]
    exact not_congr ⟨injective _ _,congrArg make⟩
  unfold written
  by_cases same : value = unset
  · rw [if_pos same,if_neg fun is => set.1 is same]
  · rw [if_neg same,if_pos (set.2 same),here]

theorem unlessZero_eq {make : UInt8 → Qualifier} {bits : UInt8} (injective : ∀ a b, make a = make b → a = b)
    (here : c.qualifier k = make bits) (unset : ({} : Configuration).qualifier k = make 0) (notRegion : k ≠ .region) :
    unlessZero make bits = c.written k :=
  (written_eq make bits 0 injective here unset notRegion).symm

theorem unlessUnset_eq {make : UInt16 → Qualifier} {value : UInt16} (injective : ∀ a b, make a = make b → a = b)
    (here : c.qualifier k = make value) (unset : ({} : Configuration).qualifier k = make 0) (notRegion : k ≠ .region) :
    unlessUnset make value = c.written k :=
  (written_eq make value 0 injective here unset notRegion).symm

theorem localeQualifiers_eq (c : Configuration) : c.localeQualifiers = c.written .language ++ c.written .region := by
  rw [written_eq (k := .language) .language c.language .unset (fun _ _ => Qualifier.language.inj) rfl rfl (by decide)]
  have region : c.writes .region ↔ c.region ≠ .unset ∧ c.hasLocale := by simp [writes,qualifier]
  unfold localeQualifiers written
  by_cases language : c.language = .unset
  · have noLocale : ¬ c.hasLocale := by simpa [hasLocale] using language
    rw [if_neg noLocale,if_pos language,if_neg fun is => noLocale (region.1 is).2]
    rfl
  · have locale : c.hasLocale := by simpa [hasLocale] using language
    rw [if_pos locale,if_neg language]
    by_cases none : c.region = .unset
    · rw [if_pos none,if_neg fun is => (region.1 is).1 none]
      rfl
    · rw [if_neg none,if_pos (region.2 ⟨none,locale⟩)]
      rfl

theorem pixelQualifiers_eq (c : Configuration) : c.pixelQualifiers = c.written .pixels := by
  rw [written_eq (k := .pixels) (fun size : UInt16 × UInt16 => .pixels size.1 size.2) (c.pixelWidth,c.pixelHeight) (0,0)
    (fun _ _ same => Prod.ext_iff.2 (Qualifier.pixels.inj same)) rfl rfl (by decide)]
  simp [pixelQualifiers]

/-- What is written are the qualifiers of all kinds that are set, in their order. -/
theorem qualifiers_eq (c : Configuration) : c.qualifiers = Kind.all.flatMap c.written := by
  unfold qualifiers
  simp only [Kind.all,List.flatMap_cons,List.flatMap_nil,List.append_assoc,List.append_nil,localeQualifiers_eq,
    pixelQualifiers_eq]
  -- Kind by kind, the text has the qualifier unless the field is unset.
  repeat' apply congrArg₂ HAppend.hAppend
  all_goals first
    | with_reducible rfl
    | exact unlessZero_eq (fun _ _ same => by injection same) rfl rfl (by decide)
    | exact unlessUnset_eq (fun _ _ same => by injection same) rfl rfl (by decide)

theorem mem_written : q ∈ c.written k ↔ c.writes k ∧ q = c.qualifier k := by
  unfold written
  split
  next writes => simp [writes]
  next silent => simp [silent]

theorem mem_qualifiers : q ∈ c.qualifiers ↔ c.writes q.kind ∧ q = c.qualifier q.kind := by
  rw [qualifiers_eq,List.mem_flatMap]
  simp only [mem_written]
  constructor
  · rintro ⟨k,_,writes,rfl⟩
    rw [kind_qualifier]
    exact ⟨writes,rfl⟩
  · exact fun here => ⟨q.kind,q.kind.mem_all,here⟩

theorem pairwise_qualifiers (c : Configuration) : c.qualifiers.Pairwise fun q r => q.kind ≠ r.kind := by
  rw [qualifiers_eq,List.pairwise_flatMap]
  refine ⟨fun k _ => ?_,Kind.nodup_all.imp fun differ q inFirst r inSecond => ?_⟩
  · unfold written
    split <;> simp
  · rw [(mem_written.1 inFirst).2,(mem_written.1 inSecond).2,kind_qualifier,kind_qualifier]
    exact differ

/-! ## What is read of it -/

/-- What is written is the configuration itself, but for a region without a language. -/
theorem ofQualifiers_qualifiers (nothingElse : c.remainder = {}) :
    ofQualifiers c.qualifiers = if c.hasLocale then c else { c with region := .unset } := by
  have fit : ∀ q ∈ c.qualifiers, q.fits := by
    intro q mem
    rw [(mem_qualifiers.1 mem).2]
    exact fits_qualifier c _
  have apart := (c.qualifiers.reverse_perm.pairwise_iff fun apart => Ne.symm apart).2 c.pairwise_qualifiers
  have last (k : Kind) : (ofQualifiers c.qualifiers).qualifier k =
      if c.writes k then c.qualifier k else ({} : Configuration).qualifier k := by
    rw [ofQualifiers_qualifier fit]
    split
    next writes =>
      have found := (find?_kind_eq_some_iff (k := k) (q := c.qualifier k) apart).2
        ⟨List.mem_reverse.2 (mem_qualifiers.2 (by rw [kind_qualifier]; exact ⟨writes,rfl⟩)),kind_qualifier c k⟩
      rw [found]
      rfl
    next silent =>
      cases found : c.qualifiers.reverse.find? fun q => q.kind = k with
      | none => rfl
      | some q =>
        obtain ⟨mem,rfl⟩ := (find?_kind_eq_some_iff apart).1 found
        exact absurd (mem_qualifiers.1 (List.mem_reverse.1 mem)).1 silent
  have rest : (ofQualifiers c.qualifiers).remainder = c.remainder := (remainder_ofQualifiers fit).trans nothingElse.symm
  -- What is not written is unset, unless it is a region without a language.
  have silent_iff (k : Kind) : ¬ c.writes k → (k = .region → c.hasLocale) → ({} : Configuration).qualifier k = c.qualifier k := by
    intro silent locale
    by_contra set
    exact silent (decide_eq_true ⟨Ne.symm set,locale⟩)
  by_cases locale : c.hasLocale
  · rw [if_pos locale]
    refine ext_qualifier (fun k => ?_) rest
    rw [last]
    split
    · rfl
    next silent => exact silent_iff k silent fun _ => locale
  · rw [if_neg locale]
    refine ext_qualifier (fun k => ?_) rest
    rw [last]
    by_cases isRegion : k = .region
    · subst isRegion
      rw [if_neg fun writes => locale ((of_decide_eq_true writes).2 rfl)]
      rfl
    · have others : ({ c with region := .unset } : Configuration).qualifier k = c.qualifier k := by
        cases k <;> first | rfl | exact absurd rfl isRegion
      rw [others]
      split
      · rfl
      next silent => exact silent_iff k silent fun same => absurd same isRegion

theorem ofText_ok (read : ofText s = .ok c) :
    ∃ qualifiers, c = ofQualifiers qualifiers ∧ ∀ q ∈ qualifiers, ∃ word, Qualifier.ofWord? word = some q := by
  by_cases hasWords : HasWords s
  · rw [ofText_eq hasWords,qualifiersOf_eq] at read
    split at read
    · cases read
    · refine ⟨_,(Except.ok.inj read).symm,fun q mem => ?_⟩
      obtain ⟨word,_,isRead⟩ := List.mem_filterMap.1 mem
      exact ⟨word,isRead⟩
  · rw [ofText] at read
    have default : Except.ok {} = Except.ok c := (if_pos (Decidable.not_not.1 hasWords)).symm.trans read
    exact ⟨[],(Except.ok.inj default).symm,by simp⟩

theorem remainder_of_ofText (read : ofText s = .ok c) : c.remainder = {} := by
  obtain ⟨qualifiers,rfl,words⟩ := ofText_ok read
  refine remainder_ofQualifiers fun q mem => ?_
  obtain ⟨word,isRead⟩ := words q mem
  exact Qualifier.fits_of_ofWord? isRead

/-- What a configuration sets that is read is written by words that can be read. -/
theorem ofWord?_of_mem_qualifiers (read : ofText s = .ok c) (mem : q ∈ c.qualifiers) :
    Qualifier.ofWord? q.text.toList = some q := by
  obtain ⟨qualifiers,rfl,words⟩ := ofText_ok read
  have fit : ∀ q ∈ qualifiers, q.fits := by
    intro q mem
    obtain ⟨word,isRead⟩ := words q mem
    exact Qualifier.fits_of_ofWord? isRead
  obtain ⟨writes,isLast⟩ := mem_qualifiers.1 mem
  have set := (of_decide_eq_true writes).1
  rw [ofQualifiers_qualifier fit] at isLast set
  cases found : qualifiers.reverse.find? fun r => r.kind = q.kind with
  | none =>
    rw [found] at set
    exact absurd rfl set
  | some r =>
    rw [found] at isLast
    obtain rfl : q = r := isLast
    obtain ⟨word,isRead⟩ := words q (List.mem_reverse.1 (List.mem_of_find?_eq_some found))
    exact Qualifier.ofWord?_text isRead

/-- What is written of a configuration that is read are words that can be read. -/
theorem accepted_text (read : ofText s = .ok c) : Accepted (c.qualifiers.map Qualifier.text) ∧
    qualifiersIn (c.qualifiers.map Qualifier.text) = c.qualifiers := by
  refine ⟨fun word mem => ?_,?_⟩
  · obtain ⟨q,isWritten,rfl⟩ := List.mem_map.1 mem
    rw [ofWord?_of_mem_qualifiers read isWritten]
    rfl
  · have all : ∀ q ∈ c.qualifiers, Qualifier.ofWord? q.text.toList = some q :=
      fun q mem => ofWord?_of_mem_qualifiers read mem
    unfold qualifiersIn
    rw [List.filterMap_map]
    exact (List.filterMap_congr all).trans List.filterMap_some

/-- Words that make a text of the configuration that sets nothing are none at all, or `any`. -/
theorem Accepted.of_defaultTexts {words : List String} (accepted : Accepted words)
    (default : "-".intercalate words ∈ defaultTexts) : words = [] ∨ "-".intercalate words = "any" := by
  by_cases nonempty : words = []
  · exact .inl nonempty
  · have found := accepted.wordsOf nonempty
    have refused {word : String} (same : "-".intercalate words = word) (alone : Configuration.wordsOf word = [word.toList])
        (noQualifier : Qualifier.ofWord? word.toList = none) : False := by
      rw [same,alone] at found
      obtain ⟨other,rest,rfl,sameText,_⟩ := List.map_eq_cons_iff.1 found.symm
      have isRead := accepted other List.mem_cons_self
      rw [sameText,noQualifier] at isRead
      cases isRead
    simp only [defaultTexts,List.mem_cons,List.not_mem_nil,or_false] at default
    rcases default with empty | default | any
    · exact (refused empty (by decide) (by decide +kernel)).elim
    · exact (refused default (by decide) (by decide +kernel)).elim
    · exact .inr any

/-- The text of a configuration that is read is read as the configuration, but for a region without a language, and as the
    one that sets nothing where the text is `any`. -/
theorem text_round_trip (read : ofText s = .ok c) :
    ofText c.text = .ok (if c.text = "any" then {} else if c.hasLocale then c else { c with region := .unset }) := by
  obtain ⟨accepted,qualifiers⟩ := accepted_text read
  rw [← ofQualifiers_qualifiers (remainder_of_ofText read)]
  by_cases any : c.text = "any"
  · rw [if_pos any,any]
    rfl
  · rw [if_neg any]
    by_cases default : c.text ∈ defaultTexts
    · have noWords := (accepted.of_defaultTexts default).resolve_right any
      rw [text,noWords,List.map_eq_nil_iff.1 noWords]
      rfl
    · have isRead := accepted.ofText default
      rw [qualifiers] at isRead
      exact isRead

/-- Words in another order and a density with a keyword are written in another way, and read as the same configuration. -/
theorem text_round_trip_screen : ∃ c, ofText "v21-land-rUS-240dpi-large-en" = .ok c ∧ c.text = "en-rUS-large-land-hdpi-v21" ∧
    ofText c.text = .ok c := by
  have texts : (ofText "v21-land-rUS-240dpi-large-en").toOption.map (fun c => (c.text,c.hasLocale)) =
      some ("en-rUS-large-land-hdpi-v21",true) := by decide +kernel
  cases read : ofText "v21-land-rUS-240dpi-large-en" with
  | error error =>
    rw [read] at texts
    cases texts
  | ok c =>
    rw [read] at texts
    obtain ⟨isText,locale⟩ := Prod.mk.inj (Option.some.inj texts)
    have again := text_round_trip read
    rw [if_neg (by rw [isText]; decide),if_pos locale] at again
    exact ⟨c,rfl,isText,again⟩

/-- Neither a region alone nor the language `any` alone is read of what it is written as. -/
theorem text_round_trip_lost : (∃ c, ofText "rUS" = .ok c ∧ c.text = "" ∧ ofText c.text ≠ .ok c) ∧
    ∃ c, ofText "en-any" = .ok c ∧ c.text = "any" ∧ ofText c.text ≠ .ok c := by
  have lost {s text : String} (found : (ofText s).toOption.map (fun c => (c.text,decide (c = {}))) = some (text,false))
      (default : ofText text = .ok {}) : ∃ c, ofText s = .ok c ∧ c.text = text ∧ ofText c.text ≠ .ok c := by
    cases read : ofText s with
    | error error =>
      rw [read] at found
      cases found
    | ok c =>
      rw [read] at found
      obtain ⟨isText,set⟩ := Prod.mk.inj (Option.some.inj found)
      refine ⟨c,rfl,isText,fun same => ?_⟩
      rw [isText,default] at same
      exact of_decide_eq_false set (Except.ok.inj same).symm
  exact ⟨lost (by decide +kernel) rfl,lost (by decide +kernel) rfl⟩

end Configuration

end AndroidResources
