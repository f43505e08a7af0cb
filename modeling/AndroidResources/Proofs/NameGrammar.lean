import Mathlib.Data.List.TakeWhile
import AndroidResources.Proofs.LocaleCodes
import AndroidResources.Proofs.TableNames

/-!
# The grammar of names

A name has one sign or none in front, then a package before a colon and a type before a slash where they are given, and an entry.
No part has a sign or a separator among its characters, so that to cut a text at the first colon and then at the first slash is
to read it by this grammar, and there is no other way to read it (`NameParts.ofText_grammar`).
-/
namespace AndroidResources

/-! ## Parts -/

namespace ResourceName

/-- The characters of a part: letters and digits of ASCII, and four more. -/
inductive Permits : Char → Prop
  | small {c : Char} : 'a' ≤ c → c ≤ 'z' → Permits c
  | capital {c : Char} : 'A' ≤ c → c ≤ 'Z' → Permits c
  | digit {c : Char} : '0' ≤ c → c ≤ '9' → Permits c
  | other {c : Char} : c ∈ ['_','.','-','$'] → Permits c

/-- A text of at least one character, all of them permitted. -/
structure IsRun (part : String) : Prop where
  nonempty : part ≠ ""
  permits : ∀ c ∈ part.toList, Permits c

theorem allows_iff {c : Char} : allows c ↔ Permits c := by
  have between (first last : Char) : (decide (first ≤ c) && decide (c ≤ last)) = true ↔ first ≤ c ∧ c ≤ last := by
    rw [Bool.and_eq_true,decide_eq_true_iff,decide_eq_true_iff]
  have upper : c.isUpper ↔ 'A' ≤ c ∧ c ≤ 'Z' := decide_eq_true_iff
  have lower : c.isLower ↔ 'a' ≤ c ∧ c ≤ 'z' := between 'a' 'z'
  have isDigit : c.isDigit ↔ '0' ≤ c ∧ c ≤ '9' := between '0' '9'
  simp only [allows,Bool.or_eq_true,Text.isAlphanum_iff,beq_iff_eq,upper,lower,isDigit]
  constructor
  · rintro (((((⟨first,last⟩ | ⟨first,last⟩ | ⟨first,last⟩) | rfl) | rfl) | rfl) | rfl)
    · exact .capital first last
    · exact .small first last
    · exact .digit first last
    all_goals exact .other (by decide)
  · rintro (⟨first,last⟩ | ⟨first,last⟩ | ⟨first,last⟩ | mem)
    · simp only [first,last,and_self,or_true,true_or]
    · simp only [first,last,and_self,true_or]
    · simp only [first,last,and_self,or_true,true_or]
    · simp only [List.mem_cons,List.not_mem_nil,or_false] at mem
      rcases mem with rfl | rfl | rfl | rfl <;> decide

theorem isPart_iff {part : String} : isPart part.toList ↔ IsRun part := by
  simp only [isPart,Bool.and_eq_true,decide_eq_true_eq,List.all_eq_true,allows_iff,ne_eq,String.toList_eq_nil_iff]
  constructor
  · rintro ⟨nonempty,permits⟩
    exact ⟨nonempty,permits⟩
  · rintro ⟨nonempty,permits⟩
    exact ⟨nonempty,permits⟩

theorem IsRun.not_mem {part : String} (run : IsRun part) {c : Char} (refused : allows c = false) : c ∉ part.toList :=
  not_mem_of_isPart refused (isPart_iff.2 run)

end ResourceName

/-! ## Cutting -/

theorem splitOnce?_eq_none_iff {separator : Char} {cs : List Char} : splitOnce? separator cs = none ↔ separator ∉ cs := by
  constructor
  · intro uncut mem
    obtain ⟨before,rest,rfl,absent⟩ := List.eq_append_cons_of_mem mem
    rw [splitOnce?_append absent] at uncut
    cases uncut
  · intro absent
    have all : ∀ c ∈ cs, decide (c ≠ separator) = true := fun c mem => decide_eq_true fun same => absent (same ▸ mem)
    rw [splitOnce?,List.dropWhile_eq_nil_iff.2 all]

theorem splitOnce?_eq_some_iff {separator : Char} {cs before rest : List Char} :
    splitOnce? separator cs = some (before,rest) ↔ cs = before ++ separator :: rest ∧ separator ∉ before := by
  constructor
  · intro cut
    have mem : separator ∈ cs := by
      by_contra absent
      rw [splitOnce?_eq_none_iff.2 absent] at cut
      cases cut
    obtain ⟨before',rest',rfl,absent⟩ := List.eq_append_cons_of_mem mem
    rw [splitOnce?_append absent] at cut
    obtain ⟨rfl,rfl⟩ := Prod.mk.inj (Option.some.inj cut)
    exact ⟨rfl,absent⟩
  · rintro ⟨rfl,absent⟩
    exact splitOnce?_append absent

namespace NameParts
open ResourceName (IsRun isPart_iff)
variable {s sign sign' : String} {parts parts' : NameParts} {separator : Char} {cs rest : List Char}
  {part : Option (List Char)}

/-- A part with its separator behind it, or nothing. -/
def leading (separator : Char) : Option (List Char) → List Char
  | some part => part ++ [separator]
  | none => []

theorem qualifierBefore_eq_iff : qualifierBefore separator cs = (part,rest) ↔
    cs = leading separator part ++ rest ∧ (∀ before ∈ part, separator ∉ before) ∧ (part = none → separator ∉ rest) := by
  unfold qualifierBefore
  cases cut : splitOnce? separator cs with
  | none =>
    have absent := splitOnce?_eq_none_iff.1 cut
    constructor
    · rintro ⟨⟩
      exact ⟨rfl,by simp,fun _ => absent⟩
    · rintro ⟨rfl,_,_⟩
      cases part with
      | none => rfl
      | some before => simp [leading] at absent
  | some found =>
    obtain ⟨before,after⟩ := found
    obtain ⟨rfl,absent⟩ := splitOnce?_eq_some_iff.1 cut
    constructor
    · rintro ⟨⟩
      exact ⟨by simp [leading],by simpa using absent,by simp⟩
    · rintro ⟨same,absent',noMore⟩
      cases part with
      | none =>
        obtain rfl : before ++ separator :: after = rest := same
        exact absurd (by simp) (noMore rfl)
      | some before' =>
        rw [leading,List.append_assoc,List.singleton_append] at same
        have cut' : splitOnce? separator (before' ++ separator :: rest) = some (before',rest) :=
          splitOnce?_append (absent' before' rfl)
        rw [← same,cut] at cut'
        obtain ⟨rfl,rfl⟩ := Prod.mk.inj (Option.some.inj cut')
        rfl

/-- The parts as they are written, each with its separator. -/
def text (parts : NameParts) : String :=
  parts.package.elim "" (· ++ ":") ++ parts.type.elim "" (· ++ "/") ++ parts.entry

/-- Whether all parts are runs of permitted characters. -/
structure Proper (parts : NameParts) : Prop where
  package : ∀ package ∈ parts.package, IsRun package
  type : ∀ type ∈ parts.type, IsRun type
  entry : IsRun parts.entry

/-- A reading of a text: a sign or none, and behind it proper parts as they are written. -/
structure Reading (s sign : String) (parts : NameParts) : Prop where
  isSign : sign ∈ ["","@","?"]
  written : s = sign ++ parts.text
  proper : parts.Proper

theorem toList_text (parts : NameParts) : parts.text.toList =
    leading ':' (parts.package.map String.toList) ++ (leading '/' (parts.type.map String.toList) ++ parts.entry.toList) := by
  rcases parts with ⟨_ | _,_ | _,_⟩ <;> simp [text,leading]

theorem ofText_cases (s : String) : (∃ parts, ofText s = .ok parts) ∨ ofText s = .error (.invalidName s) := by
  simp only [ofText]
  split
  · exact .inl ⟨_,rfl⟩
  · exact .inr rfl

theorem Proper.cut (proper : parts.Proper) : qualifierBefore ':' parts.text.toList =
      (parts.package.map String.toList,leading '/' (parts.type.map String.toList) ++ parts.entry.toList) ∧
    qualifierBefore '/' (leading '/' (parts.type.map String.toList) ++ parts.entry.toList) =
      (parts.type.map String.toList,parts.entry.toList) := by
  have noColon {part : String} (run : IsRun part) : ':' ∉ part.toList := run.not_mem (by decide)
  have noSlash {part : String} (run : IsRun part) : '/' ∉ part.toList := run.not_mem (by decide)
  constructor
  · refine qualifierBefore_eq_iff.2 ⟨toList_text parts,?_,fun _ => ?_⟩
    · simpa using fun package isPackage => noColon (proper.package package isPackage)
    · cases isType : parts.type with
      | none => simpa [leading] using noColon proper.entry
      | some type => simpa [leading] using ⟨noColon (proper.type type isType),noColon proper.entry⟩
  · refine qualifierBefore_eq_iff.2 ⟨rfl,?_,fun _ => noSlash proper.entry⟩
    simpa using fun type isType => noSlash (proper.type type isType)

/-- A text is read as the proper parts that it is made of behind its sign. -/
theorem ofText_eq_ok_iff : ofText s = .ok parts ↔ parts.Proper ∧ withoutSign s.toList = parts.text.toList := by
  constructor
  · intro read
    obtain ⟨package,rest,cutPackage⟩ : ∃ package rest, qualifierBefore ':' (withoutSign s.toList) = (package,rest) := ⟨_,_,rfl⟩
    obtain ⟨type,entry,cutType⟩ : ∃ type entry, qualifierBefore '/' rest = (type,entry) := ⟨_,_,rfl⟩
    simp only [ofText,cutPackage,cutType] at read
    split at read
    next valid =>
      obtain rfl := Except.ok.inj read
      simp only [Bool.and_eq_true,Option.all_eq_true] at valid
      obtain ⟨⟨validEntry,validPackage⟩,validType⟩ := valid
      have run {cs : List Char} (valid : ResourceName.isPart cs) : IsRun (String.ofList cs) :=
        isPart_iff.1 (by rwa [String.toList_ofList])
      refine ⟨⟨?_,?_,run validEntry⟩,?_⟩
      · rintro _ isPackage
        obtain ⟨cs,found,rfl⟩ := Option.map_eq_some_iff.1 isPackage
        exact run (validPackage cs found)
      · rintro _ isType
        obtain ⟨cs,found,rfl⟩ := Option.map_eq_some_iff.1 isType
        exact run (validType cs found)
      · rw [toList_text,(qualifierBefore_eq_iff.1 cutPackage).1,(qualifierBefore_eq_iff.1 cutType).1]
        simp
    next => cases read
  · rintro ⟨proper,same⟩
    obtain ⟨cutPackage,cutType⟩ := proper.cut
    have valid : (ResourceName.isPart parts.entry.toList &&
        (parts.package.map String.toList).all ResourceName.isPart &&
        (parts.type.map String.toList).all ResourceName.isPart) = true := by
      simp only [Bool.and_eq_true,Option.all_map,Option.all_eq_true]
      exact ⟨⟨isPart_iff.2 proper.entry,fun package isPackage => isPart_iff.2 (proper.package package isPackage)⟩,
        fun type isType => isPart_iff.2 (proper.type type isType)⟩
    simp only [ofText,same,cutPackage,cutType]
    rw [if_pos valid]
    simp

/-! ## Readings -/

theorem exists_sign (s : String) : ∃ sign ∈ ["","@","?"], s.toList = sign.toList ++ withoutSign s.toList := by
  unfold withoutSign
  split
  next rest same => exact ⟨"@",by simp,same⟩
  next rest same => exact ⟨"?",by simp,same⟩
  next => exact ⟨"",by simp,rfl⟩

/-- The text of proper parts does not begin with a sign. -/
theorem Proper.withoutSign_text (proper : parts.Proper) : withoutSign parts.text.toList = parts.text.toList := by
  rw [toList_text]
  cases isPackage : parts.package with
  | some package =>
    have front := isPart_iff.2 (proper.package package isPackage)
    simpa [leading] using withoutSign_append front _
  | none =>
    cases isType : parts.type with
    | some type =>
      have front := isPart_iff.2 (proper.type type isType)
      simpa [leading] using withoutSign_append front _
    | none => simpa [leading] using withoutSign_append (isPart_iff.2 proper.entry) []

theorem Reading.withoutSign_eq (reading : Reading s sign parts) : withoutSign s.toList = parts.text.toList := by
  rw [reading.written,String.toList_append]
  have isSign := reading.isSign
  simp only [List.mem_cons,List.not_mem_nil,or_false] at isSign
  rcases isSign with rfl | rfl | rfl
  · exact reading.proper.withoutSign_text
  · rfl
  · rfl

theorem ofText_eq_ok_iff_reading : ofText s = .ok parts ↔ ∃ sign, Reading s sign parts := by
  rw [ofText_eq_ok_iff]
  constructor
  · rintro ⟨proper,same⟩
    obtain ⟨sign,isSign,split⟩ := exists_sign s
    refine ⟨sign,isSign,?_,proper⟩
    rw [← String.toList_inj,split,same,String.toList_append]
  · rintro ⟨sign,reading⟩
    exact ⟨reading.proper,reading.withoutSign_eq⟩

/-- There is no other way to read a text. -/
theorem Reading.unique (reading : Reading s sign parts) (reading' : Reading s sign' parts') :
    sign = sign' ∧ parts = parts' := by
  have read := ofText_eq_ok_iff_reading.2 ⟨sign,reading⟩
  rw [ofText_eq_ok_iff_reading.2 ⟨sign',reading'⟩] at read
  obtain rfl := Except.ok.inj read
  have same := reading.written.symm.trans reading'.written
  exact ⟨(String.append_left_inj _).1 same,rfl⟩

/-- A text is read exactly if it has a reading, as the parts of that reading, which is the only one. As they are written, the
    parts are the text without its sign. A text without a reading is an invalid name. -/
theorem ofText_grammar (s : String) :
    (∀ parts, ofText s = .ok parts ↔ ∃ sign, Reading s sign parts) ∧
    (∀ sign sign' parts parts', Reading s sign parts → Reading s sign' parts' → sign = sign' ∧ parts = parts') ∧
    (∀ parts, ofText s = .ok parts → parts.text.toList = withoutSign s.toList) ∧
    ((∀ sign parts, ¬ Reading s sign parts) → ofText s = .error (.invalidName s)) := by
  refine ⟨fun _ => ofText_eq_ok_iff_reading,fun _ _ _ _ => Reading.unique,fun parts read => ?_,fun unread => ?_⟩
  · exact (ofText_eq_ok_iff.1 read).2.symm
  · refine (ofText_cases s).resolve_left ?_
    rintro ⟨parts,read⟩
    obtain ⟨sign,reading⟩ := ofText_eq_ok_iff_reading.1 read
    exact unread sign parts reading

end NameParts

end AndroidResources
