import Mathlib.Data.List.Basic
import Mathlib.Data.List.Induction
import AndroidResources.Proofs.BagEntries
import AndroidResources.Proofs.ThemeEntries

/-!
# What a stack of styles leaves

A theme is determined by the bags of its styles in order (`Theme.composed`). For one attribute, the last style that
is applied by force and has an entry for it decides: its value stays, and where that is undefined, or there is no
such style, the first value that a later style offers gently fills the gap (`Theme.applyAll_entries`).
-/
namespace AndroidResources

namespace Theme
variable {t : Theme} {bag : Bag} {attr : ResourceId}

/-! ## One style -/

/-- An entry of a bag as a theme holds it. -/
def entryOf (bag : Bag) (e : BagEntry) : ThemeEntry :=
  ⟨e.cookie,bag.changes,e.value,e.style⟩

/-- What a bag imposes on an attribute, be it an undefined value: its last entry. -/
def imposedBy? (bag : Bag) (attr : ResourceId) : Option ThemeEntry :=
  (bag.find? attr).map (entryOf bag)

/-- What a bag offers for an attribute: its first entry with a defined value. -/
def offeredBy? (bag : Bag) (attr : ResourceId) : Option ThemeEntry :=
  (bag.entries.find? fun e => e.key = attr && !e.value.isUndefined).map (entryOf bag)

/-- The entries that a theme may hold. -/
def present? (e : ThemeEntry) : Option ThemeEntry :=
  if e.value.isUndefined then none else some e

theorem get?_mergeEntry (valid : attr.isValid) (force : Bool) (entries : OrderedMap ResourceId ThemeEntry)
    (e : BagEntry) : (mergeEntry bag force entries e).get? attr =
      if e.key = attr then overlay force (entries.get? attr) (entryOf bag e) else entries.get? attr := by
  simp only [mergeEntry]
  by_cases same : e.key = attr
  · subst same
    rw [if_pos valid,if_pos rfl,get?_update,if_pos rfl]
    rfl
  · rw [if_neg same]
    split
    · rw [get?_update,if_neg (Ne.symm same)]
    · rfl

/-- The last entry of a forced style decides. -/
theorem get?_merge_forced (valid : attr.isValid) : (t.merge bag true).entries.get? attr =
    ((imposedBy? bag attr).map present?).getD (t.entries.get? attr) := by
  simp only [merge,imposedBy?,Bag.find?]
  -- From the end, as the last entry for the attribute makes those before it not matter.
  induction bag.entries using List.reverseRecOn with
  | nil => rfl
  | append_singleton entries e ih =>
    rw [List.foldl_concat,get?_mergeEntry valid,ih,List.reverse_concat,List.find?_cons]
    by_cases same : e.key = attr
    · simp [same,overlay,present?]
    · simp [same]

/-- The first defined entry of a gentle style fills a gap. -/
theorem get?_merge_gentle (valid : attr.isValid) (defined : Defined t.entries) :
    (t.merge bag false).entries.get? attr = (t.entries.get? attr).or (offeredBy? bag attr) := by
  simp only [merge,offeredBy?]
  generalize t.entries = entries at defined
  induction bag.entries generalizing entries with
  | nil => simp
  | cons e rest ih =>
    rw [List.foldl_cons,ih _ (mergeEntry_defined bag false e defined),get?_mergeEntry valid,List.find?_cons]
    by_cases same : e.key = attr
    · cases isUndefined : e.value.isUndefined with
      | true => simp [same,overlay,entryOf,isUndefined]
      | false =>
        cases current : entries.get? attr with
        | none => simp [same,overlay,entryOf,isUndefined]
        | some old =>
          have isDefined := defined attr old current
          simp [same,overlay,entryOf,isUndefined,isDefined]
    · simp [same]

/-! ## All styles -/

/-- What a style imposes on an attribute, if it is applied by force. -/
def imposed? (m : Manager) (attr : ResourceId) (s : AppliedStyle) : Option ThemeEntry :=
  if s.force then (m.bag? s.style).1.bind fun bag => imposedBy? bag attr else none

/-- What a style offers for an attribute, if it is applied gently. -/
def offered? (m : Manager) (attr : ResourceId) (s : AppliedStyle) : Option ThemeEntry :=
  if s.force then none else (m.bag? s.style).1.bind fun bag => offeredBy? bag attr

/-- The theme after a style, whose bag may be missing. -/
def add (m : Manager) (t : Theme) (s : AppliedStyle) : Theme :=
  match (m.bag? s.style).1 with
  | none => t
  | some bag => t.merge bag s.force

/-- The theme that a manager composes of styles. -/
def composed (m : Manager) (styles : List AppliedStyle) : Theme :=
  { styles.foldl (add m) (new m) with stack := styles }

def applyAll (t : Theme) (m : Manager) (styles : List AppliedStyle) : Except ResourceError (Theme × Manager) :=
  styles.foldlM (fun (t,m) applied => (t.apply m applied).map (·.2)) (t,m)

variable {m m' : Manager} {styles : List AppliedStyle}

/-- The stack plays no part in what a style adds. -/
theorem add_stack (s : AppliedStyle) (stack : List AppliedStyle) :
    add m { t with stack } s = { add m t s with stack } := by
  unfold add
  cases (m.bag? s.style).1 <;> rfl

theorem add_owner (s : AppliedStyle) : (add m t s).owner = t.owner := by
  unfold add
  cases (m.bag? s.style).1 <;> rfl

theorem foldl_add_stack (stack : List AppliedStyle) :
    styles.foldl (add m) { t with stack } = { styles.foldl (add m) t with stack } := by
  induction styles generalizing t with
  | nil => rfl
  | cons s rest ih => rw [List.foldl_cons,add_stack,ih,List.foldl_cons]

theorem composed_owner (styles : List AppliedStyle) : (composed m styles).owner = m.tag := by
  unfold composed
  induction styles using List.reverseRecOn with
  | nil => rfl
  | append_singleton styles s ih => rw [List.foldl_concat,add_owner,ih]

theorem composed_concat (styles : List AppliedStyle) (s : AppliedStyle) :
    composed m (styles ++ [s]) = { add m (composed m styles) s with stack := styles ++ [s] } := by
  unfold composed
  rw [List.foldl_concat,add_stack (t := styles.foldl (add m) (new m)) s styles]

/-- Missing styles contribute nothing. -/
theorem composed_found : composed m (styles.filter fun s => (m.bag? s.style).1.isSome) =
    { composed m styles with stack := styles.filter fun s => (m.bag? s.style).1.isSome } := by
  have same (t : Theme) : (styles.filter fun s => (m.bag? s.style).1.isSome).foldl (add m) t = styles.foldl (add m) t := by
    rw [List.foldl_filter]
    congr
    funext t s
    unfold add
    cases (m.bag? s.style).1 <;> rfl
  unfold composed
  rw [same]

/-! ## Applying and replaying -/

/-- Questions that a manager was asked in between do not change what a style adds. -/
theorem mergeStyle_eq (asked : m.Asked m') (s : AppliedStyle) : (t.mergeStyle m' s).2.1 = add m t s := by
  have same := asked.bag?_eq s.style
  unfold mergeStyle add
  rw [← same]
  rcases m'.bag? s.style with ⟨_ | bag,_⟩ <;> rfl

theorem replay_eq (asked : m.Asked m') (styles : List AppliedStyle) :
    (t.replay m' styles).1 = styles.foldl (add m) t := by
  unfold replay
  induction styles generalizing t m' with
  | nil => rfl
  | cons s rest ih => rw [List.foldl_cons,ih (asked.trans (.mergeStyle t m' s)),mergeStyle_eq asked,List.foldl_cons]

theorem apply_eq (asked : m.Asked m') (owned : t.owner = m.tag) (s : AppliedStyle) :
    ∃ found m'', t.apply m' s = .ok (found,{ add m t s with stack := t.stack ++ [s] },m'') ∧ m.Asked m'' := by
  have tag : t.owner = m'.tag := owned.trans asked.tag.symm
  have added := mergeStyle_eq (t := { t with stack := t.stack ++ [s] }) asked s
  have later := asked.trans (.mergeStyle { t with stack := t.stack ++ [s] } m' s)
  simp only [apply,check,if_pos tag]
  rw [← add_stack,← added]
  exact ⟨_,_,rfl,later⟩

/-- A style is applied by the theme's own manager. -/
theorem apply_ok (asked : m.Asked m') {s : AppliedStyle} {found : Bool} {t' : Theme} {m'' : Manager}
    (applies : t.apply m' s = .ok (found,t',m'')) :
    t.owner = m.tag ∧ t' = { add m t s with stack := t.stack ++ [s] } ∧ m.Asked m'' := by
  by_cases owned : t.owner = m.tag
  · obtain ⟨_,_,result,later⟩ := apply_eq asked owned s
    have same := Except.ok.inj (applies.symm.trans result)
    obtain ⟨theme,manager⟩ := Prod.mk.inj (Prod.mk.inj same).2
    exact ⟨owned,theme,manager ▸ later⟩
  · rw [← asked.tag] at owned
    simp only [apply,check,if_neg owned] at applies
    cases applies

theorem applyAll_eq (asked : m.Asked m') (styles : List AppliedStyle) :
    ∃ m'', (new m').applyAll m' styles = .ok (composed m styles,m'') ∧ m.Asked m'' := by
  induction styles using List.reverseRecOn with
  | nil =>
    refine ⟨m',?_,asked⟩
    unfold composed new
    rw [← asked.tag]
    rfl
  | append_singleton styles s ih =>
    obtain ⟨before,applied,asked⟩ := ih
    obtain ⟨found,m'',step,asked⟩ := apply_eq asked (composed_owner styles) s
    refine ⟨m'',?_,asked⟩
    unfold applyAll at applied ⊢
    rw [List.foldlM_append,applied,composed_concat]
    show ((composed m styles).apply before s).map _ >>= pure = _
    rw [step]
    rfl

/-! ## One attribute -/

/-- What a style leaves of the value of an attribute. -/
def leave (m : Manager) (attr : ResourceId) (current : Option ThemeEntry) (s : AppliedStyle) : Option ThemeEntry :=
  (((imposed? m attr s).map present?).getD current).or (offered? m attr s)

theorem get?_add (valid : attr.isValid) (defined : Defined t.entries) (s : AppliedStyle) :
    (add m t s).entries.get? attr = leave m attr (t.entries.get? attr) s := by
  obtain ⟨style,force⟩ := s
  unfold add leave imposed? offered?
  cases (m.bag? style).1 with
  | none => cases force <;> simp
  | some bag =>
    cases force with
    | false => simpa using get?_merge_gentle valid defined
    | true => simpa using get?_merge_forced valid

theorem add_defined (defined : Defined t.entries) (s : AppliedStyle) : Defined (add m t s).entries := by
  unfold add
  split
  · exact defined
  · exact merge_defined _ _ defined

theorem get?_foldl_add (valid : attr.isValid) (defined : Defined t.entries) (styles : List AppliedStyle) :
    (styles.foldl (add m) t).entries.get? attr = styles.foldl (leave m attr) (t.entries.get? attr) := by
  induction styles generalizing t with
  | nil => rfl
  | cons s rest ih => rw [List.foldl_cons,ih (add_defined defined s),get?_add valid defined,List.foldl_cons]

theorem get?_composed (valid : attr.isValid) (styles : List AppliedStyle) :
    (composed m styles).entries.get? attr = styles.foldl (leave m attr) none :=
  get?_foldl_add (t := new m) valid defined_empty styles

/-- Where nothing is imposed, the first offer fills a gap. -/
theorem foldl_leave (current : Option ThemeEntry) (free : ∀ s ∈ styles, imposed? m attr s = none) :
    styles.foldl (leave m attr) current = current.or (styles.findSome? (offered? m attr)) := by
  induction styles generalizing current with
  | nil => simp
  | cons s rest ih =>
    have head := free s List.mem_cons_self
    rw [List.foldl_cons,ih _ fun s' mem => free s' (List.mem_cons_of_mem _ mem),List.findSome?_cons]
    unfold leave
    rw [head]
    cases current <;> cases offered? m attr s <;> simp

/-- After a style that imposes something, only that counts. -/
theorem leave_of_imposed {s : AppliedStyle} {e : ThemeEntry} (imposed : imposed? m attr s = some e)
    (current : Option ThemeEntry) : leave m attr current s = present? e := by
  have noOffer : offered? m attr s = none := by
    unfold imposed? at imposed
    unfold offered?
    split at imposed
    next force => rw [if_pos force]
    next => cases imposed
  simp [leave,imposed,noOffer]

theorem includes_foldl_add {d : Dimension} : (styles.foldl (add m) t).changes.includes d ↔
    t.changes.includes d ∨ ∃ s ∈ styles, ∃ bag, (m.bag? s.style).1 = some bag ∧ bag.changes.includes d := by
  induction styles generalizing t with
  | nil => simp
  | cons s rest ih =>
    rw [List.foldl_cons,ih]
    unfold add
    cases found : (m.bag? s.style).1 with
    | none => simp [found]
    | some bag => simp [found,merge,Changes.union,or_assoc]

/-- Styles applied to a new theme all go onto its stack, and their bags make up its values and dimensions. An
    attribute has what the last style imposes that imposes anything, or else the first offer after it. -/
theorem applyAll_entries (m : Manager) (styles : List AppliedStyle) :
    ∃ t m', (new m).applyAll m styles = .ok (t,m') ∧ t.stack = styles ∧
      (∀ d, t.changes.includes d ↔ ∃ s ∈ styles, ∃ bag, (m.bag? s.style).1 = some bag ∧ bag.changes.includes d) ∧
      (∀ attr, attr.isValid →
        ((∀ s ∈ styles, imposed? m attr s = none) → t.entries.get? attr = styles.findSome? (offered? m attr)) ∧
        ∀ before s after e, styles = before ++ s :: after → imposed? m attr s = some e →
          (∀ s' ∈ after, imposed? m attr s' = none) →
          t.entries.get? attr = if e.value.isUndefined then after.findSome? (offered? m attr) else some e) ∧
      ∃ t' m'', (new m).applyAll m (styles.filter fun s => (m.bag? s.style).1.isSome) = .ok (t',m'') ∧
        t'.entries = t.entries := by
  obtain ⟨m',applied,_⟩ := applyAll_eq (.refl m) styles
  obtain ⟨m'',found,_⟩ := applyAll_eq (.refl m) (styles.filter fun s => (m.bag? s.style).1.isSome)
  refine ⟨_,m',applied,rfl,fun d => ?_,fun attr valid => ⟨fun free => ?_,?_⟩,_,m'',found,?_⟩
  · simp [composed,includes_foldl_add,new,Changes.none]
  · rw [get?_composed valid,foldl_leave none free,Option.none_or]
  · rintro before s after e rfl imposed free
    -- What is before the style is lost, and what is after it can only fill a gap.
    rw [get?_composed valid,List.foldl_append,List.foldl_cons,leave_of_imposed imposed,foldl_leave _ free]
    unfold present?
    split <;> simp
  · rw [composed_found]

/-- A manager with three styles: one that sets two attributes, one that sets the first of them to an undefined
    value, and one that sets it anew. -/
def styled : Manager :=
  let style (name : String) (entries : List (UInt32 × Value)) : Entry := ⟨⟨"app","style",name⟩,[⟨{},.bag 0 entries⟩]⟩
  let table : Table :=
    { packages := .ofList [(0x7f,"app")]
      entries := .ofList [
        (0x7f020000,style "Base" [(0x7f010001,⟨.decimal,1⟩),(0x7f010002,⟨.decimal,2⟩)]),
        (0x7f020001,style "Clear" [(0x7f010001,.undefined)]),
        (0x7f020002,style "Other" [(0x7f010001,⟨.decimal,3⟩)])] }
  { registry := { sources := [{ path := "base", table }] } }

/-- An undefined value by force takes a value away and lets a later style fill the gap. -/
theorem applyAll_entries_reopened :
    ∃ t m', (new styled).applyAll styled [⟨0x7f020000,false⟩,⟨0x7f020001,true⟩,⟨0x7f020002,false⟩] = .ok (t,m') ∧
      (t.entries.get? 0x7f010001).map (fun e => (e.value.data,e.style)) = some (3,0x7f020002) := by
  obtain ⟨t,m',applied,_,_,entries,_⟩ :=
    applyAll_entries styled [⟨0x7f020000,false⟩,⟨0x7f020001,true⟩,⟨0x7f020002,false⟩]
  have cleared : ((imposed? styled 0x7f010001 ⟨0x7f020001,true⟩).map fun e => e.value.isUndefined) = some true := by
    decide +kernel
  obtain ⟨e,imposed,isUndefined⟩ := Option.map_eq_some_iff.1 cleared
  have last := (entries 0x7f010001 (by decide)).2 [⟨0x7f020000,false⟩] ⟨0x7f020001,true⟩ [⟨0x7f020002,false⟩] e rfl
    imposed (by simp [imposed?])
  rw [if_pos isUndefined] at last
  refine ⟨t,m',applied,?_⟩
  rw [last]
  decide +kernel

end Theme

end AndroidResources
