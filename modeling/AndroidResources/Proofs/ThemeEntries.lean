import AndroidResources.Proofs.MapEntries
import AndroidResources.Theme

/-!
# The values of a theme

Whatever styles a theme goes through, alone or as a copy of other themes, it holds no undefined value
(`Theme.Reached.defined`), as an undefined value of a style takes a value away or does nothing, and no value of anything
but an attribute (`Theme.Reached.isValid`). Both are kept by each entry of a style and by copies (`Theme.Reached.keeps`).
-/
namespace AndroidResources

namespace Theme
variable {t : Theme}

/-! ## Operations on values -/

section
variable {p : OrderedMap ResourceId ThemeEntry → Prop}
  (style : ∀ bag force entries e, p entries → p (mergeEntry bag force entries e))
include style

/-- What each entry of a style keeps is kept by the style. -/
theorem merge_keeps (bag : Bag) (force : Bool) (held : p t.entries) : p (t.merge bag force).entries := by
  simp only [merge]
  generalize t.entries = entries at held
  induction bag.entries generalizing entries with
  | nil => exact held
  | cons e rest ih => exact ih _ (style bag force entries e held)

theorem mergeStyle_keeps (m : Manager) (applied : AppliedStyle) (held : p t.entries) :
    p (t.mergeStyle m applied).2.1.entries := by
  unfold mergeStyle
  split
  · exact held
  · exact merge_keeps style _ _ held

theorem replay_keeps (m : Manager) (stack : List AppliedStyle) (held : p t.entries) :
    p (t.replay m stack).1.entries := by
  unfold replay
  induction stack generalizing t m with
  | nil => exact held
  | cons applied rest ih => exact ih _ (mergeStyle_keeps style m applied held)

end

/-! ## Undefined values -/

/-- Whether no value is undefined. -/
def Defined (entries : OrderedMap ResourceId ThemeEntry) : Prop :=
  ∀ attr e, entries.get? attr = some e → ¬ e.value.isUndefined

theorem defined_empty : Defined {} := by
  intro attr e found
  simp at found

/-- An entry of a style leaves a defined value or none where there was a defined value or none. -/
theorem overlay_defined {force : Bool} {current : Option ThemeEntry} {new e : ThemeEntry}
    (defined : ∀ old, current = some old → ¬ old.value.isUndefined) (left : overlay force current new = some e) :
    ¬ e.value.isUndefined := by
  unfold overlay at left
  split at left
  · split at left
    · cases left
    next isDefined =>
      obtain rfl := Option.some.inj left
      exact isDefined
  · split at left
    · exact defined e left
    next isDefined =>
      split at left
      · obtain rfl := Option.some.inj left
        exact isDefined
      next old =>
        rw [if_neg (defined old rfl)] at left
        obtain rfl := Option.some.inj left
        exact defined old rfl

theorem get?_update {entries : OrderedMap ResourceId ThemeEntry} {attr other : ResourceId} {entry : Option ThemeEntry} :
    (update entries attr entry).get? other = if other = attr then entry else entries.get? other := by
  cases entry with
  | some left => exact OrderedMap.get?_insert ..
  | none => exact OrderedMap.get?_erase ..

theorem update_defined {entries : OrderedMap ResourceId ThemeEntry} {attr : ResourceId} {entry : Option ThemeEntry}
    (defined : Defined entries) (new : ∀ e, entry = some e → ¬ e.value.isUndefined) :
    Defined (update entries attr entry) := by
  intro other e found
  rw [get?_update] at found
  split at found
  · exact new e found
  · exact defined other e found

theorem mergeEntry_defined {entries : OrderedMap ResourceId ThemeEntry} (bag : Bag) (force : Bool) (e : BagEntry)
    (defined : Defined entries) : Defined (mergeEntry bag force entries e) := by
  simp only [mergeEntry]
  split
  · exact update_defined defined fun _ left => overlay_defined (defined _) left
  · exact defined

theorem merge_defined (bag : Bag) (force : Bool) (defined : Defined t.entries) :
    Defined (t.merge bag force).entries :=
  merge_keeps (fun bag force _ e => mergeEntry_defined bag force e) bag force defined

/-! ## Copies -/

/-- A value with the cookie that it has in another registry. -/
def moved (r other : Registry) (e : ThemeEntry) : ThemeEntry :=
  { e with cookie := counterpart r other e.cookie }

theorem transfer?_eq_some_iff {r other : Registry} {old e : ThemeEntry} : transfer? r other old = some e ↔
    e = moved r other old ∧ (e.value.type = .string → e.cookie.isValid) := by
  simp only [transfer?]
  constructor
  · intro transferred
    split at transferred
    · cases transferred
    next kept =>
      obtain rfl := Option.some.inj transferred
      refine ⟨rfl,fun string => ?_⟩
      have isString : old.value.type = .string := string
      simpa [isString] using kept
  · rintro ⟨rfl,string⟩
    have kept : ¬ (!(counterpart r other old.cookie).isValid && old.value.type = .string) := by
      intro lost
      obtain ⟨noSource,isString⟩ : (counterpart r other old.cookie).isValid = false ∧ old.value.type = .string := by
        simpa using lost
      have source : (counterpart r other old.cookie).isValid := string isString
      rw [noSource] at source
      cases source
    rw [if_neg kept]
    rfl

/-- What a copy for another registry holds was held before, and is no string without a source. -/
theorem mem_transferAll {r other : Registry} {entries : OrderedMap ResourceId ThemeEntry} {attr : ResourceId}
    {e : ThemeEntry} (left : (transferAll r other entries).get? attr = some e) :
    ∃ old, entries.get? attr = some old ∧ e = moved r other old ∧ (e.value.type = .string → e.cookie.isValid) := by
  obtain ⟨⟨attr',old⟩,mem,held⟩ := List.mem_filterMap.1 (OrderedMap.mem_of_get?_ofList left)
  simp only at held
  split at held
  · obtain ⟨new,transferred,same⟩ := Option.map_eq_some_iff.1 held
    obtain ⟨rfl,rfl⟩ := Prod.mk.inj same
    exact ⟨old,OrderedMap.get?_eq_some.2 mem,transfer?_eq_some_iff.1 transferred⟩
  · cases held

theorem transferAll_defined (r other : Registry) {entries : OrderedMap ResourceId ThemeEntry}
    (defined : Defined entries) : Defined (transferAll r other entries) := by
  intro attr e found
  obtain ⟨old,before,rfl,_⟩ := mem_transferAll found
  exact defined attr old before

/-- A theme is copied by its own manager, from one that is with its own. -/
theorem setTo_ok {t' other : Theme} {m m' : Manager} (copies : t.setTo m other m' = .ok t') :
    t.owner = m.tag ∧ other.owner = m'.tag ∧ t' = { t with
      entries :=
        if t.owner = other.owner then other.entries else transferAll m.registry m'.registry other.entries
      stack := other.stack
      changes := other.changes } := by
  obtain ⟨_,checked,copies⟩ := bind_eq_ok_iff.1 copies
  obtain ⟨_,other_checked,copies⟩ := bind_eq_ok_iff.1 copies
  obtain rfl := Except.ok.inj copies
  exact ⟨check_eq_ok_iff.1 checked,check_eq_ok_iff.1 other_checked,rfl⟩

/-! ## Reached themes -/

/-- The themes that come from ones without styles by the operations on themes, for any managers. -/
inductive Reached : Theme → Prop
  | new (m : Manager) : Reached (.new m)
  | apply {t t' : Theme} {m m' : Manager} {applied : AppliedStyle} {found : Bool} : Reached t →
      t.apply m applied = .ok (found,t',m') → Reached t'
  | rebase {t : Theme} (m : Manager) (stack : Option (List AppliedStyle)) : Reached t → Reached (t.rebase m stack).1
  | clear {t : Theme} : Reached t → Reached t.clear
  | setTo {t t' other : Theme} {m otherManager : Manager} : Reached t → Reached other →
      t.setTo m other otherManager = .ok t' → Reached t'

/-- What holds of no values and is kept by entries of styles and by copies holds of every theme. -/
theorem Reached.keeps {p : OrderedMap ResourceId ThemeEntry → Prop} (none : p {})
    (style : ∀ bag force entries e, p entries → p (mergeEntry bag force entries e))
    (copy : ∀ r other entries, p entries → p (transferAll r other entries)) (reached : t.Reached) : p t.entries := by
  induction reached with
  | new m => exact none
  | @apply t t' m m' applied found _ applies ih =>
    obtain ⟨_,_,merged⟩ := bind_eq_ok_iff.1 applies
    have merged := Except.ok.inj merged
    have same : t' = ({ t with stack := t.stack ++ [applied] }.mergeStyle m applied).2.1 := by rw [merged]
    rw [same]
    exact mergeStyle_keeps style m applied ih
  | rebase m stack _ _ => exact replay_keeps style m _ none
  | clear _ _ => exact none
  | @setTo t t' other m otherManager _ _ copies ih other_ih =>
    obtain ⟨_,_,rfl⟩ := setTo_ok copies
    simp only
    split
    · exact other_ih
    · exact copy _ _ _ other_ih

theorem Reached.defined (reached : t.Reached) : Defined t.entries :=
  reached.keeps defined_empty (fun bag force _ e => mergeEntry_defined bag force e)
    fun r other _ => transferAll_defined r other

/-- Only attributes have values. -/
theorem Reached.isValid (reached : t.Reached) {attr : ResourceId} {e : ThemeEntry} (found : t.entries.get? attr = some e) :
    attr.isValid := by
  refine reached.keeps (p := fun entries => ∀ attr e, entries.get? attr = some e → attr.isValid) ?_ ?_ ?_ attr e found
  · intro attr e found
    simp at found
  · intro bag force entries new held attr e found
    simp only [mergeEntry] at found
    split at found
    next valid =>
      by_cases same : attr = new.key
      · exact same ▸ valid
      · rw [get?_update,if_neg same] at found
        exact held attr e found
    next => exact held attr e found
  · intro r other entries held attr e found
    obtain ⟨old,before,_⟩ := mem_transferAll found
    exact held attr old before

/-! ## Looking attributes up -/

theorem lookupWithin_defined (defined : Defined t.entries) (hops : Nat) {changes : Changes} {attr : ResourceId}
    {found : Selected × ResourceId} (isFound : t.lookupWithin hops changes attr = some found) :
    ¬ found.1.value.isUndefined := by
  induction hops generalizing changes attr with
  | zero => cases isFound
  | succ hops ih =>
    unfold lookupWithin at isFound
    split at isFound
    · cases isFound
    next e present =>
      simp only at isFound
      split at isFound
      · exact ih isFound
      · obtain rfl := Option.some.inj isFound
        exact defined attr e present

end Theme

end AndroidResources
