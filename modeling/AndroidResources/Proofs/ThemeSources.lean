import AndroidResources.Proofs.BagSources
import AndroidResources.Proofs.ThemeReplay

/-!
# Where the values of a theme come from

After a style a theme holds what it held before and entries that the manager's sources give (`Theme.given_of_add`).
In a copy for another manager each value has the cookie of the first source there with the path of its own source, or
none (`Theme.counterpart_eq`).
-/
namespace AndroidResources

namespace Theme
variable {t : Theme} {m : Manager} {bag : Bag} {attr : ResourceId} {e : ThemeEntry}

/-! ## Styles -/

/-- Whether a source of a registry gives an entry. -/
def Given (r : Registry) (attr : ResourceId) (e : ThemeEntry) : Prop :=
  r.Gives e.style attr e.value e.cookie

theorem overlay_eq_some {force : Bool} {current : Option ThemeEntry} {new : ThemeEntry}
    (left : overlay force current new = some e) : current = some e ∨ new = e := by
  unfold overlay at left
  split at left
  · split at left
    · cases left
    · exact .inr (Option.some.inj left)
  · split at left
    · exact .inl left
    · split at left
      · exact .inr (Option.some.inj left)
      · split at left
        · exact .inr (Option.some.inj left)
        · exact .inl left

theorem get?_mergeEntry_eq_some {force : Bool} {entries : OrderedMap ResourceId ThemeEntry} {new : BagEntry}
    (left : (mergeEntry bag force entries new).get? attr = some e) :
    entries.get? attr = some e ∨ new.key = attr ∧ entryOf bag new = e := by
  by_cases valid : attr.isValid
  · rw [get?_mergeEntry valid] at left
    split at left
    next same =>
      rcases overlay_eq_some left with before | now
      · exact .inl before
      · exact .inr ⟨same,now⟩
    next => exact .inl left
  · -- A key that is no id is passed over, so an entry under one was there before.
    have passed : (mergeEntry bag force entries new).get? attr = entries.get? attr := by
      simp only [mergeEntry]
      split
      next isValid =>
        have other : attr ≠ new.key := fun same => valid (same ▸ isValid)
        unfold update
        split
        · rw [OrderedMap.get?_insert,if_neg other]
        · rw [OrderedMap.get?_erase,if_neg other]
      next => rfl
    exact .inl (passed ▸ left)

theorem get?_merge_eq_some {force : Bool} (left : (t.merge bag force).entries.get? attr = some e) :
    t.entries.get? attr = some e ∨ ∃ new ∈ bag.entries, new.key = attr ∧ entryOf bag new = e := by
  simp only [merge] at left
  generalize bag.entries = listed at left ⊢
  generalize t.entries = entries at left ⊢
  induction listed generalizing entries with
  | nil => exact .inl left
  | cons new rest ih =>
    rcases ih _ left with before | ⟨later,mem,same⟩
    · rcases get?_mergeEntry_eq_some before with old | now
      · exact .inl old
      · exact .inr ⟨new,List.mem_cons_self,now⟩
    · exact .inr ⟨later,List.mem_cons_of_mem _ mem,same⟩

/-- A style leaves entries that were there before, and ones that the sources give. -/
theorem given_of_add (sourced : m.Sourced) {s : AppliedStyle} (left : (add m t s).entries.get? attr = some e) :
    t.entries.get? attr = some e ∨ Given m.registry attr e := by
  unfold add at left
  split at left
  · exact .inl left
  next bag found =>
    rcases get?_merge_eq_some left with before | ⟨new,mem,rfl,rfl⟩
    · exact .inl before
    · exact .inr (sourced.givesAll found new mem)

theorem given_of_foldl_add (sourced : m.Sourced) {styles : List AppliedStyle}
    (left : (styles.foldl (add m) t).entries.get? attr = some e) :
    t.entries.get? attr = some e ∨ Given m.registry attr e := by
  induction styles generalizing t with
  | nil => exact .inl left
  | cons s rest ih =>
    rcases ih left with before | now
    · exact given_of_add sourced before
    · exact .inr now

theorem rebase_owner (stack : Option (List AppliedStyle)) : (t.rebase m stack).1.owner = m.tag := by
  rw [rebase_eq (.refl m),composed_owner]

/-- A rebased theme holds only what the sources give. -/
theorem given_of_rebase (sourced : m.Sourced) {stack : Option (List AppliedStyle)}
    (left : (t.rebase m stack).1.entries.get? attr = some e) : Given m.registry attr e := by
  rw [rebase_eq (.refl m)] at left
  rcases given_of_foldl_add sourced left with before | now
  · simp [new] at before
  · exact now

/-! ## Copies for another manager -/

/-- The cookie that a value gets is that of a source with the path of its own source, unless there is none. -/
theorem counterpart_eq (r other : Registry) (c : Cookie) : counterpart r other c = .invalid ∨
    ∃ s position s', other.source? c = some s ∧ r.sources[position]? = some s' ∧ s'.path = s.path ∧
      counterpart r other c = r.cookieAt position := by
  unfold counterpart
  cases isSource : other.source? c with
  | none => exact .inl rfl
  | some s =>
    cases isFirst : r.sources.findIdx? fun s' => s'.path = s.path with
    | none => simp [isFirst]
    | some position =>
      obtain ⟨inside,samePath,_⟩ := List.findIdx?_eq_some_iff_getElem.1 isFirst
      refine .inr ⟨s,position,r.sources[position],rfl,List.getElem?_eq_getElem inside,by simpa using samePath,?_⟩
      simp [isFirst]

end Theme

end AndroidResources
