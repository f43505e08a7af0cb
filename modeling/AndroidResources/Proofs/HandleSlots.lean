import AndroidResources.Handle

/-!
# The slots of a handle table

Each operation on a table sets one slot. Through handles a table is a map (`get?_insert`, `get?_replace`,
`get?_remove`), and no handle is given out twice: a handle that may have been given out is `Used`, it stays so
whatever is done, and the next one is not.
-/
namespace AndroidResources

namespace HandleTable
variable {α : Type} {t t' : HandleTable α} {h h' : Handle} {v : α}

/-- Whether the slots to use again are empty ones, each named once. -/
structure WellFormed (t : HandleTable α) : Prop where
  vacant : ∀ index ∈ t.free, ∃ generation, t.slots[index]? = some ⟨generation,none⟩
  distinct : t.free.Nodup

/-- Whether a handle may have been given out: its slot is past its generation, or at it and not to be used again. -/
def Used (t : HandleTable α) (h : Handle) : Prop :=
  h.owner = t.owner ∧ ∃ slot, t.slots[h.index.toNat]? = some slot ∧
    (h.generation < slot.generation ∨ h.generation = slot.generation ∧ h.index.toNat ∉ t.free)

/-! ## One slot -/

/-- Whether a table comes from another one by setting the value under a handle. The slot was in the generation of
    the handle, if it was there; it stays in it and is not to be used again, or goes past it and is empty. -/
structure Sets (t t' : HandleTable α) (h : Handle) (value : Option α) : Prop where
  owner : t'.owner = t.owner
  owned : h.owner = t.owner
  before : ∀ slot, t.slots[h.index.toNat]? = some slot → slot.generation = h.generation
  after : ∃ generation, t'.slots[h.index.toNat]? = some ⟨generation,value⟩ ∧
    (h.generation < generation ∧ value = none ∨ h.generation = generation ∧ h.index.toNat ∉ t'.free)
  elsewhere : ∀ i, i ≠ h.index.toNat → t'.slots[i]? = t.slots[i]? ∧ (i ∈ t'.free → i ∈ t.free)
  distinct : t'.free.Nodup

theorem get?_eq_some_iff : t.get? h = some v ↔
    h.owner = t.owner ∧ t.slots[h.index.toNat]? = some ⟨h.generation,some v⟩ := by
  unfold get? slot?
  constructor
  · intro found
    obtain ⟨⟨generation,value⟩,present,here⟩ := Option.bind_eq_some_iff.1 found
    split at present
    next owned =>
      obtain ⟨present,current⟩ := Option.filter_eq_some_iff.1 present
      obtain rfl : generation = h.generation := by simpa using current
      exact ⟨owned,present.trans (by rw [← here])⟩
    next => cases present
  · rintro ⟨owned,present⟩
    simp [owned,present,Option.filter_some]

theorem handle_eq_iff : h' = h ↔
    h'.owner = h.owner ∧ h'.index.toNat = h.index.toNat ∧ h'.generation = h.generation := by
  rcases h with ⟨owner,generation,index⟩
  rcases h' with ⟨owner',generation',index'⟩
  simp only [Handle.mk.injEq,UInt32.toNat_inj]
  constructor
  · rintro ⟨rfl,rfl,rfl⟩
    exact ⟨rfl,rfl,rfl⟩
  · rintro ⟨rfl,rfl,rfl⟩
    exact ⟨rfl,rfl,rfl⟩

namespace Sets
variable {value : Option α}

/-- Through handles a slot is a place of its own for each of its generations: no other handle is affected. -/
theorem get?_eq (sets : Sets t t' h value) (h' : Handle) : t'.get? h' = if h' = h then value else t.get? h' := by
  apply Option.ext
  intro v
  obtain ⟨generation,present,past⟩ := sets.after
  rw [get?_eq_some_iff,sets.owner]
  by_cases here : h'.index.toNat = h.index.toNat
  · by_cases same : h' = h
    · subst same
      rw [if_pos rfl,present]
      rcases past with ⟨_,rfl⟩ | ⟨rfl,_⟩
      · simp
      · simp [sets.owned]
    · rw [if_neg same,get?_eq_some_iff,here,present]
      -- Another handle to the same slot is of another generation, or of another table.
      have other : h'.owner = t.owner → h'.generation ≠ h.generation := by
        intro owned current
        exact same (handle_eq_iff.2 ⟨owned.trans sets.owned.symm,here,current⟩)
      constructor
      · rintro ⟨owned,found⟩
        obtain ⟨rfl,rfl⟩ := Slot.mk.inj (Option.some.inj found)
        rcases past with ⟨_,empty⟩ | ⟨current,_⟩
        · cases empty
        · exact absurd current.symm (other owned)
      · rintro ⟨owned,found⟩
        exact absurd (sets.before _ found) (other owned)
  · have same : h' ≠ h := by
      rintro rfl
      exact here rfl
    rw [if_neg same,get?_eq_some_iff,(sets.elsewhere _ here).1]

/-- A used handle stays used. -/
theorem used (sets : Sets t t' h value) (used : t.Used h') : t'.Used h' := by
  obtain ⟨owned,slot,present,past⟩ := used
  refine ⟨owned.trans sets.owner.symm,?_⟩
  by_cases here : h'.index.toNat = h.index.toNat
  · rw [here] at present past ⊢
    obtain ⟨generation,present',past'⟩ := sets.after
    rw [sets.before slot present] at past
    refine ⟨_,present',?_⟩
    rcases past with less | ⟨same,_⟩
    · rcases past' with ⟨further,_⟩ | ⟨rfl,_⟩
      · exact .inl (UInt16.lt_trans less further)
      · exact .inl less
    · rw [same]
      exact past'.imp_left And.left
  · obtain ⟨same,free⟩ := sets.elsewhere _ here
    exact ⟨slot,same.trans present,past.imp_right fun ⟨current,notFree⟩ => ⟨current,fun mem => notFree (free mem)⟩⟩

theorem used_self (sets : Sets t t' h value) : t'.Used h := by
  obtain ⟨generation,present,past⟩ := sets.after
  exact ⟨sets.owned.trans sets.owner.symm,_,present,past.imp_left And.left⟩

theorem wellFormed (sets : Sets t t' h value) (wellFormed : t.WellFormed) : t'.WellFormed := by
  refine ⟨fun index mem => ?_,sets.distinct⟩
  by_cases here : index = h.index.toNat
  · subst here
    obtain ⟨generation,present,⟨_,rfl⟩ | ⟨_,notFree⟩⟩ := sets.after
    · exact ⟨generation,present⟩
    · exact absurd mem notFree
  · obtain ⟨same,free⟩ := sets.elsewhere index here
    rw [same]
    exact wellFormed.vacant index (free mem)

end Sets

/-! ## Insertion -/

/-- A new value goes into a new slot or into one that is to be used again. -/
theorem insert_cases (wellFormed : t.WellFormed) (room : t.slots.length < UInt32.size) (v : α) :
    (t.free = [] ∧ ∃ index : UInt32, index.toNat = t.slots.length ∧
      t.insert v = (⟨t.owner,1,index⟩,{ t with slots := t.slots ++ [⟨1,some v⟩] })) ∨
    ∃ (index : UInt32) (generation : UInt16) (free : List Nat), t.free = index.toNat :: free ∧
      t.slots[index.toNat]? = some ⟨generation,none⟩ ∧ t.insert v =
        (⟨t.owner,generation,index⟩,{ t with slots := t.slots.set index.toNat ⟨generation,some v⟩, free }) := by
  cases isFree : t.free with
  | nil =>
    refine .inl ⟨rfl,.ofNat t.slots.length,UInt32.toNat_ofNat_of_lt' room,?_⟩
    simp only [insert,isFree]
  | cons first free =>
    obtain ⟨generation,present⟩ := wellFormed.vacant first (by rw [isFree]; exact List.mem_cons_self)
    have inside : first < t.slots.length := (List.getElem?_eq_some_iff.1 present).1
    have index : (UInt32.ofNat first).toNat = first := UInt32.toNat_ofNat_of_lt' (Nat.lt_trans inside room)
    refine .inr ⟨.ofNat first,generation,free,by rw [index],by rw [index,present],?_⟩
    simp only [insert,isFree,present,index]
    rfl

section
variable (wellFormed : t.WellFormed) (room : t.slots.length < UInt32.size) (v : α)
include wellFormed room

theorem insert_sets : Sets t (t.insert v).2 (t.insert v).1 (some v) := by
  rcases insert_cases wellFormed room v with ⟨noFree,index,last,inserted⟩ | ⟨index,generation,free,isFree,present,inserted⟩
  · rw [inserted]
    refine ⟨rfl,rfl,?_,⟨1,?_,.inr ⟨rfl,?_⟩⟩,?_,wellFormed.distinct⟩
    · intro slot present
      simp [last] at present
    · simp [last]
    · simp [noFree]
    · intro i elsewhere
      refine ⟨?_,id⟩
      rcases Nat.lt_trichotomy i t.slots.length with inside | rfl | outside
      · exact List.getElem?_append_left inside
      · exact absurd last.symm elsewhere
      · rw [List.getElem?_eq_none (Nat.le_of_lt outside),List.getElem?_eq_none]
        simpa using Nat.succ_le_of_lt outside
  · obtain ⟨notLater,distinct⟩ := List.nodup_cons.1 (isFree ▸ wellFormed.distinct)
    have inside : index.toNat < t.slots.length := (List.getElem?_eq_some_iff.1 present).1
    rw [inserted]
    refine ⟨rfl,rfl,?_,⟨generation,?_,.inr ⟨rfl,notLater⟩⟩,?_,distinct⟩
    · intro slot there
      rw [Option.some.inj (there.symm.trans present)]
    · exact List.getElem?_set_self inside
    · intro i elsewhere
      refine ⟨List.getElem?_set_ne (Ne.symm elsewhere),fun mem => ?_⟩
      rw [isFree]
      exact List.mem_cons_of_mem _ mem

/-- A handle that is given out was not given out before. -/
theorem insert_not_used : ¬ t.Used (t.insert v).1 := by
  rintro ⟨_,slot,there,past⟩
  rcases insert_cases wellFormed room v with ⟨noFree,index,last,inserted⟩ | ⟨index,generation,free,isFree,present,inserted⟩
  · rw [inserted] at there
    simp [last] at there
  · rw [inserted] at there past
    rw [Option.some.inj (there.symm.trans present)] at past
    rcases past with less | ⟨_,notFree⟩
    · exact absurd less (UInt16.lt_irrefl _)
    · exact notFree (isFree ▸ List.mem_cons_self)

/-- There is one more slot, or one less to use again. -/
theorem insert_balance : (t.insert v).2.retired = t.retired ∧
    (t.insert v).2.slots.length + t.free.length = t.slots.length + (t.insert v).2.free.length + 1 := by
  rcases insert_cases wellFormed room v with ⟨noFree,index,last,inserted⟩ | ⟨index,generation,free,isFree,present,inserted⟩
  · rw [inserted]
    exact ⟨rfl,by simp [noFree]⟩
  · rw [inserted]
    refine ⟨rfl,?_⟩
    rw [isFree]
    simp only [List.length_set,List.length_cons]
    omega

end

/-! ## Changes and removal -/

section
variable (wellFormed : t.WellFormed) (found : t.get? h = some v)

include wellFormed found in
/-- A slot with a value is not to be used again. -/
theorem notFree_of_get? : h.index.toNat ∉ t.free := by
  intro mem
  obtain ⟨generation,vacant⟩ := wellFormed.vacant _ mem
  obtain ⟨_,present⟩ := get?_eq_some_iff.1 found
  simp [vacant] at present

include found in
/-- The slot of a value may be set for its generation, or emptied for a later one. -/
theorem sets_of_set (generation : UInt16) (value : Option α) (free : List Nat) (retired : Nat)
    (past : h.generation < generation ∧ value = none ∨ h.generation = generation ∧ h.index.toNat ∉ free)
    (others : ∀ i, i ≠ h.index.toNat → i ∈ free → i ∈ t.free) (distinct : free.Nodup) :
    Sets t ⟨t.owner,t.slots.set h.index.toNat ⟨generation,value⟩,free,retired⟩ h value := by
  obtain ⟨owned,present⟩ := get?_eq_some_iff.1 found
  have inside : h.index.toNat < t.slots.length := (List.getElem?_eq_some_iff.1 present).1
  refine ⟨rfl,owned,?_,⟨generation,List.getElem?_set_self inside,past⟩,?_,distinct⟩
  · intro slot there
    rw [Option.some.inj (there.symm.trans present)]
  · intro i elsewhere
    exact ⟨List.getElem?_set_ne (Ne.symm elsewhere),others i elsewhere⟩

include wellFormed found in
theorem replace_sets (v' : α) : Sets t (t.replace h v') h (some v') := by
  have notFree := notFree_of_get? wellFormed found
  have kept := sets_of_set found h.generation (some v') t.free t.retired (.inr ⟨rfl,notFree⟩) (fun _ _ => id)
    wellFormed.distinct
  simpa only [replace,found] using kept

include wellFormed found in
theorem remove_sets : Sets t (t.remove h).2 h none := by
  have notFree := notFree_of_get? wellFormed found
  simp only [remove,found]
  split
  · exact sets_of_set found _ _ _ _ (.inr ⟨rfl,notFree⟩) (fun _ _ => id) wellFormed.distinct
  next more =>
    have less : h.generation < h.generation + 1 := by
      have bound := h.generation.toNat_lt
      have notLast : h.generation.toNat ≠ 0xffff := fun last => more (UInt16.toNat_inj.1 last)
      rw [UInt16.lt_iff_toNat_lt,UInt16.toNat_add]
      simp
      omega
    refine sets_of_set found _ _ _ _ (.inl ⟨less,rfl⟩) (fun i elsewhere mem => ?_)
      (List.nodup_cons.2 ⟨notFree,wellFormed.distinct⟩)
    exact List.mem_of_ne_of_mem elsewhere mem

include found in
/-- There is one slot more to use again, or one more that is not. -/
theorem remove_balance : (t.remove h).2.slots.length = t.slots.length ∧
    (t.remove h).2.free.length + (t.remove h).2.retired = t.free.length + t.retired + 1 := by
  simp only [remove,found]
  split
  · exact ⟨List.length_set,rfl⟩
  · refine ⟨List.length_set,?_⟩
    simp only [List.length_cons]
    omega

end

end HandleTable

end AndroidResources
