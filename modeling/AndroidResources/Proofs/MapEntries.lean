import Mathlib.Data.List.Induction
import AndroidResources.OrderedMap

/-!
# Maps of entries

What a map made of a list of entries has, and what is found first in a map.
-/
namespace AndroidResources

namespace OrderedMap
variable {κ ν : Type} [Ord κ] [Std.TransOrd κ] [Std.LawfulEqOrd κ]

theorem ofList_concat (entries : List (κ × ν)) (e : κ × ν) :
    ofList (entries ++ [e]) = (ofList entries).insert e.1 e.2 := by
  simp [ofList]

variable [DecidableEq κ]

/-- What a map of entries has at a key is one of the entries. -/
theorem mem_of_get?_ofList {entries : List (κ × ν)} {key : κ} {value : ν}
    (found : (ofList entries).get? key = some value) : (key,value) ∈ entries := by
  suffices all : ∀ m : OrderedMap κ ν, (entries.foldl (fun m e => m.insert e.1 e.2) m).get? key = some value →
      m.get? key = some value ∨ (key,value) ∈ entries by
    rcases all {} found with before | mem
    · simp at before
    · exact mem
  clear found
  induction entries with
  | nil => exact fun m found => .inl found
  | cons e rest ih =>
    intro m found
    rcases ih _ found with before | mem
    · rw [get?_insert] at before
      split at before
      next same =>
        obtain rfl := Option.some.inj before
        exact .inr (same ▸ List.mem_cons_self)
      next => exact .inl before
    · exact .inr (List.mem_cons_of_mem _ mem)

theorem contains_ofList {entries : List (κ × ν)} {key : κ} :
    (ofList entries).contains key ↔ key ∈ entries.map Prod.fst := by
  induction entries using List.reverseRecOn with
  | nil => simp [ofList,contains]
  | append_singleton entries e ih =>
    rw [contains] at ih
    rw [contains,ofList_concat,get?_insert,List.map_append,List.mem_append,← ih]
    by_cases same : key = e.1 <;> simp [same]

/-- Of entries with different keys, a map has all. -/
theorem get?_ofList_iff {entries : List (κ × ν)} (distinct : entries.Pairwise fun a b => a.1 ≠ b.1) {key : κ} {value : ν} :
    (ofList entries).get? key = some value ↔ (key,value) ∈ entries := by
  constructor
  · exact mem_of_get?_ofList
  · intro mem
    induction entries using List.reverseRecOn with
    | nil => cases mem
    | append_singleton entries e ih =>
      obtain ⟨before,_,apart⟩ := List.pairwise_append.1 distinct
      rw [ofList_concat,get?_insert]
      rcases List.mem_append.1 mem with earlier | last
      · rw [if_neg (apart _ earlier e List.mem_cons_self),ih before earlier]
      · obtain rfl := List.mem_singleton.1 last
        rw [if_pos rfl]

omit [Std.TransOrd κ] [DecidableEq κ] in
theorem pairwise_keys (m : OrderedMap κ ν) : m.toList.Pairwise fun a b => a.1 ≠ b.1 :=
  m.ascending.imp fun less same => by simp [same] at less

/-- A map is what is made of its entries. -/
theorem ofList_toList (m : OrderedMap κ ν) : ofList m.toList = m := by
  refine ext_get fun key => Option.ext fun value => ?_
  rw [get?_ofList_iff m.pairwise_keys,get?_eq_some]

omit [Std.TransOrd κ] [DecidableEq κ] in
/-- What is made of some of a map's entries has different keys, if each one keeps its key. -/
theorem pairwise_filterMap_keys (m : OrderedMap κ ν) {f : κ × ν → Option (κ × ν)}
    (keeps : ∀ e e', f e = some e' → e'.1 = e.1) : (m.toList.filterMap f).Pairwise fun a b => a.1 ≠ b.1 := by
  refine List.pairwise_filterMap.2 (m.pairwise_keys.imp ?_)
  intro a b differ a' a_left b' b_left
  rw [keeps a a' a_left,keeps b b' b_left]
  exact differ

/-- The first entry of a kind is the one with the least key. -/
theorem find?_toList_eq_some_iff {m : OrderedMap κ ν} {p : κ × ν → Bool} {key : κ} {value : ν} :
    m.toList.find? p = some (key,value) ↔ m.get? key = some value ∧ p (key,value) ∧
      ∀ k v, m.get? k = some v → p (k,v) → compare key k ≠ .gt := by
  simp only [get?_eq_some]
  obtain ⟨entries,ascending⟩ := m
  simp only
  induction entries with
  | nil => simp
  | cons e rest ih =>
    have parts := List.pairwise_cons.1 ascending
    rw [List.find?_cons]
    by_cases here : p e
    · simp only [here]
      constructor
      · intro same
        obtain rfl := Option.some.inj same
        refine ⟨List.mem_cons_self,here,fun k v mem _ => ?_⟩
        rcases List.mem_cons.1 mem with same | mem
        · obtain rfl := (Prod.mk.inj same).1
          simp
        · simp [parts.1 _ mem]
      · rintro ⟨mem,_,least⟩
        rcases List.mem_cons.1 mem with same | mem
        · rw [same]
        · have greater := Std.OrientedCmp.gt_iff_lt.2 (parts.1 _ mem)
          exact absurd greater (least e.1 e.2 List.mem_cons_self here)
    · simp only [here]
      rw [ih parts.2]
      constructor
      · rintro ⟨mem,is,least⟩
        refine ⟨List.mem_cons_of_mem _ mem,is,fun k v mem is => ?_⟩
        rcases List.mem_cons.1 mem with rfl | mem
        · exact absurd is here
        · exact least k v mem is
      · rintro ⟨mem,is,least⟩
        rcases List.mem_cons.1 mem with rfl | mem
        · exact absurd is here
        · exact ⟨mem,is,fun k v mem => least k v (List.mem_cons_of_mem _ mem)⟩

end OrderedMap

theorem mem_ascendingSet {κ : Type} [Ord κ] [Std.TransOrd κ] [Std.LawfulEqOrd κ] [DecidableEq κ] {members : List κ}
    {x : κ} : x ∈ ascendingSet members ↔ x ∈ members := by
  rw [ascendingSet,OrderedMap.mem_keys_iff,OrderedMap.contains_ofList,List.map_map]
  simp

end AndroidResources
