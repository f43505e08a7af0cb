import Mathlib.Data.List.Induction
import AndroidResources.Proofs.SelectionOrder
import AndroidResources.Proofs.TableWellFormed

/-!
# The package index

A look-up takes the sources of a package from an index. What the index lists for a package are the sources that
declare it, each once and by rank (`Registry.sourcesOf_eq`), so no definition of a resource is left out
(`Registry.mem_candidates_iff`) or taken twice (`Registry.candidates_pairwise`).
-/
namespace AndroidResources

namespace Registry
variable {r : Registry}

/-! ## What the index lists -/

/-- The source that an index lists for a package under a rank. -/
def listed? (index : OrderedMap UInt8 (OrderedMap Rank Placed)) (package : UInt8) (rank : Rank) : Option Placed :=
  (index.get? package).bind fun members => members.get? rank

/-- Whether an index lists sources under their ranks, for each package those that declare it. -/
def Lists (index : OrderedMap UInt8 (OrderedMap Rank Placed)) (placed : List Placed) : Prop :=
  ∀ package rank p, listed? index package rank = some p ↔
    p ∈ placed ∧ p.source.table.packages.contains package ∧ p.rank = rank

/-- A source is noted under its rank for the packages that it declares, and nothing else changes. -/
theorem listed?_enlist (index : OrderedMap UInt8 (OrderedMap Rank Placed)) (p : Placed) (package : UInt8)
    (rank : Rank) : listed? (enlist index p) package rank =
      if p.source.table.packages.contains package ∧ p.rank = rank then some p else listed? index package rank := by
  have folded (keys : List UInt8) (index : OrderedMap UInt8 (OrderedMap Rank Placed)) :
      listed? (keys.foldl (fun index package =>
          index.insert package (((index.get? package).getD {}).insert p.rank p)) index) package rank =
        if package ∈ keys ∧ p.rank = rank then some p else listed? index package rank := by
    induction keys generalizing index with
    | nil => simp
    | cons key rest ih =>
      rw [List.foldl_cons,ih]
      have first : listed? (index.insert key (((index.get? key).getD {}).insert p.rank p)) package rank =
          if package = key ∧ p.rank = rank then some p else listed? index package rank := by
        by_cases same : package = key
        · subst same
          by_cases own : p.rank = rank
          · simp [listed?,own]
          · cases members : index.get? package <;> simp [listed?,members,own,Ne.symm own]
        · simp [listed?,same]
      rw [first]
      by_cases own : p.rank = rank <;> by_cases later : package ∈ rest <;> simp [own,later]
  simp only [enlist,folded,OrderedMap.mem_keys_iff]

theorem Lists.enlist {index : OrderedMap UInt8 (OrderedMap Rank Placed)} {placed : List Placed}
    (lists : Lists index placed) {p : Placed} (fresh : ∀ q ∈ placed, q.rank ≠ p.rank) :
    Lists (enlist index p) (placed ++ [p]) := by
  intro package rank q
  rw [listed?_enlist]
  split
  case isTrue own =>
    obtain ⟨declares,rfl⟩ := own
    constructor
    · intro same
      obtain rfl := Option.some.inj same
      exact ⟨by simp,declares,rfl⟩
    · rintro ⟨mem,_,same⟩
      rcases List.mem_append.1 mem with mem | mem
      · exact absurd same (fresh q mem)
      · rw [List.mem_singleton.1 mem]
  case isFalse foreign =>
    rw [lists package rank q,List.mem_append,List.mem_singleton]
    constructor
    · rintro ⟨mem,rest⟩
      exact ⟨.inl mem,rest⟩
    · rintro ⟨mem | rfl,rest⟩
      · exact ⟨mem,rest⟩
      · exact absurd rest foreign

theorem placed_pairwise : r.placed.Pairwise fun a b => a.rank ≠ b.rank :=
  byRank_perm.pairwise byRank_pairwise fun differ => Ne.symm differ

theorem lists_foldl {placed : List Placed} (distinct : placed.Pairwise fun a b => a.rank ≠ b.rank) :
    Lists (placed.foldl enlist {}) placed := by
  induction placed using List.reverseRecOn with
  | nil => simp [Lists,listed?]
  | append_singleton placed p ih =>
    rw [List.foldl_append]
    obtain ⟨before,_,apart⟩ := List.pairwise_append.1 distinct
    exact (ih before).enlist fun q mem => apart q mem p (by simp)

/-- The index of a registry lists its sources. -/
theorem lists_index : Lists r.index r.placed :=
  lists_foldl placed_pairwise

/-! ## The sources of a package -/

theorem get?_members_iff {package : UInt8} {members : OrderedMap Rank Placed}
    (found : r.index.get? package = some members) {rank : Rank} {p : Placed} :
    members.get? rank = some p ↔ p ∈ r.placed ∧ p.source.table.packages.contains package ∧ p.rank = rank := by
  rw [← lists_index package rank p,listed?,found]
  rfl

theorem mem_sourcesOf {package : UInt8} {p : Placed} :
    p ∈ r.sourcesOf package ↔ p ∈ r.placed ∧ p.source.table.packages.contains package := by
  have listed : p ∈ r.sourcesOf package ↔ ∃ rank, listed? r.index package rank = some p := by
    unfold sourcesOf listed?
    cases r.index.get? package with
    | none => simp
    | some members => simp [OrderedMap.values,OrderedMap.get?_eq_some]
  simp [listed,lists_index package _ p]

theorem sourcesOf_ascending {package : UInt8} :
    (r.sourcesOf package).Pairwise fun a b => compare a.rank b.rank = .lt := by
  unfold sourcesOf
  split
  · exact .nil
  next members found =>
    refine List.pairwise_map.2 (members.ascending.imp_of_mem fun {a b} a_mem b_mem less => ?_)
    have key {e : Rank × Placed} (mem : e ∈ members.toList) : e.2.rank = e.1 :=
      ((get?_members_iff found).1 (OrderedMap.get?_eq_some.2 mem)).2.2
    rw [key a_mem,key b_mem]
    exact less

/-- The sources of a package are those that declare it, by rank. -/
theorem sourcesOf_eq (package : UInt8) :
    r.sourcesOf package = r.byRank.filter fun p => p.source.table.packages.contains package := by
  refine eq_of_ascending (compareOn Placed.rank) sourcesOf_ascending (byRank_ascending.filter _) fun p => ?_
  rw [mem_sourcesOf,List.mem_filter,mem_byRank]

/-! ## The candidates for a resource -/

theorem mem_candidates_iff {id : ResourceId} {c : Candidate} : c ∈ r.candidates id ↔
    ∃ p ∈ r.placed, p.source.table.packages.contains id.package ∧ c ∈ candidatesIn p id := by
  simp [candidates,mem_sourcesOf,and_assoc]

/-- No two candidates for a resource share rank, configuration and cookie. -/
theorem candidates_pairwise (wellFormed : ∀ s ∈ r.sources, s.table.WellFormed) (id : ResourceId) :
    (r.candidates id).Pairwise fun a b => a.identity ≠ b.identity := by
  have distinct : (r.sourcesOf id.package).Pairwise fun a b => a.rank ≠ b.rank := by
    rw [sourcesOf_eq]
    exact byRank_pairwise.filter _
  refine List.pairwise_flatMap.2 ⟨fun p p_mem => ?_,distinct.imp fun differ a a_mem b b_mem same => ?_⟩
  · unfold candidatesIn
    split
    · exact .nil
    next entry found =>
      have configurations := (wellFormed _ (source_mem_of_placed (mem_sourcesOf.1 p_mem).1)).once id entry found
      refine List.pairwise_map.2 ((List.pairwise_map.1 configurations).imp fun differ same => ?_)
      exact differ (congrArg (fun identity => identity.2.1) same)
  · obtain ⟨_,_,_,_,a_rank,_⟩ := entry_of_candidate a_mem
    obtain ⟨_,_,_,_,b_rank,_⟩ := entry_of_candidate b_mem
    rw [← a_rank,← b_rank] at differ
    exact differ (congrArg Prod.fst same)

end Registry

end AndroidResources
