import AndroidResources.Table.Basic

/-!
# Variation

Definitions vary over the dimensions in which some two of them differ (`variation_includes_iff`). To compare each one with
the first is enough, as two that look like the first look alike; so the order of definitions does not count
(`variation_perm`).
-/
namespace AndroidResources
variable {definitions definitions' : List Definition} {d : Dimension}

theorem variation_cons_includes {first : Definition} {rest : List Definition} :
    (variation (first :: rest)).includes d ↔
      ∃ b ∈ first :: rest, d.view first.configuration ≠ d.view b.configuration := by
  have folded (definitions : List Definition) (changes : Changes) :
      (definitions.foldl (fun changes b => changes.union (first.configuration.diff b.configuration)) changes).includes d ↔
        changes.includes d ∨ ∃ b ∈ definitions, d.view first.configuration ≠ d.view b.configuration := by
    induction definitions generalizing changes with
    | nil => simp
    | cons b rest ih =>
      rw [List.foldl_cons,ih]
      simp [Changes.union,Configuration.diff,or_assoc]
  rw [variation,folded]
  simp [Changes.none]

/-- Definitions vary over a dimension in which two of them differ, and over no other one. -/
theorem variation_includes_iff : (variation definitions).includes d ↔
    ∃ a ∈ definitions, ∃ b ∈ definitions, d.view a.configuration ≠ d.view b.configuration := by
  cases definitions with
  | nil => simp [variation,Changes.none]
  | cons first rest =>
    rw [variation_cons_includes]
    constructor
    · rintro ⟨b,mem,differ⟩
      exact ⟨first,List.mem_cons_self,b,mem,differ⟩
    · rintro ⟨a,a_mem,b,b_mem,differ⟩
      -- One of the two differs from the first definition.
      by_cases same : d.view first.configuration = d.view a.configuration
      · exact ⟨b,b_mem,same ▸ differ⟩
      · exact ⟨a,a_mem,same⟩

/-- Definitions for the same configurations vary alike, in whatever order they are. -/
theorem variation_perm
    (perm : (definitions.map Definition.configuration).Perm (definitions'.map Definition.configuration)) :
    variation definitions = variation definitions' := by
  have seen (l : List Definition) (d : Dimension) : (variation l).includes d ↔
      ∃ a ∈ l.map Definition.configuration, ∃ b ∈ l.map Definition.configuration, d.view a ≠ d.view b := by
    rw [variation_includes_iff]
    constructor
    · rintro ⟨a,a_mem,b,b_mem,differ⟩
      exact ⟨_,List.mem_map_of_mem a_mem,_,List.mem_map_of_mem b_mem,differ⟩
    · rintro ⟨_,first,_,second,differ⟩
      obtain ⟨a,a_mem,rfl⟩ := List.mem_map.1 first
      obtain ⟨b,b_mem,rfl⟩ := List.mem_map.1 second
      exact ⟨a,a_mem,b,b_mem,differ⟩
  ext d
  rw [Bool.eq_iff_iff,seen,seen]
  simp only [perm.mem_iff]

end AndroidResources
