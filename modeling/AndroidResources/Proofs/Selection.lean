import AndroidResources.Registry.Lookup

/-!
# What a selection picks

A selection picks a member of its list, and only how the members compare with each other counts. Over
several devices, the member that is picked was the best one for one of them, or for the primary one in
the default locale.
-/
namespace AndroidResources

/-! ## The greatest member of a list -/

section
variable {α : Type} {cmp cmp' : α → α → Ordering}

/-- A scan ends with its first member or a later one. -/
theorem scan_mem (first : α) (rest : List α) :
    rest.foldl (fun best next => if cmp best next = .gt then best else next) first ∈ first :: rest := by
  induction rest generalizing first with
  | nil => simp
  | cons next rest ih =>
    rw [List.foldl_cons]
    by_cases keeps : cmp first next = .gt
    · rw [if_pos keeps]
      rcases List.mem_cons.1 (ih first) with same | later
      · exact List.mem_cons.2 (.inl same)
      · exact List.mem_cons_of_mem _ (List.mem_cons_of_mem _ later)
    · rw [if_neg keeps]
      exact List.mem_cons_of_mem _ (ih next)

theorem lastGreatest?_mem {members : List α} {x : α} (found : lastGreatest? cmp members = some x) : x ∈ members := by
  cases members with
  | nil => cases found
  | cons first rest =>
    obtain rfl := Option.some.inj found
    exact scan_mem first rest

theorem lastGreatest?_eq_none_iff {members : List α} : lastGreatest? cmp members = none ↔ members = [] := by
  cases members <;> simp [lastGreatest?]

/-- Two ways to compare that agree on the members have the same greatest member. -/
theorem lastGreatest?_congr {members : List α} (agree : ∀ x ∈ members, ∀ y ∈ members, cmp x y = cmp' x y) :
    lastGreatest? cmp members = lastGreatest? cmp' members := by
  cases members with
  | nil => rfl
  | cons first rest =>
    simp only [lastGreatest?,Option.some.injEq]
    induction rest generalizing first with
    | nil => rfl
    | cons next rest ih =>
      rw [List.foldl_cons,List.foldl_cons,agree first (by simp) next (by simp)]
      apply ih
      intro x xMem y yMem
      -- The best member so far is one of the two before the rest.
      have among : ∀ z, z ∈ (if cmp' first next = .gt then first else next) :: rest → z ∈ first :: next :: rest := by
        intro z mem
        split at mem
        · rcases List.mem_cons.1 mem with rfl | mem
          · simp
          · simp [mem]
        · exact List.mem_cons_of_mem _ mem
      exact agree x (among x xMem) y (among y yMem)

end

/-! ## One device -/

theorem select?_mem {candidates : List Candidate} {device : Configuration} {density : Option UInt16} {c : Candidate}
    (found : select? candidates device density = some c) :
    c ∈ candidates ∧ c.configuration.suits (device.withDensity density) := by
  have member := lastGreatest?_mem found
  simpa [suitable] using member

theorem select?_eq_none_iff {candidates : List Candidate} {device : Configuration} {density : Option UInt16} :
    select? candidates device density = none ↔
      ∀ c ∈ candidates, ¬ c.configuration.suits (device.withDensity density) := by
  simp [select?,suitable,lastGreatest?_eq_none_iff,List.filter_eq_nil_iff]

/-! ## Several devices -/

namespace Registry
variable {r : Registry} {candidates : List Candidate} {density : Option UInt16}

/-- A device that a registry selects for: one of its own, or the primary one in the default locale. -/
def Consults (r : Registry) (device : Configuration) : Prop :=
  device ∈ r.configurations ∨ ∃ locale, r.defaultLocale = some locale ∧ device = r.primary.withLocale locale

theorem selectFor?_eq_some {device : Configuration} {found : Candidate × Configuration} :
    selectFor? candidates density device = some found ↔
      select? candidates device density = some found.1 ∧ found.2 = device := by
  simp only [selectFor?,Option.map_eq_some_iff]
  constructor
  · rintro ⟨c,best,rfl⟩
    exact ⟨best,rfl⟩
  · rintro ⟨best,rfl⟩
    exact ⟨found.1,best,rfl⟩

/-- What is selected over several devices is the best one for a device that the registry consults. -/
theorem selectLocalized?_consults {found : Candidate × Configuration}
    (selected : r.selectLocalized? candidates density = some found) :
    select? candidates found.2 density = some found.1 ∧ r.Consults found.2 := by
  have own (member : found ∈ r.configurations.filterMap (selectFor? candidates density)) :
      select? candidates found.2 density = some found.1 ∧ r.Consults found.2 := by
    obtain ⟨device,isDevice,best⟩ := List.mem_filterMap.1 member
    obtain ⟨best,rfl⟩ := selectFor?_eq_some.1 best
    exact ⟨best,.inl isDevice⟩
  simp only [selectLocalized?,Option.or_eq_some_iff] at selected
  rcases selected with settled | ⟨_,byDefault | ⟨_,head⟩⟩
  · exact own (List.mem_of_find?_eq_some settled)
  · simp only [selectDefault?] at byDefault
    split at byDefault
    · cases byDefault
    · rename_i locale isDefault
      obtain ⟨best,_⟩ := Option.filter_eq_some_iff.1 byDefault
      obtain ⟨best,device⟩ := selectFor?_eq_some.1 best
      exact ⟨device ▸ best,.inr ⟨locale,isDefault,device⟩⟩
  · exact own (List.mem_of_head? head)

theorem selectLocalized?_mem {found : Candidate × Configuration}
    (selected : r.selectLocalized? candidates density = some found) : found.1 ∈ candidates :=
  (select?_mem (selectLocalized?_consults selected).1).1

end Registry

end AndroidResources
