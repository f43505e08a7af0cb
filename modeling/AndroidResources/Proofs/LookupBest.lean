import AndroidResources.Manager
import AndroidResources.Proofs.PackageIndex

/-!
# What a look-up finds

With one device and no default locale, a look-up finds a definition exactly if the id is valid and some source
has one that suits the device, and no definition in any source is then preferred to the one that is found
(`Manager.find?_best`). So the index, the order of ranks and the single list of all definitions do not show.
-/
namespace AndroidResources

/-- Whether a source defines a resource, and how for one configuration: it declares the package, and has the
    definition under the id. -/
def Source.Defines (s : Source) (id : ResourceId) (d : Definition) : Prop :=
  s.table.packages.contains id.package ∧ ∃ entry, s.table.entry? id = some entry ∧ d ∈ entry.definitions

/-- In a table that has been built, only the entries count. -/
theorem Source.defines_iff {s : Source} (wellFormed : s.table.WellFormed) {id : ResourceId} {d : Definition} :
    s.Defines id d ↔ ∃ entry, s.table.entry? id = some entry ∧ d ∈ entry.definitions := by
  refine ⟨And.right,fun found => ⟨?_,found⟩⟩
  obtain ⟨entry,isEntry,_⟩ := found
  exact wellFormed.declared id entry isEntry

/-- No candidate that suits the device is preferred to the one that is selected. -/
theorem compare_ne_gt_of_selected {candidates : List Candidate} {device : Configuration} {density : Option UInt16}
    {best c : Candidate} (found : select? candidates device density = some best) (mem : c ∈ candidates)
    (suits : c.configuration.suits (device.withDensity density)) :
    Candidate.compare (device.withDensity density) c best ≠ .gt := by
  have best_suits := (select?_mem found).2
  rw [select?_eq_order] at found
  rw [Candidate.compare_eq_order suits best_suits]
  exact Ordering.isLE_iff_ne_gt.1 (isLE_lastGreatest? found (mem_suitable.2 ⟨mem,suits⟩))

/-- Candidates compare by what no two candidates for a resource share. -/
theorem Candidate.compare_congr {device : Configuration} {a a' b b' : Candidate} (left : a.identity = a'.identity)
    (right : b.identity = b'.identity) : compare device a b = compare device a' b' := by
  simp only [identity,Prod.mk.injEq] at left right
  unfold compare
  rw [left.1,left.2.1,left.2.2,right.1,right.2.1,right.2.2]

namespace Registry
variable {r : Registry} {id : ResourceId}

/-- Whether there is one device, and no locale to fall back on. -/
structure Single (r : Registry) : Prop where
  alone : r.others = []
  noDefault : r.defaultLocale = none

/-- Whether a candidate is what a source defines, with the cookie and the rank that the source has at its place. -/
def Offers (r : Registry) (id : ResourceId) (c : Candidate) : Prop :=
  ∃ position s, r.sources[position]? = some s ∧ s.Defines id c.definition ∧
    c.cookie = (r.placeAt s position).cookie ∧ c.rank = (r.placeAt s position).rank

/-- A source of lower priority ranks below every one that is not, and otherwise an earlier one below a later one. -/
theorem compare_rank_eq_lt_iff {s t : Source} {i j : Nat} :
    compare (r.placeAt s i).rank (r.placeAt t j).rank = .lt ↔
      (s.flags.lowerPriority ∧ ¬ t.flags.lowerPriority) ∨ (s.flags.lowerPriority = t.flags.lowerPriority ∧ i < j) := by
  have unfolded : compare (r.placeAt s i).rank (r.placeAt t j).rank =
      (compare (!s.flags.lowerPriority) (!t.flags.lowerPriority)).then (compare i j) := rfl
  rw [unfolded,Ordering.then_eq_lt,Nat.compare_eq_lt]
  cases s.flags.lowerPriority <;> cases t.flags.lowerPriority <;> simp [show compare false true = .lt from rfl]

theorem offers_of_mem {c : Candidate} (mem : c ∈ r.candidates id) : r.Offers id c := by
  obtain ⟨p,p_mem,declares,mem⟩ := mem_candidates_iff.1 mem
  obtain ⟨position,s,at_position,rfl⟩ := mem_placed_iff.1 p_mem
  obtain ⟨entry,isEntry,isDefinition,cookie,rank,_⟩ := entry_of_candidate mem
  exact ⟨position,s,at_position,⟨declares,entry,isEntry,isDefinition⟩,cookie,rank⟩

/-- What a source defines is among the candidates. -/
theorem Offers.mem {c : Candidate} (offers : r.Offers id c) :
    ∃ c' ∈ r.candidates id, c.identity = c'.identity := by
  obtain ⟨position,s,at_position,⟨declares,entry,isEntry,isDefinition⟩,cookie,rank⟩ := offers
  have placed : r.placeAt s position ∈ r.placed := mem_placed_iff.2 ⟨position,s,at_position,rfl⟩
  let own : Candidate := ⟨(r.placeAt s position).cookie,(r.placeAt s position).rank,c.definition,s.path,
    entry.name.type,entry.changes⟩
  have mem : own ∈ candidatesIn (r.placeAt s position) id := by
    rw [candidatesIn,show (r.placeAt s position).source.table.entry? id = some entry from isEntry]
    exact List.mem_map.2 ⟨c.definition,isDefinition,rfl⟩
  have same : c.identity = own.identity := by simp only [Candidate.identity,cookie,rank,Candidate.configuration,own]
  exact ⟨own,mem_candidates_iff.2 ⟨_,placed,declares,mem⟩,same⟩

/-- What is found was selected for a device that the registry consults. -/
theorem select?_of_find? {density : Option UInt16} {found : Candidate} {used : Configuration}
    (isFound : r.find? id density = some (found,used)) :
    select? (r.candidates id) used density = some found ∧ r.Consults used := by
  rw [find?,Option.ite_none_right_eq_some] at isFound
  simpa only using selectLocalized?_consults isFound.2

/-- With one device, the best candidate for it is taken. -/
theorem Single.selectLocalized?_eq (single : r.Single) (candidates : List Candidate) (density : Option UInt16) :
    r.selectLocalized? candidates density = selectFor? candidates density r.primary := by
  have settles (found : Candidate × Configuration) : r.settles found := by simp [settles,single.alone]
  simp only [selectLocalized?,configurations,single.alone,selectDefault?,single.noDefault,List.filterMap_cons,
    List.filterMap_nil]
  cases selectFor? candidates density r.primary <;> simp [settles]

theorem Single.find?_eq_some_iff (single : r.Single) {density : Option UInt16} {found : Candidate × Configuration} :
    r.find? id density = some found ↔
      id.isValid ∧ select? (r.candidates id) r.primary density = some found.1 ∧ found.2 = r.primary := by
  rw [find?,single.selectLocalized?_eq,Option.ite_none_right_eq_some,selectFor?_eq_some]

/-- Something is found for each valid id that a source has a definition of which suits the device. -/
theorem Single.isSome_find?_iff (single : r.Single) {density : Option UInt16} : (r.find? id density).isSome ↔
    id.isValid ∧ ∃ c, r.Offers id c ∧ c.configuration.suits (r.primary.withDensity density) := by
  rw [Option.isSome_iff_exists]
  constructor
  · rintro ⟨found,isFound⟩
    obtain ⟨valid,selected,_⟩ := single.find?_eq_some_iff.1 isFound
    obtain ⟨mem,suits⟩ := select?_mem selected
    exact ⟨valid,found.1,offers_of_mem mem,suits⟩
  · rintro ⟨valid,c,offers,suits⟩
    obtain ⟨c',mem,same⟩ := offers.mem
    have configuration : c.configuration = c'.configuration := congrArg (fun identity => identity.2.1) same
    have some_suits : select? (r.candidates id) r.primary density ≠ none := fun none =>
      select?_eq_none_iff.1 none c' mem (configuration ▸ suits)
    obtain ⟨best,selected⟩ := Option.ne_none_iff_exists'.1 some_suits
    exact ⟨(best,r.primary),single.find?_eq_some_iff.2 ⟨valid,selected,rfl⟩⟩

/-- No definition of any source that suits the device is preferred to the one that is found. -/
theorem Single.compare_ne_gt_of_find? (single : r.Single) {density : Option UInt16} {best : Candidate}
    {used : Configuration} (found : r.find? id density = some (best,used)) {c : Candidate} (offers : r.Offers id c)
    (suits : c.configuration.suits (r.primary.withDensity density)) :
    Candidate.compare (r.primary.withDensity density) c best ≠ .gt := by
  obtain ⟨c',mem,same⟩ := offers.mem
  have configuration : c.configuration = c'.configuration := congrArg (fun identity => identity.2.1) same
  rw [Candidate.compare_congr same rfl]
  exact compare_ne_gt_of_selected (single.find?_eq_some_iff.1 found).2.1 mem (configuration ▸ suits)

end Registry

namespace Manager

/-- With one device and no default locale, something is found exactly if the id is valid and a source has a
    definition that suits the device, whose density may be replaced. What is found suits the device too, and no such
    definition in any source is preferred to it. -/
theorem find?_best {m : Manager} (single : m.registry.Single) (id : ResourceId) (density : Option UInt16) :
    let r := m.registry
    let device := r.primary.withDensity density
    ((r.find? id density).isSome ↔ id.isValid ∧ ∃ c, r.Offers id c ∧ c.configuration.suits device) ∧
    (∀ best used, r.find? id density = some (best,used) →
      used = r.primary ∧ r.Offers id best ∧ best.configuration.suits device ∧
        ∀ c, r.Offers id c → c.configuration.suits device → Candidate.compare device c best ≠ .gt) ∧
    (m.resource? id true density).1 = (r.find? id density).map (fun found => Registry.selectedOf id found.1) ∧
    ∀ (s t : Source) (i j : Nat), compare (r.placeAt s i).rank (r.placeAt t j).rank = .lt ↔
      (s.flags.lowerPriority ∧ ¬ t.flags.lowerPriority) ∨ (s.flags.lowerPriority = t.flags.lowerPriority ∧ i < j) := by
  intro r device
  refine ⟨single.isSome_find?_iff,fun best used found => ?_,?_,fun s t i j => Registry.compare_rank_eq_lt_iff⟩
  · obtain ⟨_,selected,rfl⟩ := single.find?_eq_some_iff.1 found
    obtain ⟨mem,suits⟩ := select?_mem selected
    exact ⟨rfl,Registry.offers_of_mem mem,suits,fun c offers => single.compare_ne_gt_of_find? found offers⟩
  · simp only [resource?,Registry.resource?,Registry.selected?]
    cases r.find? id density <;> simp

/-- A source of lower priority does not hide what comes before it, though it comes later. -/
theorem find?_best_lowerPriority :
    let source (path : String) (flags : SourceFlags) (number : UInt32) : Source :=
      { path
        flags
        table :=
          { packages := .ofList [(0x7f,"app")]
            entries := .ofList [(0x7f010000,⟨⟨"app","integer","n"⟩,[⟨{},.value ⟨.decimal,number⟩⟩]⟩)] } }
    let m := ({} : Manager).presetSources [source "base" {} 1,source "vendor" { lowerPriority := true } 2]
    m.registry.Single ∧ ∃ best, m.registry.find? 0x7f010000 none = some (best,{}) ∧ best.cookie = ⟨0⟩ ∧
      ∀ c, m.registry.Offers 0x7f010000 c → c.configuration.suits {} → Candidate.compare {} c best ≠ .gt := by
  intro source m
  have single : m.registry.Single := ⟨rfl,rfl⟩
  have first : (m.registry.find? 0x7f010000 none).map (fun found => found.1.cookie) = some ⟨0⟩ := by decide +kernel
  obtain ⟨⟨best,used⟩,isFound,cookie⟩ := Option.map_eq_some_iff.1 first
  obtain ⟨rfl,_,_,preferred⟩ := (find?_best single 0x7f010000 none).2.1 best used isFound
  exact ⟨single,best,isFound,cookie,preferred⟩

end Manager

end AndroidResources
