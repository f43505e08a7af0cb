import Mathlib.Data.List.Basic
import AndroidResources.Proofs.SelectionOrder

/-!
# Selections for devices that differ

Two devices select alike where they differ only in dimensions that play no part among the candidates: in which
all candidates are meant for the same, and suit both devices (`select?_congr`). A registry whose devices differ
in their locales only (`Registry.Uniform`) then selects alike after a change of its devices in such dimensions,
provided that something is selected before and after (`Registry.selectLocalized?_eq`).
-/
namespace AndroidResources

/-! ## One device -/

/-- Whether no candidate is told from another by a dimension. -/
def Shared (candidates : List Candidate) (d : Dimension) : Prop :=
  ∀ a ∈ candidates, ∀ b ∈ candidates, d.view a.configuration = d.view b.configuration

/-- Whether two devices differ only in dimensions that candidates share and that admit them on both. -/
def Alike (candidates : List Candidate) (device device' : Configuration) : Prop :=
  ∀ d : Dimension, d.view device = d.view device' ∨
    Shared candidates d ∧ ∀ c ∈ candidates, d.admits c.configuration device ∧ d.admits c.configuration device'

section
variable {candidates : List Candidate} {device device' : Configuration}

/-- Candidates compare alike by their merits where the devices differ only in what they share. -/
theorem compare_merits_congr {a b : Configuration}
    (alike : ∀ d : Dimension, d.view device = d.view device' ∨ d.view a = d.view b) :
    compare (device.merits a) (device.merits b) = compare (device'.merits a) (device'.merits b) := by
  unfold Configuration.merits
  induction Criterion.all with
  | nil => rfl
  | cons k rest ih =>
    have first (device : Configuration) : compare (Criterion.merits (k :: rest) device a)
        (Criterion.merits (k :: rest) device b) = (compare (k.merit device a) (k.merit device b)).then
          (compare (Criterion.merits rest device a) (Criterion.merits rest device b)) :=
      List.compareLex_cons_cons
    rw [first,first,ih]
    rcases alike k.dimension with devices | definitions
    · rw [k.sees devices rfl,k.sees devices rfl]
    · have same (device : Configuration) : k.merit device a = k.merit device b := k.sees rfl definitions
      rw [same,same,Int.compare_eq_eq.2 rfl,Int.compare_eq_eq.2 rfl]

theorem suits_congr (alike : Alike candidates device device') {c : Candidate} (mem : c ∈ candidates) :
    c.configuration.suits device = c.configuration.suits device' := by
  rw [Bool.eq_iff_iff,Configuration.suits_iff,Configuration.suits_iff]
  apply forall_congr'
  intro d
  rcases alike d with devices | ⟨_,admitted⟩
  · rw [Dimension.admits_congr rfl devices]
  · simp [admitted c mem]

/-- Devices that are alike for the candidates prefer the same ones of those that suit them. -/
theorem compare_congr (alike : Alike candidates device device') {a b : Candidate} (a_mem : a ∈ candidates)
    (b_mem : b ∈ candidates) (suits_a : a.configuration.suits device) (suits_b : b.configuration.suits device) :
    Candidate.compare device a b = Candidate.compare device' a b := by
  have merits : compare (device.merits a.configuration) (device.merits b.configuration) =
      compare (device'.merits a.configuration) (device'.merits b.configuration) :=
    compare_merits_congr fun d => (alike d).imp id fun shared => shared.1 a a_mem b b_mem
  rw [Candidate.compare_eq_order suits_a suits_b,
    Candidate.compare_eq_order (suits_congr alike a_mem ▸ suits_a) (suits_congr alike b_mem ▸ suits_b)]
  simp only [Candidate.order,compareLex,compareOn,merits]

/-- Devices that are alike for the candidates select the same one. -/
theorem select?_congr {density : Option UInt16}
    (alike : Alike candidates (device.withDensity density) (device'.withDensity density)) :
    select? candidates device density = select? candidates device' density := by
  have suitable_eq : suitable (device.withDensity density) candidates =
      suitable (device'.withDensity density) candidates :=
    List.filter_congr fun c mem => suits_congr alike mem
  simp only [select?,← suitable_eq]
  apply lastGreatest?_congr
  intro a a_mem b b_mem
  obtain ⟨a_mem,suits_a⟩ := mem_suitable.1 a_mem
  obtain ⟨b_mem,suits_b⟩ := mem_suitable.1 b_mem
  exact compare_congr alike a_mem b_mem suits_a suits_b

end

/-- A dimension in which devices differ with the same density in place of theirs is one in which they differ. -/
theorem Dimension.view_withDensity {d : Dimension} {a b : Configuration} (density : Option UInt16)
    (differ : d.view (a.withDensity density) ≠ d.view (b.withDensity density)) : d.view a ≠ d.view b := by
  cases density with
  | none => exact differ
  | some density =>
    simp only [Configuration.withDensity] at differ
    split at differ
    · cases d with
      | density => exact absurd rfl differ
      | _ => exact differ
    · exact differ

/-! ## Several devices -/

theorem Dimension.view_withLocale {d : Dimension} (notLocale : d ≠ .locale) (c locale : Configuration) :
    d.view (c.withLocale locale) = d.view c := by
  cases d with
  | locale => exact absurd rfl notLocale
  | _ => rfl

namespace Registry
variable {r r' : Registry} {changes : Changes} {candidates : List Candidate}

/-- Whether all devices are the primary one in some locale. -/
def Uniform (r : Registry) : Prop :=
  ∀ c ∈ r.others, c = r.primary.withLocale c

theorem Uniform.eq_withLocale (uniform : r.Uniform) {c : Configuration} (mem : c ∈ r.configurations) :
    c = r.primary.withLocale c := by
  rcases List.mem_cons.1 mem with rfl | mem
  · rfl
  · exact uniform c mem

theorem Uniform.configurations (uniform : r.Uniform) : r.configurations.map r.primary.withLocale = r.configurations :=
  (List.map_congr_left fun _ mem => (uniform.eq_withLocale mem).symm).trans (List.map_id _)

/-- A device that is consulted looks like the primary one, apart from the locale. -/
theorem Uniform.view_eq (uniform : r.Uniform) {device : Configuration} (consults : r.Consults device) {d : Dimension}
    (notLocale : d ≠ .locale) : d.view device = d.view r.primary := by
  rcases consults with mem | ⟨locale,_,rfl⟩
  · rw [uniform.eq_withLocale mem]
    exact Dimension.view_withLocale notLocale _ _
  · exact Dimension.view_withLocale notLocale _ _

/-- Registries that differ in nothing but their devices, and in these only in some dimensions: that of the
    primary device, and the locale of any of them. -/
structure Differ (r r' : Registry) (changes : Changes) : Prop where
  sources : r'.sources = r.sources
  base : r'.base = r.base
  defaultLocale : r'.defaultLocale = r.defaultLocale
  primary : ∀ d, ¬ changes.includes d → d.view r.primary = d.view r'.primary
  locales : ¬ changes.includes .locale →
    r'.configurations.map Configuration.localeOnly = r.configurations.map Configuration.localeOnly

/-- Where the locales stay, each device becomes the new primary one in its locale. -/
theorem Differ.configurations (differ : r.Differ r' changes) (uniform' : r'.Uniform)
    (stays : ¬ changes.includes .locale) : r'.configurations = r.configurations.map r'.primary.withLocale := by
  have onlyLocale : r'.primary.withLocale = r'.primary.withLocale ∘ Configuration.localeOnly := rfl
  calc r'.configurations
    _ = r'.configurations.map r'.primary.withLocale := uniform'.configurations.symm
    _ = (r'.configurations.map Configuration.localeOnly).map r'.primary.withLocale := by
      rw [List.map_map,← onlyLocale]
    _ = (r.configurations.map Configuration.localeOnly).map r'.primary.withLocale := by rw [differ.locales stays]
    _ = r.configurations.map r'.primary.withLocale := by rw [List.map_map,← onlyLocale]

/-- A dimension that candidates share admits them all where it admits one. -/
theorem admits_of_shared {d : Dimension} (shared : Shared candidates d) {device device' : Configuration}
    (views : d.view device' = d.view device) {c : Candidate}
    (found : select? candidates device none = some c) {b : Candidate} (mem : b ∈ candidates) :
    d.admits b.configuration device' := by
  obtain ⟨c_mem,suits⟩ := select?_mem found
  rw [Dimension.admits_congr (shared b mem c c_mem) views]
  exact Configuration.suits_iff.1 suits d

/-- Where locales change but play no part, two devices are alike, whichever the registries consult. -/
theorem Differ.alike_of_locale (differ : r.Differ r' changes) (uniform : r.Uniform) (uniform' : r'.Uniform)
    (changed : changes.includes .locale) (shared : ∀ d, changes.includes d → Shared candidates d)
    {c c' : Candidate} {device device' : Configuration} (consults : r.Consults device)
    (consults' : r'.Consults device') (found : select? candidates device none = some c)
    (found' : select? candidates device' none = some c') : Alike candidates device device' := by
  intro d
  by_cases affected : changes.includes d
  · exact .inr ⟨shared d affected,fun b mem =>
      ⟨admits_of_shared (shared d affected) rfl found mem,admits_of_shared (shared d affected) rfl found' mem⟩⟩
  · have notLocale : d ≠ .locale := fun same => affected (same ▸ changed)
    refine .inl ?_
    rw [uniform.view_eq consults notLocale,uniform'.view_eq consults' notLocale]
    exact differ.primary d affected

/-- Where no locale changes, the old and the new primary device are alike in each locale. -/
theorem Differ.alike_of_no_locale (differ : r.Differ r' changes) (uniform : r.Uniform) (uniform' : r'.Uniform)
    (stays : ¬ changes.includes .locale) (shared : ∀ d, changes.includes d → Shared candidates d)
    {c c' : Candidate} {device device' : Configuration} (consults : r.Consults device)
    (consults' : r'.Consults device') (found : select? candidates device none = some c)
    (found' : select? candidates device' none = some c') (locale : Configuration) :
    Alike candidates (r.primary.withLocale locale) (r'.primary.withLocale locale) := by
  intro d
  by_cases affected : changes.includes d
  · have notLocale : d ≠ .locale := fun same => stays (same ▸ affected)
    have views : d.view (r.primary.withLocale locale) = d.view device := by
      rw [Dimension.view_withLocale notLocale,uniform.view_eq consults notLocale]
    have views' : d.view (r'.primary.withLocale locale) = d.view device' := by
      rw [Dimension.view_withLocale notLocale,uniform'.view_eq consults' notLocale]
    exact .inr ⟨shared d affected,fun b mem =>
      ⟨admits_of_shared (shared d affected) views found mem,admits_of_shared (shared d affected) views' found' mem⟩⟩
  · refine .inl ?_
    by_cases isLocale : d = .locale
    · subst isLocale
      rfl
    · rw [Dimension.view_withLocale isLocale,Dimension.view_withLocale isLocale]
      exact differ.primary d affected

/-- Where no locale changes and the devices are alike in each, all devices select what they selected before. -/
theorem Differ.selectLocalized?_map (differ : r.Differ r' changes) (uniform : r.Uniform) (uniform' : r'.Uniform)
    (stays : ¬ changes.includes .locale)
    (alike : ∀ locale, Alike candidates (r.primary.withLocale locale) (r'.primary.withLocale locale)) :
    r'.selectLocalized? candidates none =
      (r.selectLocalized? candidates none).map fun found => (found.1,r'.primary.withLocale found.2) := by
  have devices := differ.configurations uniform' stays
  have others : r'.others = r.others.map r'.primary.withLocale := (List.cons.inj devices).2
  have selected (locale : Configuration) : selectFor? candidates none (r'.primary.withLocale locale) =
      (selectFor? candidates none (r.primary.withLocale locale)).map
        fun found => (found.1,r'.primary.withLocale found.2) := by
    have same : select? candidates (r.primary.withLocale locale) none =
        select? candidates (r'.primary.withLocale locale) none := select?_congr (alike locale)
    rw [selectFor?,selectFor?,same,Option.map_map]
    rfl
  have found : r'.configurations.filterMap (selectFor? candidates none) =
      (r.configurations.filterMap (selectFor? candidates none)).map
        fun found => (found.1,r'.primary.withLocale found.2) := by
    rw [devices,List.filterMap_map,List.map_filterMap]
    refine List.filterMap_congr fun device mem => ?_
    conv => rhs; rw [uniform.eq_withLocale mem]
    exact selected device
  have settles (z : Candidate × Configuration) : r'.settles (z.1,r'.primary.withLocale z.2) = r.settles z := by
    have alone : decide (r'.others = []) = decide (r.others = []) := by simp [others]
    rw [settles,alone]
    rfl
  have byDefault : r'.selectDefault? candidates none =
      (r.selectDefault? candidates none).map fun found => (found.1,r'.primary.withLocale found.2) := by
    unfold selectDefault?
    rw [differ.defaultLocale]
    cases r.defaultLocale with
    | none => rfl
    | some locale =>
      simp only [selected locale,Option.filter_map]
      rfl
  simp only [selectLocalized?,found,byDefault]
  rw [List.find?_map,List.head?_map,Option.map_or,Option.map_or]
  have same : r'.settles ∘ (fun found => (found.1,r'.primary.withLocale found.2)) = r.settles := funext settles
  rw [same]

/-- What candidates share in all dimensions that change does not tell which one is selected: if one is before and
    after the change, it is the same. -/
theorem Differ.selectLocalized?_eq (differ : r.Differ r' changes) (uniform : r.Uniform) (uniform' : r'.Uniform)
    (shared : ∀ d, changes.includes d → Shared candidates d) {found found' : Candidate × Configuration}
    (selected : r.selectLocalized? candidates none = some found)
    (selected' : r'.selectLocalized? candidates none = some found') : found'.1 = found.1 := by
  obtain ⟨best,consults⟩ := selectLocalized?_consults selected
  obtain ⟨best',consults'⟩ := selectLocalized?_consults selected'
  by_cases changed : changes.includes .locale
  · have alike := differ.alike_of_locale uniform uniform' changed shared consults consults' best best'
    have same : select? candidates found.2 none = select? candidates found'.2 none := select?_congr alike
    rw [best,best'] at same
    exact (Option.some.inj same).symm
  · have alike := differ.alike_of_no_locale uniform uniform' changed shared consults consults' best best'
    rw [differ.selectLocalized?_map uniform uniform' changed alike,selected] at selected'
    obtain rfl := Option.some.inj selected'
    rfl

end Registry

end AndroidResources
