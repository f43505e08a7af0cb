import AndroidResources.Proofs.SelectionStability

/-!
# Dimensions that no candidate sets

A definition sets nothing in a dimension in which it is like one without qualifiers, and that dimension then admits it on
every device (`Dimension.admits_of_unset`). So devices that differ only where no candidate sets anything are alike for all
candidates, and the same position of the list is selected for them (`selectPosition?_unused`).
-/
namespace AndroidResources

/-! ## Positions -/

/-- The greatest of the images is the image of the greatest. -/
theorem lastGreatest?_map {α β : Type} (f : α → β) (cmp : β → β → Ordering) (members : List α) :
    lastGreatest? cmp (members.map f) = (lastGreatest? (fun x y => cmp (f x) (f y)) members).map f := by
  cases members with
  | nil => rfl
  | cons first rest =>
    simp only [List.map_cons,lastGreatest?,Option.map_some,Option.some.injEq]
    induction rest generalizing first with
    | nil => rfl
    | cons next rest ih =>
      rw [List.map_cons,List.foldl_cons,List.foldl_cons,← ih,apply_ite f]

/-- The position of the best candidate for a device, whose density may be replaced. -/
def selectPosition? (candidates : List Candidate) (device : Configuration) (density : Option UInt16) : Option Nat :=
  let device := device.withDensity density
  (lastGreatest? (fun a b => Candidate.compare device a.1 b.1)
    (candidates.zipIdx.filter fun c => c.1.configuration.suits device)).map Prod.snd

section
variable {candidates : List Candidate} {device device' : Configuration} {density : Option UInt16}

/-- The candidate that is selected stands at the position that is selected. -/
theorem select?_eq_getElem? : select? candidates device density =
    (selectPosition? candidates device density).bind fun i => candidates[i]? := by
  have suitable_eq : suitable (device.withDensity density) candidates =
      (candidates.zipIdx.filter fun c => c.1.configuration.suits (device.withDensity density)).map Prod.fst := by
    conv => lhs; rw [suitable,← List.zipIdx_map_fst 0 candidates,List.filter_map]
    rfl
  simp only [select?,selectPosition?,suitable_eq,lastGreatest?_map]
  cases found : lastGreatest? (fun a b => Candidate.compare (device.withDensity density) a.1 b.1)
      (candidates.zipIdx.filter fun c => c.1.configuration.suits (device.withDensity density)) with
  | none => rfl
  | some best =>
    have numbered := (List.mem_filter.1 (lastGreatest?_mem found)).1
    exact (List.mem_zipIdx_iff_getElem?.1 numbered).symm

/-- Devices that are alike for the candidates select the same position. -/
theorem selectPosition?_congr (alike : Alike candidates (device.withDensity density) (device'.withDensity density)) :
    selectPosition? candidates device density = selectPosition? candidates device' density := by
  have mem {c : Candidate × Nat} (numbered : c ∈ candidates.zipIdx) : c.1 ∈ candidates :=
    List.mem_of_getElem? (List.mem_zipIdx_iff_getElem?.1 numbered)
  have suitable_eq : (candidates.zipIdx.filter fun c => c.1.configuration.suits (device.withDensity density)) =
      candidates.zipIdx.filter fun c => c.1.configuration.suits (device'.withDensity density) :=
    List.filter_congr fun c numbered => suits_congr alike (mem numbered)
  simp only [selectPosition?,← suitable_eq]
  refine congrArg (Option.map Prod.snd) (lastGreatest?_congr fun a a_mem b b_mem => ?_)
  obtain ⟨a_mem,suits_a⟩ := List.mem_filter.1 a_mem
  obtain ⟨b_mem,suits_b⟩ := List.mem_filter.1 b_mem
  exact compare_congr alike (mem a_mem) (mem b_mem) suits_a suits_b

/-! ## Unset dimensions -/

/-- A definition without qualifiers suits every device. -/
theorem Configuration.suits_plain (device : Configuration) : suits {} device := by
  simp [suits,demands,agrees,fits,keysAgree,LocaleCode.toNat,LocaleCode.unset,gender,direction,screenSize,screenLength,
    roundness,dynamicRange,gamut,uiType,night,keysHidden,navigationHidden]

/-- A definition that sets nothing in a dimension is admitted on every device. -/
theorem Dimension.admits_of_unset {d : Dimension} {c : Configuration} (unset : d.view c = d.view {})
    (device : Configuration) : d.admits c device := by
  rw [admits_congr unset rfl]
  exact Configuration.suits_iff.1 (Configuration.suits_plain device) d

/-- Devices are alike where they differ only in dimensions in which no candidate sets anything. -/
theorem alike_of_unused
    (unused : ∀ c ∈ candidates, ¬ (c.configuration.diff {}).intersects (device.diff device')) :
    Alike candidates (device.withDensity density) (device'.withDensity density) := by
  intro d
  by_cases same : d.view (device.withDensity density) = d.view (device'.withDensity density)
  · exact .inl same
  · have differs : (device.diff device').includes d := decide_eq_true (Dimension.view_withDensity density same)
    have unset : ∀ c ∈ candidates, d.view c.configuration = d.view {} := by
      intro c mem
      by_contra set
      exact unused c mem (Changes.intersects_iff.2 ⟨d,decide_eq_true set,differs⟩)
    exact .inr ⟨fun a a_mem b b_mem => (unset a a_mem).trans (unset b b_mem).symm,
      fun c mem => ⟨Dimension.admits_of_unset (unset c mem) _,Dimension.admits_of_unset (unset c mem) _⟩⟩

/-- What no candidate sets does not show: devices that differ in nothing else select the same position, and with it the
    same candidate, whatever density takes the place of theirs. -/
theorem selectPosition?_unused (density : Option UInt16)
    (unused : ∀ c ∈ candidates, ¬ (c.configuration.diff {}).intersects (device.diff device')) :
    selectPosition? candidates device density = selectPosition? candidates device' density ∧
      select? candidates device density = select? candidates device' density := by
  have same : selectPosition? candidates device density = selectPosition? candidates device' density :=
    selectPosition?_congr (alike_of_unused unused)
  exact ⟨same,by rw [select?_eq_getElem?,select?_eq_getElem?,same]⟩

end

/-- Of a definition without qualifiers and one for landscape, a device in landscape gets the second one by day as by
    night, and in any country. -/
theorem selectPosition?_unused_night :
    let plain : Candidate := { cookie := ⟨0⟩, rank := ⟨true,0⟩, definition := ⟨{},.value .empty⟩ }
    let landscape : Candidate :=
      { cookie := ⟨0⟩, rank := ⟨true,0⟩, definition := ⟨{ orientation := 2 },.value .empty⟩ }
    let day : Configuration := { orientation := 2, uiMode := 0x10 }
    let night : Configuration := { orientation := 2, uiMode := 0x20, mobileCountry := 310 }
    (∀ c ∈ [plain,landscape], ¬ (c.configuration.diff {}).intersects (day.diff night)) ∧
      selectPosition? [plain,landscape] day none = some 1 ∧ selectPosition? [plain,landscape] night none = some 1 := by
  intro plain landscape day night
  have unused : ∀ c ∈ [plain,landscape], ¬ (c.configuration.diff {}).intersects (day.diff night) := by decide
  have byDay : selectPosition? [plain,landscape] day none = some 1 := by decide +kernel
  exact ⟨unused,byDay,(selectPosition?_unused none unused).1.symm.trans byDay⟩

end AndroidResources
