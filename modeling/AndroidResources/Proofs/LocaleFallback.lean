import AndroidResources.Proofs.Selection

/-!
# Falling back from device to device

A registry tries its devices in order until the best candidate for one of them settles the matter, then the primary
device in the default locale, and after it whatever was found first (`Registry.FallsBack`). A candidate settles the
matter where the device has no language or the candidate's language is that of the device, and also where there is no
other device. By that last rule a registry with a single device does not turn to its default locale once it has found
anything, in any language (`Registry.selectLocalized?_fallsBack`).
-/
namespace AndroidResources

/-- Whether a candidate is in the language of a device, or the device has none. -/
def Configuration.contented (device : Configuration) (c : Candidate) : Bool :=
  !device.hasLocale || c.configuration.language = device.language

namespace Registry
variable {r : Registry} {candidates : List Candidate} {density : Option UInt16}
  {settled : Configuration → Candidate → Bool} {found : Candidate × Configuration}

/-- Whether something is the best candidate for a device with which it settles the matter, and no device before that
    has a best candidate that does. -/
structure FirstSettled (r : Registry) (candidates : List Candidate) (density : Option UInt16)
    (settled : Configuration → Candidate → Bool) (found : Candidate × Configuration) : Prop where
  best : select? candidates found.2 density = some found.1
  isSettled : settled found.2 found.1
  first : ∃ before after, r.configurations = before ++ found.2 :: after ∧
    ∀ device ∈ before, ∀ c, select? candidates device density = some c → settled device c = false

/-- Whether something is the best candidate for the primary device in the default locale, and has its language. -/
structure ByDefault (r : Registry) (candidates : List Candidate) (density : Option UInt16)
    (found : Candidate × Configuration) : Prop where
  best : select? candidates found.2 density = some found.1
  spoken : ∃ locale, r.defaultLocale = some locale ∧ found.2 = r.primary.withLocale locale ∧
    found.1.configuration.language = locale.language

/-- The order in which a registry falls back, given what settles the matter for a device. -/
inductive FallsBack (r : Registry) (candidates : List Candidate) (density : Option UInt16)
    (settled : Configuration → Candidate → Bool) : Option (Candidate × Configuration) → Prop
  | settled {found : Candidate × Configuration} : r.FirstSettled candidates density settled found →
      r.FallsBack candidates density settled (some found)
  | byDefault {found : Candidate × Configuration} : (∀ other, ¬ r.FirstSettled candidates density settled other) →
      r.ByDefault candidates density found → r.FallsBack candidates density settled (some found)
  | first {found : Candidate × Configuration} : (∀ other, ¬ r.FirstSettled candidates density settled other) →
      (∀ other, ¬ r.ByDefault candidates density other) →
      r.FirstSettled candidates density (fun _ _ => true) found → r.FallsBack candidates density settled (some found)
  | none : (∀ device ∈ r.configurations, select? candidates device density = none) →
      (∀ other, ¬ r.ByDefault candidates density other) → r.FallsBack candidates density settled none

/-- The first settled device is the first one of those with a best candidate that is settled. -/
theorem firstSettled_iff : r.FirstSettled candidates density settled found ↔
    (r.configurations.filterMap (selectFor? candidates density)).find? (fun found => settled found.2 found.1) =
      some found := by
  have settles (device : Configuration) : (selectFor? candidates density device).any
      (fun found => settled found.2 found.1) = false ↔
        ∀ c, select? candidates device density = some c → settled device c = false := by
    cases best : select? candidates device density <;> simp [selectFor?,best]
  rw [List.find?_filterMap,Option.bind_eq_some_iff]
  simp only [List.find?_eq_some_iff_append,selectFor?_eq_some,Bool.not_eq_eq_eq_not,Bool.not_true,settles]
  constructor
  · rintro ⟨best,isSettled,first⟩
    exact ⟨found.2,⟨by simp [selectFor?,best,isSettled],first⟩,best,rfl⟩
  · rintro ⟨device,⟨isSettled,first⟩,best,rfl⟩
    exact ⟨best,by simpa [selectFor?,best] using isSettled,first⟩

theorem byDefault_iff : r.ByDefault candidates density found ↔ r.selectDefault? candidates density = some found := by
  unfold selectDefault?
  cases isDefault : r.defaultLocale with
  | none =>
    constructor
    · rintro ⟨_,locale,isLocale,_⟩
      simp [isDefault] at isLocale
    · intro found
      cases found
  | some locale =>
    simp only [Option.filter_eq_some_iff,selectFor?_eq_some,speaks,decide_eq_true_eq]
    constructor
    · rintro ⟨best,locale',isLocale,device,spoken⟩
      obtain rfl := Option.some.inj (isDefault.symm.trans isLocale)
      exact ⟨⟨device ▸ best,device⟩,spoken⟩
    · rintro ⟨⟨best,device⟩,spoken⟩
      exact ⟨device ▸ best,locale,isDefault,device,spoken⟩

theorem noneSettled_iff : (∀ found, ¬ r.FirstSettled candidates density settled found) ↔
    (r.configurations.filterMap (selectFor? candidates density)).find? (fun found => settled found.2 found.1) =
      none := by
  simp only [firstSettled_iff,Option.eq_none_iff_forall_ne_some,ne_eq]

theorem noDefault_iff :
    (∀ found, ¬ r.ByDefault candidates density found) ↔ r.selectDefault? candidates density = none := by
  simp only [byDefault_iff,Option.eq_none_iff_forall_ne_some,ne_eq]

/-- With a rule that is always met, the first device that has a best candidate settles the matter. -/
theorem head?_iff : r.FirstSettled candidates density (fun _ _ => true) found ↔
    (r.configurations.filterMap (selectFor? candidates density)).head? = some found := by
  rw [firstSettled_iff]
  cases r.configurations.filterMap (selectFor? candidates density) <;> simp

theorem head?_eq_none_iff : (r.configurations.filterMap (selectFor? candidates density)).head? = none ↔
    ∀ device ∈ r.configurations, select? candidates device density = none := by
  simp [selectFor?]

/-- What is settled first, the default after it and what is first after that are how a registry falls back. -/
theorem fallsBack_iff {answer : Option (Candidate × Configuration)} :
    ((r.configurations.filterMap (selectFor? candidates density)).find? (fun found => settled found.2 found.1)).or
      ((r.selectDefault? candidates density).or
        (r.configurations.filterMap (selectFor? candidates density)).head?) = answer ↔
      r.FallsBack candidates density settled answer := by
  constructor
  · rintro rfl
    cases isSettled : (r.configurations.filterMap (selectFor? candidates density)).find?
        (fun found => settled found.2 found.1) with
    | some found => exact .settled (firstSettled_iff.2 isSettled)
    | none =>
      have unsettled := noneSettled_iff.2 isSettled
      cases isDefault : r.selectDefault? candidates density with
      | some found => exact .byDefault unsettled (byDefault_iff.2 isDefault)
      | none =>
        have noDefault := noDefault_iff.2 isDefault
        cases isFirst : (r.configurations.filterMap (selectFor? candidates density)).head? with
        | some found => exact .first unsettled noDefault (head?_iff.2 isFirst)
        | none => exact .none (head?_eq_none_iff.1 isFirst) noDefault
  · intro falls
    cases falls with
    | settled isSettled => rw [firstSettled_iff.1 isSettled,Option.some_or]
    | byDefault unsettled isDefault =>
      rw [noneSettled_iff.1 unsettled,byDefault_iff.1 isDefault,Option.none_or,Option.some_or]
    | first unsettled noDefault isFirst =>
      rw [noneSettled_iff.1 unsettled,noDefault_iff.1 noDefault,head?_iff.1 isFirst,Option.none_or,Option.none_or]
    | none nothing noDefault =>
      have isFirst := head?_eq_none_iff.2 nothing
      rw [List.head?_eq_none_iff.1 isFirst,noDefault_iff.1 noDefault]
      rfl

theorem selectLocalized?_eq_iff {answer : Option (Candidate × Configuration)} :
    r.selectLocalized? candidates density = answer ↔
      r.FallsBack candidates density (fun device c => r.others = [] || device.contented c) answer := by
  have settles : r.settles = fun found => r.others = [] || found.2.contented found.1 := by
    funext found
    simp only [Registry.settles,Configuration.contented,speaks,Bool.or_assoc]
  rw [← fallsBack_iff,selectLocalized?,settles]

/-- Whether a registry passes over what the default locale has, since its only device has a best candidate already,
    though in another language. -/
structure PassesOver (r : Registry) (candidates : List Candidate) (density : Option UInt16) : Prop where
  single : r.others = []
  foreign : ∃ c, select? candidates r.primary density = some c ∧ r.primary.contented c = false
  spoken : ∃ found, r.ByDefault candidates density found

theorem selectLocalized?_single {c : Candidate} (single : r.others = [])
    (best : select? candidates r.primary density = some c) :
    r.configurations.filterMap (selectFor? candidates density) = [(c,r.primary)] ∧
      r.selectLocalized? candidates density = some (c,r.primary) := by
  have one : r.configurations.filterMap (selectFor? candidates density) = [(c,r.primary)] := by
    simp [configurations,single,selectFor?,best]
  exact ⟨one,by simp [selectLocalized?,one,Registry.settles,single]⟩

/-- What is passed over is not what is answered: it is in the language of the default locale, not of the device. -/
theorem not_fallsBack_of_passesOver (passes : r.PassesOver candidates density) :
    ¬ r.FallsBack candidates density Configuration.contented (r.selectLocalized? candidates density) := by
  obtain ⟨single,⟨c,best,foreign⟩,found,isDefault⟩ := passes
  obtain ⟨one,answered⟩ := selectLocalized?_single single best
  rw [answered,← fallsBack_iff,one,byDefault_iff.1 isDefault]
  intro answer
  have isFound : found = (c,r.primary) := by simpa [foreign] using answer
  subst isFound
  obtain ⟨_,locale,_,device,spoken⟩ := isDefault
  have same : r.primary = r.primary.withLocale locale := device
  have language : r.primary.language = (r.primary.withLocale locale).language := by rw [← same]
  have contented : r.primary.contented c := by
    simp only [Configuration.contented,language,Bool.or_eq_true,decide_eq_true_eq]
    exact .inr spoken
  simp [contented] at foreign

theorem fallsBack_of_not_passesOver (passes : ¬ r.PassesOver candidates density) :
    r.FallsBack candidates density Configuration.contented (r.selectLocalized? candidates density) := by
  by_cases single : r.others = []
  · cases best : select? candidates r.primary density with
    | none =>
      have nothing : r.configurations.filterMap (selectFor? candidates density) = [] := by
        simp [configurations,single,selectFor?,best]
      rw [← fallsBack_iff,selectLocalized?,nothing]
      rfl
    | some c =>
      obtain ⟨one,answered⟩ := selectLocalized?_single single best
      rw [answered,← fallsBack_iff,one]
      cases own : r.primary.contented c with
      | true => simp [own]
      | false =>
        have noDefault : r.selectDefault? candidates density = none :=
          noDefault_iff.1 fun found isDefault => passes ⟨single,⟨c,best,own⟩,found,isDefault⟩
        simp [own,noDefault]
  · have falls := selectLocalized?_eq_iff.1 (rfl : r.selectLocalized? candidates density = _)
    simpa [single] using falls

/-- A registry falls back as it selects. It does so by the languages alone exactly if it does not pass over what its
    default locale has. -/
theorem selectLocalized?_fallsBack (r : Registry) (candidates : List Candidate) (density : Option UInt16) :
    (∀ answer, r.selectLocalized? candidates density = answer ↔
      r.FallsBack candidates density (fun device c => r.others = [] || device.contented c) answer) ∧
    (r.FallsBack candidates density Configuration.contented (r.selectLocalized? candidates density) ↔
      ¬ r.PassesOver candidates density) :=
  ⟨fun _ => selectLocalized?_eq_iff,fun falls passes => not_fallsBack_of_passesOver passes falls,
    fallsBack_of_not_passesOver⟩

/-- With a single device that speaks Italian and French to fall back on, a definition for no language is taken
    although there is one for French. -/
theorem selectLocalized?_single_device :
    let italian : LocaleCode := ⟨105,116⟩
    let french : LocaleCode := ⟨102,114⟩
    let r : Registry := { primary := { language := italian }, defaultLocale := some { language := french } }
    let candidate (language : LocaleCode) : Candidate :=
      ⟨⟨0⟩,default,⟨{ language },.value .undefined⟩,"app","string",.none⟩
    let candidates := [candidate .unset,candidate french]
    (r.selectLocalized? candidates none).map (fun found => found.1.configuration.language) = some .unset ∧
      (∃ found, r.ByDefault candidates none found ∧ found.1.configuration.language = french) ∧
      ¬ r.FallsBack candidates none Configuration.contented (r.selectLocalized? candidates none) := by
  intro italian french r candidate candidates
  -- The language that is answered, and the one that the fallback to the default locale would answer.
  have answered : (r.selectLocalized? candidates none).map (fun found => found.1.configuration.language) =
      some .unset := by decide +kernel
  have fallback : (r.selectDefault? candidates none).map (fun found => found.1.configuration.language) =
      some french := by decide +kernel
  refine ⟨answered,?_,fun falls => ?_⟩
  · obtain ⟨found,isDefault,language⟩ := Option.map_eq_some_iff.1 fallback
    exact ⟨found,byDefault_iff.2 isDefault,language⟩
  · have same := congrArg (Option.map fun found => found.1.configuration.language) (fallsBack_iff.2 falls)
    rw [answered] at same
    revert same
    decide +kernel

end Registry

end AndroidResources
