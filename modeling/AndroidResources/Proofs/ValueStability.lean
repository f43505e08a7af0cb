import Mathlib.Data.List.Induction
import AndroidResources.Proofs.CacheInvalidation
import AndroidResources.Proofs.LookupBest

/-!
# Values when the device changes

A value is told to vary over the dimensions in which the definitions of its own source differ. Where none of these
changes, it is the same after the change exactly if its definition suits the new device and is not overtaken
(`Manager.resource?_stable_iff`): no definition of another source that is meant for something else in a dimension
that changes suits the new device and is preferred. All other definitions compare with it as before
(`select?_stable_iff`).
-/
namespace AndroidResources

/-! ## The greatest member by its place -/

section
variable {α : Type} {cmp : α → α → Ordering}

theorem lastGreatest?_concat (members : List α) (y : α) : lastGreatest? cmp (members ++ [y]) =
    match lastGreatest? cmp members with
    | none => some y
    | some x => if cmp x y = .gt then some x else some y := by
  cases members with
  | nil => rfl
  | cons first rest =>
    simp only [List.cons_append,lastGreatest?,List.foldl_append,List.foldl_cons,List.foldl_nil]
    split <;> rfl

/-- The last of the greatest members is not less than those before it, and greater than those behind it. -/
theorem lastGreatest?_eq_some_iff [Std.TransCmp cmp] {members : List α} {x : α} :
    lastGreatest? cmp members = some x ↔ ∃ before after, members = before ++ x :: after ∧
      (∀ y ∈ before, (cmp y x).isLE) ∧ ∀ y ∈ after, cmp y x = .lt := by
  constructor
  · intro found
    induction members using List.reverseRecOn with
    | nil => cases found
    | append_singleton members y ih =>
      rw [lastGreatest?_concat] at found
      cases best : lastGreatest? cmp members with
      | none =>
        rw [best] at found
        obtain rfl := Option.some.inj found
        obtain rfl := lastGreatest?_eq_none_iff.1 best
        exact ⟨[],[],rfl,by simp,by simp⟩
      | some z =>
        simp only [best] at found
        split at found
        case isTrue greater =>
          obtain rfl := Option.some.inj found
          obtain ⟨before,after,rfl,not_greater,lesser⟩ := ih best
          refine ⟨before,after ++ [y],by simp,not_greater,fun w mem => ?_⟩
          rcases List.mem_append.1 mem with mem | mem
          · exact lesser w mem
          · rw [List.mem_singleton.1 mem]
            exact Std.OrientedCmp.gt_iff_lt.1 greater
        case isFalse not_greater =>
          obtain rfl := Option.some.inj found
          refine ⟨members,[],rfl,fun w mem => ?_,by simp⟩
          exact Std.TransCmp.isLE_trans (isLE_lastGreatest? best mem) (Ordering.isLE_iff_ne_gt.2 not_greater)
  · rintro ⟨before,after,rfl,not_greater,lesser⟩
    induction after using List.reverseRecOn with
    | nil =>
      rw [lastGreatest?_concat]
      cases best : lastGreatest? cmp before with
      | none => rfl
      | some z => exact if_neg (Ordering.isLE_iff_ne_gt.1 (not_greater z (lastGreatest?_mem best)))
    | append_singleton after y ih =>
      have least : cmp x y = .gt := Std.OrientedCmp.gt_iff_lt.2 (lesser y (by simp))
      rw [← List.cons_append,← List.append_assoc,lastGreatest?_concat,ih fun w mem => lesser w (by simp [mem])]
      exact if_pos least

end

/-! ## Selections for two devices -/

/-- Whether a definition takes the place of one that was selected for an old device: it stands in another source,
    is meant for something else in a dimension that changes, and is preferred among those that suit the device. -/
structure Candidate.Overtakes (old device : Configuration) (best c : Candidate) : Prop where
  foreign : c.rank ≠ best.rank
  differs : ∃ d : Dimension, d.view old ≠ d.view device ∧ d.view c.configuration ≠ d.view best.configuration
  suits : c.configuration.suits device
  preferred : Candidate.compare device c best = .gt

/-- Whether a definition that was selected for an old device still suits, and nothing takes its place. -/
structure Remains (candidates : List Candidate) (old device : Configuration) (best : Candidate) : Prop where
  suits : best.configuration.suits device
  unrivalled : ∀ c ∈ candidates, ¬ Candidate.Overtakes old device best c

section
variable {candidates : List Candidate} {old device : Configuration} {density : Option UInt16} {best : Candidate}

theorem select?_eq_some_iff : select? candidates device density = some best ↔
    ∃ before after, candidates = before ++ best :: after ∧ best.configuration.suits (device.withDensity density) ∧
      (∀ c ∈ before, c.configuration.suits (device.withDensity density) →
        (Candidate.order (device.withDensity density) c best).isLE) ∧
      ∀ c ∈ after, c.configuration.suits (device.withDensity density) →
        Candidate.order (device.withDensity density) c best = .lt := by
  rw [select?_eq_order,lastGreatest?_eq_some_iff]
  constructor
  · rintro ⟨before,after,split_at,not_greater,lesser⟩
    obtain ⟨front,back,rfl,rfl,behind⟩ := List.filter_eq_append_iff.1 split_at
    obtain ⟨skipped,later,rfl,none_suits,suits,rfl⟩ := List.filter_eq_cons_iff.1 behind
    refine ⟨front ++ skipped,later,by simp,suits,fun c mem c_suits => ?_,fun c mem c_suits => ?_⟩
    · rcases List.mem_append.1 mem with mem | mem
      · exact not_greater c (List.mem_filter.2 ⟨mem,c_suits⟩)
      · exact absurd c_suits (none_suits c mem)
    · exact lesser c (List.mem_filter.2 ⟨mem,c_suits⟩)
  · rintro ⟨before,after,rfl,suits,not_greater,lesser⟩
    refine ⟨suitable (device.withDensity density) before,suitable (device.withDensity density) after,?_,
      fun c mem => ?_,fun c mem => ?_⟩
    · simp [suitable,List.filter_append,List.filter_cons_of_pos,suits]
    · obtain ⟨mem,c_suits⟩ := mem_suitable.1 mem
      exact not_greater c mem c_suits
    · obtain ⟨mem,c_suits⟩ := mem_suitable.1 mem
      exact lesser c mem c_suits

/-- Whether a definition is meant for the same as another one in each dimension that changes. -/
def Unaffected (old device : Configuration) (best c : Candidate) : Prop :=
  ∀ d : Dimension, d.view old = d.view device ∨ d.view c.configuration = d.view best.configuration

/-- What is not affected suits the old device if it suits the new one, and compares as before. -/
theorem Unaffected.suits {c : Candidate} (unaffected : Unaffected old device best c)
    (best_suits : best.configuration.suits old) (suits : c.configuration.suits device) : c.configuration.suits old := by
  rw [Configuration.suits_iff] at *
  intro d
  rcases unaffected d with devices | definitions
  · rw [Dimension.admits_congr rfl devices]
    exact suits d
  · rw [Dimension.admits_congr definitions rfl]
    exact best_suits d

theorem Unaffected.order_eq {c : Candidate} (unaffected : Unaffected old device best c) :
    Candidate.order device c best = Candidate.order old c best := by
  have merits := compare_merits_congr unaffected
  simp only [Candidate.order,compareLex,compareOn,merits]

/-- What is selected for the new device, or the like of it, remains. -/
theorem remains_of_selected {best' : Candidate} (found : select? candidates device density = some best')
    (same : best'.identity = best.identity) : Remains candidates old (device.withDensity density) best := by
  have configuration : best'.configuration = best.configuration := congrArg (fun identity => identity.2.1) same
  refine ⟨configuration ▸ (select?_mem found).2,fun c mem overtakes => ?_⟩
  have alike : Candidate.compare (device.withDensity density) c best' =
      Candidate.compare (device.withDensity density) c best := Candidate.compare_congr rfl same
  exact compare_ne_gt_of_selected found mem overtakes.suits (alike.trans overtakes.preferred)

/-- Where the definitions of its own source are not affected, what is selected remains or is not selected again. -/
theorem select?_stable_iff (found : select? candidates old density = some best)
    (own : ∀ c ∈ candidates, c.rank = best.rank →
      Unaffected (old.withDensity density) (device.withDensity density) best c) :
    select? candidates device density = some best ↔
      Remains candidates (old.withDensity density) (device.withDensity density) best := by
  constructor
  · exact fun found' => remains_of_selected found' rfl
  · rintro ⟨suits,unrivalled⟩
    obtain ⟨before,after,split_at,old_suits,not_greater,lesser⟩ := select?_eq_some_iff.1 found
    -- What is affected stands in another source, so that it would overtake if it were greater.
    have below {c : Candidate} (mem : c ∈ candidates) (c_suits : c.configuration.suits (device.withDensity density))
        (affected : ¬ Unaffected (old.withDensity density) (device.withDensity density) best c) :
        Candidate.order (device.withDensity density) c best = .lt := by
      have differs : ∃ d : Dimension, d.view (old.withDensity density) ≠ d.view (device.withDensity density) ∧
          d.view c.configuration ≠ d.view best.configuration := by
        simpa [Unaffected] using affected
      have foreign : c.rank ≠ best.rank := fun same => affected (own c mem same)
      have not_greater : Candidate.order (device.withDensity density) c best ≠ .gt := fun greater =>
        unrivalled c mem ⟨foreign,differs,c_suits,(Candidate.compare_eq_order c_suits suits).trans greater⟩
      have unequal : Candidate.order (device.withDensity density) c best ≠ .eq := fun same =>
        foreign (congrArg Prod.fst (Candidate.identity_of_order same))
      cases order : Candidate.order (device.withDensity density) c best with
      | lt => rfl
      | eq => exact absurd order unequal
      | gt => exact absurd order not_greater
    refine select?_eq_some_iff.2 ⟨before,after,split_at,suits,fun c mem c_suits => ?_,fun c mem c_suits => ?_⟩
    · by_cases unaffected : Unaffected (old.withDensity density) (device.withDensity density) best c
      · rw [unaffected.order_eq]
        exact not_greater c mem (unaffected.suits old_suits c_suits)
      · exact Ordering.isLE_of_eq_lt (below (split_at ▸ by simp [mem]) c_suits unaffected)
    · by_cases unaffected : Unaffected (old.withDensity density) (device.withDensity density) best c
      · rw [unaffected.order_eq]
        exact lesser c mem (unaffected.suits old_suits c_suits)
      · exact below (split_at ▸ by simp [mem]) c_suits unaffected

end

/-! ## One source -/

namespace Registry
variable {r : Registry} {id : ResourceId}

theorem cookieAt_injective {i j : Nat} (i_small : i < 0x100000000) (j_small : j < 0x100000000)
    (same : r.cookieAt i = r.cookieAt j) : i = j := by
  have numbers : UInt32.ofNat i = UInt32.ofNat j := (UInt32.add_right_inj _).1 (congrArg Cookie.number same)
  have values := congrArg UInt32.toNat numbers
  rwa [UInt32.toNat_ofNat_of_lt' i_small,UInt32.toNat_ofNat_of_lt' j_small] at values

/-- As long as there are no more sources than cookies, candidates with the same cookie have the same rank. -/
theorem rank_eq_of_cookie (room : r.sources.length ≤ 0x100000000) {a b : Candidate} (a_mem : a ∈ r.candidates id)
    (b_mem : b ∈ r.candidates id) (same : a.cookie = b.cookie) : a.rank = b.rank := by
  obtain ⟨i,s,at_i,_,a_cookie,a_rank⟩ := offers_of_mem a_mem
  obtain ⟨j,t,at_j,_,b_cookie,b_rank⟩ := offers_of_mem b_mem
  have i_lt := (List.getElem?_eq_some_iff.1 at_i).1
  have j_lt := (List.getElem?_eq_some_iff.1 at_j).1
  obtain rfl : i = j :=
    cookieAt_injective (by omega) (by omega) (a_cookie.symm.trans (same.trans b_cookie))
  obtain rfl := Option.some.inj (at_i.symm.trans at_j)
  rw [a_rank,b_rank]

/-- A candidate's source has no definition that is affected by what the candidate does not vary over. -/
theorem unaffected_of_rank {old device : Configuration} (density : Option UInt16) {a b : Candidate}
    (a_mem : a ∈ r.candidates id) (b_mem : b ∈ r.candidates id) (disjoint : ¬ b.changes.intersects (old.diff device))
    (same : a.rank = b.rank) : Unaffected (old.withDensity density) (device.withDensity density) b a := by
  obtain ⟨p,p_mem,_,a_mem⟩ := mem_candidates_iff.1 a_mem
  obtain ⟨q,q_mem,_,b_mem⟩ := mem_candidates_iff.1 b_mem
  obtain ⟨entry,isEntry,a_definition,_,a_rank,_⟩ := entry_of_candidate a_mem
  obtain ⟨entry',isEntry',b_definition,_,b_rank,_,changes⟩ := entry_of_candidate b_mem
  obtain rfl := eq_of_position p_mem q_mem (congrArg Rank.position (a_rank.symm.trans (same.trans b_rank)))
  obtain rfl := Option.some.inj (isEntry.symm.trans isEntry')
  intro d
  by_contra affected
  obtain ⟨devices,definitions⟩ := not_or.1 affected
  have changed : (old.diff device).includes d := decide_eq_true (Dimension.view_withDensity density devices)
  have constant : ¬ (variation entry.definitions).includes d := fun varies =>
    disjoint (Changes.intersects_iff.2 ⟨d,changes ▸ varies,changed⟩)
  exact definitions (view_eq_of_not_variation constant a_definition b_definition)

/-- A resource is the definition that is selected, unless that is a bag and must not be one. -/
theorem Single.resource?_eq_some_iff (single : r.Single) {mayBeBag : Bool} {density : Option UInt16} {s : Selected} :
    r.resource? id mayBeBag density = some s ↔ id.isValid ∧ ∃ best,
      select? (r.candidates id) r.primary density = some best ∧ (best.definition.content.isBag → mayBeBag) ∧
        selectedOf id best = s := by
  rw [resource?,selected?]
  cases isFound : r.find? id density with
  | none =>
    have nothing : ¬ (id.isValid ∧ ∃ best, select? (r.candidates id) r.primary density = some best) := by
      rintro ⟨valid,best,selected⟩
      have isBest : r.find? id density = some (best,r.primary) := single.find?_eq_some_iff.2 ⟨valid,selected,rfl⟩
      rw [isFound] at isBest
      cases isBest
    constructor
    · intro found
      cases found
    · rintro ⟨valid,best,selected,_⟩
      exact absurd ⟨valid,best,selected⟩ nothing
  | some found =>
    obtain ⟨valid,selected,_⟩ := single.find?_eq_some_iff.1 isFound
    simp [valid,selected]

end Registry

/-! ## Changing the device -/

namespace Manager

/-- With one device and no default locale, a value that is not told to vary over what changes is found again for the
    new device, in the same source and for the same configuration, exactly if its definition suits that device and is
    not overtaken by one of another source. All of the answer is then as before. -/
theorem resource?_stable_iff {m : Manager} (single : m.registry.Single) (room : m.registry.sources.length ≤ 0x100000000)
    {id : ResourceId} {mayBeBag : Bool} {density : Option UInt16} {s : Selected}
    (found : (m.resource? id mayBeBag density).1 = some s) {device : Configuration}
    (disjoint : ¬ s.changes.intersects (m.registry.primary.diff device)) (refresh : Bool) :
    ∃ best m', m.registry.find? id density = some (best,m.registry.primary) ∧ s = Registry.selectedOf id best ∧
      m.setConfigurations [device] refresh = .ok m' ∧
      let remains := Remains (m.registry.candidates id) (m.registry.primary.withDensity density)
        (device.withDensity density) best
      ((∃ s', (m'.resource? id mayBeBag density).1 = some s' ∧ s'.value = s.value ∧ s'.cookie = s.cookie ∧
        s'.configuration = s.configuration) ↔ remains) ∧
      (remains → (m'.resource? id mayBeBag density).1 = some s) := by
  obtain ⟨valid,best,selected,allowed,rfl⟩ := single.resource?_eq_some_iff.1 found
  have best_mem := (select?_mem selected).1
  let r' : Registry := { m.registry with primary := device, others := [] }
  have single' : r'.Single := ⟨rfl,single.noDefault⟩
  have own : ∀ c ∈ m.registry.candidates id, c.rank = best.rank →
      Unaffected (m.registry.primary.withDensity density) (device.withDensity density) best c :=
    fun c mem same => Registry.unaffected_of_rank density mem best_mem disjoint same
  have again (remains : Remains (m.registry.candidates id) (m.registry.primary.withDensity density)
      (device.withDensity density) best) : r'.resource? id mayBeBag density = some (Registry.selectedOf id best) :=
    single'.resource?_eq_some_iff.2 ⟨valid,best,(select?_stable_iff selected own).2 remains,allowed,rfl⟩
  refine ⟨best,_,single.find?_eq_some_iff.2 ⟨valid,selected,rfl⟩,rfl,rfl,⟨?_,fun remains => ?_⟩,again⟩
  · rintro ⟨s',found',_,cookie,configuration⟩
    obtain ⟨_,best',selected',_,rfl⟩ := single'.resource?_eq_some_iff.1 found'
    have rank : best'.rank = best.rank :=
      Registry.rank_eq_of_cookie room (select?_mem selected').1 best_mem cookie
    have same : best'.identity = best.identity := by
      rw [Candidate.identity,rank,show best'.configuration = best.configuration from configuration,
        show best'.cookie = best.cookie from cookie]
      rfl
    exact remains_of_selected selected' same
  · exact ⟨_,again remains,rfl,rfl,rfl⟩

/-- A value for every device remains when the device is turned. -/
theorem resource?_stable_plain :
    let number : Definition := ⟨{},.value ⟨.decimal,1⟩⟩
    let table : Table :=
      { packages := .ofList [(0x7f,"app")], entries := .ofList [(0x7f010000,⟨⟨"app","integer","n"⟩,[number]⟩)] }
    let m : Manager := { registry := { sources := [{ path := "a", table }], primary := { orientation := 2 } } }
    m.registry.Single ∧ m.registry.sources.length ≤ 0x100000000 ∧
      ∃ s m', (m.resource? 0x7f010000 true none).1 = some s ∧
        ¬ s.changes.intersects (m.registry.primary.diff { orientation := 1 }) ∧
        m.setConfigurations [{ orientation := 1 }] false = .ok m' ∧ (m'.resource? 0x7f010000 true none).1 = some s := by
  intro number table m
  have single : m.registry.Single := ⟨rfl,rfl⟩
  have room : m.registry.sources.length ≤ 0x100000000 := by decide
  have answer : (m.resource? 0x7f010000 true none).1.map (fun s =>
      s.changes.intersects (m.registry.primary.diff { orientation := 1 })) = some false := by decide +kernel
  have everywhere : ∀ c ∈ m.registry.candidates 0x7f010000,
      c.rank = ⟨true,0⟩ ∧ c.configuration.suits { orientation := 1 } := by decide +kernel
  obtain ⟨s,found,apart⟩ := Option.map_eq_some_iff.1 answer
  have disjoint : ¬ s.changes.intersects (m.registry.primary.diff { orientation := 1 }) := by simp [apart]
  obtain ⟨best,m',isBest,_,changed,_,again⟩ := resource?_stable_iff single room found disjoint false
  have mem := (select?_mem (single.find?_eq_some_iff.1 isBest).2.1).1
  refine ⟨single,room,s,m',found,disjoint,changed,again ⟨(everywhere best mem).2,fun c c_mem overtakes => ?_⟩⟩
  exact overtakes.foreign ((everywhere c c_mem).1.trans (everywhere best mem).1.symm)

/-- A value for landscape alone is gone when the device is turned, and one for portrait in a later source takes the
    place of one for every device, though neither value is told to vary over the orientation. -/
theorem resource?_lost_turned :
    let number (orientation : UInt8) (data : UInt32) : Definition := ⟨{ orientation },.value ⟨.decimal,data⟩⟩
    let source (d : Definition) : Source :=
      { path := "a"
        table :=
          { packages := .ofList [(0x7f,"app")], entries := .ofList [(0x7f010000,⟨⟨"app","integer","n"⟩,[d]⟩)] } }
    let manager (sources : List Source) : Manager := { registry := { sources, primary := { orientation := 2 } } }
    let turned (m : Manager) : Option Manager := (m.setConfigurations [{ orientation := 1 }] false).toOption
    let answer (m : Manager) : Option (Value × Bool) := (m.resource? 0x7f010000 true none).1.map fun s =>
      (s.value,s.changes.intersects (Configuration.diff { orientation := 2 } { orientation := 1 }))
    let lone := manager [source (number 2 1)]
    let rivals := manager [source (number 0 1),source (number 1 2)]
    (lone.registry.Single ∧ answer lone = some (⟨.decimal,1⟩,false) ∧ (turned lone).map answer = some none) ∧
      rivals.registry.Single ∧ answer rivals = some (⟨.decimal,1⟩,false) ∧
        (turned rivals).map answer = some (some (⟨.decimal,2⟩,false)) := by
  intro number source manager turned answer lone rivals
  refine ⟨⟨⟨rfl,rfl⟩,?_,?_⟩,⟨rfl,rfl⟩,?_,?_⟩ <;> decide +kernel

end Manager

end AndroidResources
