import Mathlib.Data.List.Pairwise
import AndroidResources.Proofs.ConfigurationMerit
import AndroidResources.Proofs.BagComposition

/-!
# Selection as the greatest of a total order

Candidates that suit a device are compared in a total order: by their merits, their ranks, their
configurations and their cookies (`Candidate.compare_eq_order`). So among candidates that differ in one of the
last three, one is greater than all others, and it is selected in whatever order the candidates come.
-/
namespace AndroidResources

/-! ## The greatest member in a total order -/

section
variable {α : Type} {cmp : α → α → Ordering} [Std.TransCmp cmp]

/-- A scan ends with a member that no member is greater than. -/
theorem isLE_scan (first : α) (rest : List α) {x : α} (mem : x ∈ first :: rest) :
    (cmp x (rest.foldl (fun best next => if cmp best next = .gt then best else next) first)).isLE := by
  induction rest generalizing first x with
  | nil =>
    obtain rfl := List.mem_singleton.1 mem
    exact Std.ReflCmp.isLE_rfl
  | cons next rest ih =>
    rw [List.foldl_cons]
    by_cases keeps : cmp first next = .gt
    · rw [if_pos keeps]
      have next_le : (cmp next first).isLE := Ordering.isLE_of_eq_lt (Std.OrientedCmp.gt_iff_lt.1 keeps)
      have first_le := ih first (List.mem_cons_self)
      rcases List.mem_cons.1 mem with rfl | mem
      · exact first_le
      · rcases List.mem_cons.1 mem with rfl | mem
        · exact Std.TransCmp.isLE_trans next_le first_le
        · exact ih first (List.mem_cons_of_mem _ mem)
    · rw [if_neg keeps]
      rcases List.mem_cons.1 mem with rfl | mem
      · exact Std.TransCmp.isLE_trans (Ordering.isLE_iff_ne_gt.2 keeps) (ih next List.mem_cons_self)
      · exact ih next mem

theorem isLE_lastGreatest? {members : List α} {best x : α} (found : lastGreatest? cmp members = some best)
    (mem : x ∈ members) : (cmp x best).isLE := by
  cases members with
  | nil => cases mem
  | cons first rest =>
    obtain rfl := Option.some.inj found
    exact isLE_scan first rest mem

/-- Where no two members are equal in the order, the greatest one does not depend on the order of the list. -/
theorem lastGreatest?_perm {members members' : List α}
    (distinct : ∀ x ∈ members, ∀ y ∈ members, cmp x y = .eq → x = y) (perm : members'.Perm members) :
    lastGreatest? cmp members' = lastGreatest? cmp members := by
  cases found : lastGreatest? cmp members with
  | none =>
    have empty := lastGreatest?_eq_none_iff.1 found
    subst empty
    rw [lastGreatest?_eq_none_iff]
    exact perm.eq_nil
  | some x =>
    have x_mem := lastGreatest?_mem found
    cases found' : lastGreatest? cmp members' with
    | none =>
      have empty := lastGreatest?_eq_none_iff.1 found'
      subst empty
      cases perm.mem_iff.2 x_mem
    | some y =>
      have y_mem := perm.mem_iff.1 (lastGreatest?_mem found')
      -- Neither of the two is greater than the other.
      have y_le := isLE_lastGreatest? found y_mem
      have x_le := isLE_lastGreatest? found' (perm.mem_iff.2 x_mem)
      exact congrArg some (distinct y y_mem x x_mem (Std.OrientedCmp.isLE_antisymm y_le x_le))

end

/-! ## The order of candidates -/

instance : Std.TransOrd Cookie :=
  inferInstanceAs (Std.TransCmp (compareOn Cookie.number))

instance : Std.LawfulEqOrd Cookie where
  eq_of_compare {a b} same := by
    rcases a with ⟨_⟩
    rcases b with ⟨_⟩
    exact congrArg Cookie.mk (Std.LawfulEqOrd.eq_of_compare same)

namespace Candidate

/-- What no two candidates for a resource share. -/
def identity (c : Candidate) : Rank × Configuration × Cookie :=
  (c.rank,c.configuration,c.cookie)

/-- The order of candidates that suit a device. -/
def order (device : Configuration) : Candidate → Candidate → Ordering :=
  compareLex (compareOn fun c => device.merits c.configuration)
    (compareLex (compareOn rank) (compareLex (compareOn configuration) (compareOn cookie)))

instance (device : Configuration) : Std.TransCmp (order device) :=
  inferInstanceAs (Std.TransCmp (compareLex _ _))

/-- Candidates that suit a device compare in the order of merits, ranks, configurations and cookies. -/
theorem compare_eq_order {device : Configuration} {a b : Candidate} (suits_a : a.configuration.suits device)
    (suits_b : b.configuration.suits device) : compare device a b = order device a b := by
  have better_a := Configuration.isBetter_iff suits_a suits_b
  have swapped : Ord.compare (device.merits b.configuration) (device.merits a.configuration) = .gt ↔
      Ord.compare (device.merits a.configuration) (device.merits b.configuration) = .lt :=
    Std.OrientedCmp.gt_iff_lt
  have better_b := (Configuration.isBetter_iff suits_b suits_a).trans swapped
  have unfolded : order device a b =
      (Ord.compare (device.merits a.configuration) (device.merits b.configuration)).then
        ((Ord.compare a.rank b.rank).then
          ((Ord.compare a.configuration b.configuration).then (Ord.compare a.cookie b.cookie))) := rfl
  rw [unfolded,compare]
  cases merits : Ord.compare (device.merits a.configuration) (device.merits b.configuration) with
  | lt =>
    rw [if_neg (by simp [better_a,merits]),if_pos (better_b.2 merits)]
    rfl
  | gt =>
    rw [if_pos (better_a.2 merits)]
    rfl
  | eq =>
    rw [if_neg (by simp [better_a,merits]),if_neg (by simp [better_b,merits])]
    rfl

theorem identity_of_order {device : Configuration} {a b : Candidate} (same : order device a b = .eq) :
    a.identity = b.identity := by
  obtain ⟨_,ranks,configurations,cookies⟩ :
      _ ∧ Ord.compare a.rank b.rank = .eq ∧ Ord.compare a.configuration b.configuration = .eq ∧
        Ord.compare a.cookie b.cookie = .eq := by
    simpa [order,compareLex,compareOn,Ordering.then_eq_eq] using same
  simp only [identity]
  rw [Std.LawfulEqOrd.eq_of_compare ranks,Std.LawfulEqOrd.eq_of_compare configurations,
    Std.LawfulEqOrd.eq_of_compare cookies]

end Candidate

/-! ## Selections -/

theorem mem_suitable {device : Configuration} {candidates : List Candidate} {c : Candidate} :
    c ∈ suitable device candidates ↔ c ∈ candidates ∧ c.configuration.suits device := by
  simp [suitable]

/-- The candidate that is selected is the greatest in the order of those that suit the device. -/
theorem select?_eq_order (candidates : List Candidate) (device : Configuration) (density : Option UInt16) :
    select? candidates device density =
      lastGreatest? (Candidate.order (device.withDensity density))
        (suitable (device.withDensity density) candidates) := by
  apply lastGreatest?_congr
  intro a a_mem b b_mem
  exact Candidate.compare_eq_order (mem_suitable.1 a_mem).2 (mem_suitable.1 b_mem).2

section
variable {candidates : List Candidate}

theorem eq_of_identity (distinct : candidates.Pairwise fun a b => a.identity ≠ b.identity) {a b : Candidate}
    (a_mem : a ∈ candidates) (b_mem : b ∈ candidates) (same : a.identity = b.identity) : a = b := by
  have : Std.Symm fun a b : Candidate => a.identity ≠ b.identity := ⟨fun _ _ => Ne.symm⟩
  by_contra differ
  exact distinct.forall a_mem b_mem differ same

/-- What is selected is preferred to every other candidate that suits the device. -/
theorem compare_selected {device : Configuration} {density : Option UInt16} {best c : Candidate}
    (distinct : candidates.Pairwise fun a b => a.identity ≠ b.identity)
    (found : select? candidates device density = some best) (mem : c ∈ candidates)
    (suits : c.configuration.suits (device.withDensity density)) (differ : c ≠ best) :
    Candidate.compare (device.withDensity density) best c = .gt := by
  obtain ⟨best_mem,best_suits⟩ := select?_mem found
  rw [select?_eq_order] at found
  have c_le := isLE_lastGreatest? found (mem_suitable.2 ⟨mem,suits⟩)
  have unequal : Candidate.order (device.withDensity density) c best ≠ .eq := fun same =>
    differ (eq_of_identity distinct mem best_mem (Candidate.identity_of_order same))
  rw [Candidate.compare_eq_order best_suits suits,Std.OrientedCmp.gt_iff_lt]
  exact (Ordering.isLE_iff_eq_lt_or_eq_eq.1 c_le).resolve_right unequal

/-- A selection does not depend on the order of the candidates. -/
theorem select?_perm {permuted : List Candidate} (device : Configuration) (density : Option UInt16)
    (distinct : candidates.Pairwise fun a b => a.identity ≠ b.identity) (perm : permuted.Perm candidates) :
    select? permuted device density = select? candidates device density := by
  rw [select?_eq_order,select?_eq_order]
  refine lastGreatest?_perm (fun x x_mem y y_mem same => ?_) (perm.filter _)
  exact eq_of_identity distinct (mem_suitable.1 x_mem).1 (mem_suitable.1 y_mem).1 (Candidate.identity_of_order same)

/-- Of candidates that differ in rank, configuration or cookie, a selection takes the one that is preferred to
    all others that suit the device, in whatever order they come, and none only if none suits it. -/
theorem select?_greatest (device : Configuration) (density : Option UInt16)
    (distinct : candidates.Pairwise fun a b => a.identity ≠ b.identity) :
    (select? candidates device density = none ↔
        ∀ c ∈ candidates, ¬ c.configuration.suits (device.withDensity density)) ∧
      (∀ best, select? candidates device density = some best →
        best ∈ candidates ∧ best.configuration.suits (device.withDensity density) ∧
          ∀ c ∈ candidates, c.configuration.suits (device.withDensity density) → c ≠ best →
            Candidate.compare (device.withDensity density) best c = .gt) ∧
      ∀ permuted, permuted.Perm candidates →
        select? permuted device density = select? candidates device density := by
  refine ⟨select?_eq_none_iff,fun best found => ?_,fun permuted perm => select?_perm device density distinct perm⟩
  obtain ⟨mem,suits⟩ := select?_mem found
  exact ⟨mem,suits,fun c c_mem c_suits differ => compare_selected distinct found c_mem c_suits differ⟩

end

/-- Of a definition without qualifiers and one for landscape, a device in landscape gets the second one, in
    whatever order they come. -/
theorem select?_greatest_landscape :
    let plain : Candidate := { cookie := ⟨0⟩, rank := ⟨true,0⟩, definition := ⟨{},.value .empty⟩ }
    let landscape : Candidate :=
      { cookie := ⟨0⟩, rank := ⟨true,0⟩, definition := ⟨{ orientation := 2 },.value .empty⟩ }
    ∀ permuted, permuted.Perm [plain,landscape] →
      (select? permuted { orientation := 2 } none).map Candidate.configuration = some { orientation := 2 } := by
  intro plain landscape permuted perm
  have distinct : [plain,landscape].Pairwise fun a b => a.identity ≠ b.identity := by decide
  rw [(select?_greatest { orientation := 2 } none distinct).2.2 permuted perm]
  decide +kernel

/-! ## Sources by rank -/

namespace Registry
variable {r : Registry}

theorem placed_ascending : r.placed.Pairwise fun p q => p.rank.position < q.rank.position := by
  have positions : r.placed.map (fun p => p.rank.position) = r.sources.zipIdx.map Prod.snd := by
    rw [placed,List.map_map]
    rfl
  rw [← List.pairwise_map (f := fun p : Placed => p.rank.position) (R := (· < ·)),positions,List.zipIdx_map_snd]
  exact List.pairwise_lt_range'

/-- The sources are put in ascending order of their ranks. -/
theorem byRank_ascending : r.byRank.Pairwise fun a b => compare a.rank b.rank = .lt := by
  have among (preferred : Bool) : (r.placed.filter fun p => p.rank.preferred = preferred).Pairwise
      fun a b => compare a.rank b.rank = .lt := by
    refine (placed_ascending.filter _).imp_of_mem fun {a b} a_mem b_mem less => ?_
    have a_side : a.rank.preferred = preferred := by simpa using (List.mem_filter.1 a_mem).2
    have b_side : b.rank.preferred = preferred := by simpa using (List.mem_filter.1 b_mem).2
    show (compare a.rank.preferred b.rank.preferred).then (compare a.rank.position b.rank.position) = .lt
    rw [a_side,b_side,Std.ReflOrd.compare_self,Nat.compare_eq_lt.2 less]
    rfl
  have behind := among false
  have ahead := among true
  simp only [Bool.decide_eq_false,Bool.decide_eq_true] at behind ahead
  refine List.pairwise_append.2 ⟨behind,ahead,fun a a_mem b b_mem => ?_⟩
  have a_behind : a.rank.preferred = false := by simpa using (List.mem_filter.1 a_mem).2
  have b_preferred : b.rank.preferred = true := (List.mem_filter.1 b_mem).2
  show (compare a.rank.preferred b.rank.preferred).then (compare a.rank.position b.rank.position) = .lt
  rw [a_behind,b_preferred]
  rfl

/-- No two sources have the same rank. -/
theorem byRank_pairwise : r.byRank.Pairwise fun a b => a.rank ≠ b.rank := by
  refine byRank_ascending.imp fun less same => ?_
  rw [same,Std.ReflOrd.compare_self] at less
  cases less

end Registry

end AndroidResources
