import Mathlib.Data.List.Chain
import AndroidResources.Proofs.BagEntries

/-!
# Bags and their ancestors

Two walks go up from a bag to its parents: the look-up of the bag, and the list of the bag and its parents. Both
come to an end (`BagCache.resolves_iff`, `Registry.climbs_iff`), as a walk has each bag once and only bags with
layers have parents. They agree (`Manager.bag?_stack`): there is a bag exactly if the list ends with one that
declares no parent, and then the entries come from the bags of the list.
-/
namespace AndroidResources

namespace Registry
variable {r : Registry} {id : ResourceId} {ids visited : List ResourceId}

/-! ## Parents -/

/-- The parent that a bag declares in its layer on top, zero standing for none. -/
def parent? (r : Registry) (id : ResourceId) : Option ResourceId :=
  (r.layers id).getLast?.map Layer.parent

/-- What stands some generations above a bag. -/
def ancestor? (r : Registry) : (generations : Nat) → ResourceId → Option ResourceId
  | 0, id => some id
  | n + 1, id => (r.parent? id).bind (r.ancestor? n)

/-- Whether the parents of a bag come back to one that was there before. -/
def Revisits (r : Registry) (id : ResourceId) : Prop :=
  ∃ i j x, i < j ∧ r.ancestor? i id = some x ∧ r.ancestor? j id = some x

/-- Whether ids are those of a bag and its parents in order, each of them once. -/
structure Line (r : Registry) (id : ResourceId) (ids : List ResourceId) : Prop where
  distinct : ids.Nodup
  first : ids.head? = some id
  linked : ids.IsChain fun child parent => r.parent? child = some parent

theorem parent?_of_top {top : Layer} (isTop : (r.layers id).getLast? = some top) : r.parent? id = some top.parent := by
  rw [parent?,isTop,Option.map_some]

theorem parent?_of_no_top (noTop : (r.layers id).getLast? = none) : r.parent? id = none := by
  rw [parent?,noTop,Option.map_none]

/-- Zero stands for no bag. -/
theorem parent?_zero : r.parent? 0 = none := by
  have invalid : ResourceId.isValid 0 = false := by decide
  simp [parent?,layers,invalid]

theorem ancestor?_of_no_parent (noParent : r.parent? id = none) {n : Nat} {x : ResourceId}
    (above : r.ancestor? n id = some x) : x = id := by
  cases n with
  | zero => exact (Option.some.inj above).symm
  | succ n => simp [ancestor?,noParent] at above

theorem ancestor?_succ_of_top {top : Layer} (isTop : (r.layers id).getLast? = some top) (n : Nat) :
    r.ancestor? (n + 1) id = r.ancestor? n top.parent := by
  rw [ancestor?,parent?_of_top isTop,Option.bind_some]

theorem ancestor?_add (m n : Nat) (id : ResourceId) :
    r.ancestor? (m + n) id = (r.ancestor? m id).bind (r.ancestor? n) := by
  induction m generalizing id with
  | zero => rw [Nat.zero_add,ancestor?,Option.bind_some]
  | succ m ih =>
    rw [Nat.add_right_comm,ancestor?,ancestor?,Option.bind_assoc]
    exact Option.bind_congr fun parent _ => ih parent

/-! ## The bags that a walk went through -/

/-- Whether the bags that a walk went through are different, and all of them have layers. -/
structure Visited (r : Registry) (visited : List ResourceId) : Prop where
  distinct : visited.Nodup
  layered : ∀ x ∈ visited, ∃ top, (r.layers x).getLast? = some top

theorem Visited.nil : r.Visited [] :=
  ⟨.nil,fun _ mem => absurd mem List.not_mem_nil⟩

theorem Visited.cons (seen : r.Visited visited) (fresh : id ∉ visited) {top : Layer}
    (isTop : (r.layers id).getLast? = some top) : r.Visited (id :: visited) := by
  refine ⟨List.nodup_cons.2 ⟨fresh,seen.distinct⟩,fun x mem => ?_⟩
  rcases List.mem_cons.1 mem with rfl | mem
  · exact ⟨top,isTop⟩
  · exact seen.layered x mem

/-- A walk goes through no more bags than there are ids. -/
theorem Visited.length_le (seen : r.Visited visited) : visited.length ≤ r.idCount := by
  refine seen.distinct.length_le_of_subset fun x mem => ?_
  obtain ⟨top,isTop⟩ := seen.layered x mem
  exact mem_keys_of_layer (List.mem_of_getLast? isTop)

/-- As long as there are as many steps as ids, there is one to take. -/
theorem Visited.fuel_eq (seen : r.Visited visited) {fuel : Nat} (enough : r.idCount + 1 ≤ fuel + visited.length) :
    ∃ rest, fuel = rest + 1 := by
  have short := seen.length_le
  exact ⟨fuel - 1,by omega⟩

/-! ## The list of a bag and its parents -/

/-- What a walk from a bag to its parents lists, however long it takes. -/
inductive Climbs (r : Registry) : (visited : List ResourceId) → ResourceId →
    Except ResourceError (List ResourceId) → Prop
  | none {visited : List ResourceId} : r.Climbs visited 0 (.ok [])
  | cycle {visited : List ResourceId} {id : ResourceId} : id ≠ 0 → id ∈ visited →
      r.Climbs visited id (.error (.cyclicParents id))
  | missing {visited : List ResourceId} {id : ResourceId} : id ≠ 0 → id ∉ visited →
      (r.layers id).getLast? = .none → r.Climbs visited id (.ok [])
  | step {visited : List ResourceId} {id : ResourceId} {top : Layer} {result : Except ResourceError (List ResourceId)} :
      id ≠ 0 → id ∉ visited → (r.layers id).getLast? = some top → r.Climbs (id :: visited) top.parent result →
      r.Climbs visited id (result.map (id :: ·))

/-- A walk with enough steps comes to its end. -/
theorem stackWithin_climbs (fuel : Nat) (seen : r.Visited visited) (enough : r.idCount + 1 ≤ fuel + visited.length) :
    r.Climbs visited id (r.stackWithin fuel visited id) := by
  induction fuel generalizing visited id with
  | zero =>
    have short := seen.length_le
    omega
  | succ fuel ih =>
    rw [stackWithin]
    by_cases none : id = 0
    · rw [if_pos none]
      exact none ▸ .none
    · rw [if_neg none]
      by_cases cyclic : id ∈ visited
      · rw [if_pos cyclic]
        exact .cycle none cyclic
      · rw [if_neg cyclic]
        cases isTop : (r.layers id).getLast? with
        | none => exact .missing none cyclic isTop
        | some top =>
          have longer : r.idCount + 1 ≤ fuel + (id :: visited).length := by
            rw [List.length_cons]
            omega
          exact .step none cyclic isTop (ih (seen.cons cyclic isTop) longer)

/-- There is one end that a walk can come to. -/
theorem Climbs.eq_stackWithin {result : Except ResourceError (List ResourceId)} (climbs : r.Climbs visited id result)
    (fuel : Nat) (seen : r.Visited visited) (enough : r.idCount + 1 ≤ fuel + visited.length) :
    result = r.stackWithin fuel visited id := by
  induction climbs generalizing fuel with
  | none => cases fuel <;> rfl
  | cycle some cyclic =>
    obtain ⟨fuel,rfl⟩ := seen.fuel_eq enough
    rw [stackWithin,if_neg some,if_pos cyclic]
  | missing some fresh noTop =>
    obtain ⟨fuel,rfl⟩ := seen.fuel_eq enough
    rw [stackWithin,if_neg some,if_neg fresh,noTop]
  | step some fresh isTop _ ih =>
    obtain ⟨fuel,rfl⟩ := seen.fuel_eq enough
    rw [stackWithin,if_neg some,if_neg fresh,isTop,ih fuel (seen.cons fresh isTop) (by rw [List.length_cons]; omega)]

/-- The walk to the parents comes to an end, with the list that is found. -/
theorem climbs_iff {result : Except ResourceError (List ResourceId)} :
    r.Climbs [] id result ↔ result = r.stack id := by
  constructor
  · intro climbs
    exact climbs.eq_stackWithin _ .nil (Nat.le_add_right _ _)
  · rintro rfl
    exact stackWithin_climbs _ .nil (Nat.le_add_right _ _)

/-! ### A list that is found -/

/-- The ids of a list are new, start with the bag, and each one is the parent of the one before. -/
theorem Climbs.listed {result : Except ResourceError (List ResourceId)} (climbs : r.Climbs visited id result)
    (found : result = .ok ids) : (∀ x ∈ ids, x ∉ visited) ∧ ids.Nodup ∧ (∀ x ∈ ids.head?, x = id) ∧
      ids.IsChain fun child parent => r.parent? child = some parent := by
  induction climbs generalizing ids with
  | none | missing =>
    obtain rfl := Except.ok.inj found
    simp
  | cycle => cases found
  | @step visited id top result _ fresh isTop _ ih =>
    cases result with
    | error => cases found
    | ok rest =>
      obtain rfl := Except.ok.inj found
      obtain ⟨new,distinct,first,linked⟩ := ih rfl
      refine ⟨?_,?_,?_,?_⟩
      · intro x mem
        rcases List.mem_cons.1 mem with rfl | mem
        · exact fresh
        · exact fun before => new x mem (List.mem_cons_of_mem _ before)
      · exact List.nodup_cons.2 ⟨fun mem => new id mem List.mem_cons_self,distinct⟩
      · simp
      · refine List.isChain_cons.2 ⟨fun parent mem => ?_,linked⟩
        rw [parent?_of_top isTop,first parent mem]

/-- A bag with layers stands in the list in its generation. -/
theorem Climbs.getElem?_eq {result : Except ResourceError (List ResourceId)} (climbs : r.Climbs visited id result)
    (found : result = .ok ids) {n : Nat} {x : ResourceId} (above : r.ancestor? n id = some x)
    (layered : (r.parent? x).isSome) : ids[n]? = some x := by
  induction climbs generalizing ids n with
  | none => simp [ancestor?_of_no_parent parent?_zero above,parent?_zero] at layered
  | missing _ _ noTop =>
    have noParent := parent?_of_no_top noTop
    simp [ancestor?_of_no_parent noParent above,noParent] at layered
  | cycle => cases found
  | @step visited id top result _ fresh isTop _ ih =>
    cases result with
    | error => cases found
    | ok rest =>
      obtain rfl := Except.ok.inj found
      cases n with
      | zero => simpa [ancestor?] using above
      | succ n =>
        rw [ancestor?_succ_of_top isTop] at above
        exact ih rfl above

/-- Where there is a list, no parent is there twice. -/
theorem Climbs.not_revisits (climbs : r.Climbs [] id (.ok ids)) : ¬ r.Revisits id := by
  rintro ⟨i,j,x,before,at_i,at_j⟩
  -- What is there again has layers, or it would have been the last one.
  have layered : (r.parent? x).isSome := by
    obtain ⟨k,rfl⟩ := Nat.exists_eq_add_of_lt before
    rw [Nat.add_assoc,ancestor?_add,at_i,Option.bind_some,ancestor?] at at_j
    obtain ⟨parent,isParent,_⟩ := Option.bind_eq_some_iff.1 at_j
    rw [isParent,Option.isSome_some]
  have first := climbs.getElem?_eq rfl at_i layered
  have second := climbs.getElem?_eq rfl at_j layered
  have inside := (List.getElem?_eq_some_iff.1 first).1
  exact Nat.ne_of_lt before ((List.getElem?_inj inside (climbs.listed rfl).2.1).1 (first.trans second.symm))

/-- A walk that fails names a bag that is there for the second time. -/
theorem Climbs.error_eq {result : Except ResourceError (List ResourceId)} (climbs : r.Climbs visited id result)
    {e : ResourceError} (failed : result = .error e) :
    ∃ x j, e = .cyclicParents x ∧ r.ancestor? j id = some x ∧ (x ∈ visited ∨ ∃ i < j, r.ancestor? i id = some x) := by
  induction climbs generalizing e with
  | none | missing => cases failed
  | @cycle visited id _ cyclic =>
    obtain rfl := Except.error.inj failed
    exact ⟨id,0,rfl,rfl,.inl cyclic⟩
  | @step visited id top result _ _ isTop _ ih =>
    cases result with
    | ok => cases failed
    | error e' =>
      obtain rfl := Except.error.inj failed
      obtain ⟨x,j,named,above,before⟩ := ih rfl
      refine ⟨x,j + 1,named,by rwa [ancestor?_succ_of_top isTop],?_⟩
      rcases before with mem | ⟨i,less,earlier⟩
      · rcases List.mem_cons.1 mem with rfl | mem
        · exact .inr ⟨0,Nat.succ_pos j,rfl⟩
        · exact .inl mem
      · exact .inr ⟨i + 1,Nat.succ_lt_succ less,by rwa [ancestor?_succ_of_top isTop]⟩

/-- Where there is no list, a bag is named that is there twice. -/
theorem stack_error {e : ResourceError} (failed : r.stack id = .error e) :
    ∃ x i j, e = .cyclicParents x ∧ i < j ∧ r.ancestor? i id = some x ∧ r.ancestor? j id = some x := by
  obtain ⟨x,j,named,at_j,before⟩ := (climbs_iff.2 failed.symm).error_eq rfl
  rcases before with mem | ⟨i,less,at_i⟩
  · cases mem
  · exact ⟨x,i,j,named,less,at_i,at_j⟩

/-- The walk to the parents fails exactly where they come back to one that was there before. -/
theorem stack_error_iff : (∃ x, r.stack id = .error (.cyclicParents x)) ↔ r.Revisits id := by
  constructor
  · rintro ⟨x,failed⟩
    obtain ⟨x,i,j,_,less,at_i,at_j⟩ := stack_error failed
    exact ⟨i,j,x,less,at_i,at_j⟩
  · intro revisits
    cases found : r.stack id with
    | error e =>
      obtain ⟨x,_,_,rfl,_⟩ := stack_error found
      exact ⟨x,rfl⟩
    | ok ids => exact absurd revisits (climbs_iff.2 found.symm).not_revisits

/-- A list that is not empty is that of the bag and its parents. -/
theorem line_of_stack (found : r.stack id = .ok ids) (some : ids ≠ []) : r.Line id ids := by
  obtain ⟨_,distinct,first,linked⟩ := (climbs_iff.2 found.symm).listed rfl
  obtain ⟨x,rest,rfl⟩ := List.exists_cons_of_ne_nil some
  obtain rfl := first x rfl
  exact ⟨distinct,rfl,linked⟩

/-! ### Lists and lineages -/

variable {lineage : List (ResourceId × List Layer)}

theorem ne_zero_of_top {top : Layer} (isTop : (r.layers id).getLast? = some top) : id ≠ 0 := by
  rintro rfl
  have parent := parent?_of_top isTop
  rw [parent?_zero] at parent
  cases parent

/-- Each generation of a lineage has a lineage of its own, which is no longer. -/
theorem Lineage.of_mem (isLineage : r.Lineage id lineage) {g : ResourceId × List Layer} (mem : g ∈ lineage) :
    ∃ above, r.Lineage g.1 above ∧ above.length ≤ lineage.length := by
  induction isLineage with
  | @root id top isTop isRoot =>
    obtain rfl := List.mem_singleton.1 mem
    exact ⟨_,.root isTop isRoot,Nat.le_refl _⟩
  | @child id top above isTop hasParent isLineage ih =>
    rcases List.mem_cons.1 mem with rfl | mem
    · exact ⟨_,.child isTop hasParent isLineage,Nat.le_refl _⟩
    · obtain ⟨own,isOwn,short⟩ := ih mem
      exact ⟨own,isOwn,Nat.le_succ_of_le short⟩

/-- No bag with a lineage is among its ancestors. -/
theorem Lineage.not_mem_above {g : ResourceId × List Layer} (isLineage : r.Lineage id (g :: lineage)) :
    ∀ a ∈ lineage, a.1 ≠ id := by
  cases isLineage with
  | root => simp
  | child isTop hasParent above =>
    rintro a mem rfl
    obtain ⟨own,isOwn,short⟩ := above.of_mem mem
    have same := isOwn.unique (.child isTop hasParent above)
    rw [← same,List.length_cons] at short
    omega

/-- A walk to the parents lists a lineage that is there. -/
theorem Lineage.climbs (isLineage : r.Lineage id lineage) (fresh : ∀ g ∈ lineage, g.1 ∉ visited) :
    r.Climbs visited id (.ok (lineage.map Prod.fst)) := by
  induction isLineage generalizing visited with
  | @root id top isTop isRoot =>
    have above : r.Climbs (id :: visited) top.parent (.ok []) := isRoot ▸ .none
    exact .step (ne_zero_of_top isTop) (fresh _ List.mem_cons_self) isTop above
  | @child id top above isTop hasParent isLineage ih =>
    have apart := (Lineage.child isTop hasParent isLineage).not_mem_above
    refine .step (ne_zero_of_top isTop) (fresh _ List.mem_cons_self) isTop (ih fun g mem => ?_)
    rw [List.mem_cons]
    rintro (same | before)
    · exact apart g mem same
    · exact fresh g (List.mem_cons_of_mem _ mem) before

theorem Lineage.stack_eq (isLineage : r.Lineage id lineage) : r.stack id = .ok (lineage.map Prod.fst) :=
  (climbs_iff.1 (isLineage.climbs fun _ _ => List.not_mem_nil)).symm

/-- The last generation of a lineage declares no parent. -/
theorem Lineage.root_of_last (isLineage : r.Lineage id lineage) :
    ∃ last, (lineage.map Prod.fst).getLast? = some last ∧ r.parent? last = some 0 := by
  induction isLineage with
  | @root id top isTop isRoot => exact ⟨id,rfl,by rw [parent?_of_top isTop,isRoot]⟩
  | @child id top above _ _ _ ih =>
    obtain ⟨last,isLast,isRoot⟩ := ih
    exact ⟨last,by rw [List.map_cons,List.getLast?_cons,isLast,Option.getD_some],isRoot⟩

/-- A list that ends with a bag without a parent is a lineage. -/
theorem Climbs.exists_lineage {result : Except ResourceError (List ResourceId)} (climbs : r.Climbs visited id result)
    (found : result = .ok ids) {last : ResourceId} (isLast : ids.getLast? = some last)
    (isRoot : r.parent? last = some 0) : ∃ lineage, r.Lineage id lineage := by
  induction climbs generalizing ids with
  | none | missing =>
    obtain rfl := Except.ok.inj found
    cases isLast
  | cycle => cases found
  | @step visited id top result _ _ isTop climbs ih =>
    cases result with
    | error => cases found
    | ok rest =>
      obtain rfl := Except.ok.inj found
      rw [List.getLast?_cons] at isLast
      by_cases noParent : top.parent = 0
      · exact ⟨_,.root isTop noParent⟩
      · -- The walk goes on above a bag that has a parent, so it does not end here.
        cases end_of_rest : rest.getLast? with
        | none =>
          obtain rfl : id = last := by simpa [end_of_rest] using isLast
          rw [parent?_of_top isTop,Option.some.injEq] at isRoot
          exact absurd isRoot noParent
        | some x =>
          obtain rfl : x = last := by simpa [end_of_rest] using isLast
          obtain ⟨above,isAbove⟩ := ih rfl end_of_rest
          exact ⟨_,.child isTop noParent isAbove⟩

/-- A bag has a lineage exactly if the list of it and its parents ends with one that declares no parent. -/
theorem lineage_iff : (∃ lineage, r.Lineage id lineage) ↔
    ∃ ids last, r.stack id = .ok ids ∧ ids.getLast? = some last ∧ r.parent? last = some 0 := by
  constructor
  · rintro ⟨lineage,isLineage⟩
    obtain ⟨last,isLast,isRoot⟩ := isLineage.root_of_last
    exact ⟨_,last,isLineage.stack_eq,isLast,isRoot⟩
  · rintro ⟨ids,last,found,isLast,isRoot⟩
    exact (climbs_iff.2 found.symm).exists_lineage rfl isLast isRoot

/-- The entries of a bag come from the generations of its lineage. -/
theorem Lineage.style_mem (isLineage : r.Lineage id lineage) {bag : Bag} (composed : Bag.ofLineage lineage = some bag)
    {e : BagEntry} (mem : e ∈ bag.entries) : e.style ∈ lineage.map Prod.fst := by
  rw [isLineage.entries_eq composed] at mem
  have listed := (List.mem_filter.1 (List.mem_of_getLast? (Bag.getLast?_of_mem_foldl_put mem))).1
  obtain ⟨g,g_mem,written⟩ := List.mem_flatMap.1 listed
  obtain ⟨layer,_,written⟩ := List.mem_flatMap.1 written
  obtain ⟨position,inside,rfl⟩ := List.mem_mapIdx.1 written
  exact List.mem_map.2 ⟨g,List.mem_reverse.1 g_mem,rfl⟩

end Registry

/-! ## The look-up of a bag -/

namespace BagCache
variable {r : Registry} {generation : Nat} {c : BagCache} {chain : List ResourceId} {id : ResourceId}

/-- What the look-up of a bag finds and keeps, however long it takes. -/
inductive Resolves (r : Registry) (generation : Nat) : (chain : List ResourceId) → BagCache → ResourceId →
    Option Bag × BagCache → Prop
  | kept {chain : List ResourceId} {c : BagCache} {id : ResourceId} {bag : Bag} : c.bag? generation id = some bag →
      Resolves r generation chain c id (some bag,c)
  | cycle {chain : List ResourceId} {c : BagCache} {id : ResourceId} : c.bag? generation id = none → id ∈ chain →
      Resolves r generation chain c id (none,c)
  | missing {chain : List ResourceId} {c : BagCache} {id : ResourceId} : c.bag? generation id = none → id ∉ chain →
      (r.layers id).getLast? = none → Resolves r generation chain c id (none,c)
  | root {chain : List ResourceId} {c : BagCache} {id : ResourceId} {top : Layer} : c.bag? generation id = none →
      id ∉ chain → (r.layers id).getLast? = some top → top.parent = 0 →
      Resolves r generation chain c id
        (some (.compose id top (r.layers id) none),c.insert id ⟨generation,.compose id top (r.layers id) none⟩)
  | orphan {chain : List ResourceId} {c c' : BagCache} {id : ResourceId} {top : Layer} : c.bag? generation id = none →
      id ∉ chain → (r.layers id).getLast? = some top → top.parent ≠ 0 →
      Resolves r generation (id :: chain) c top.parent (none,c') → Resolves r generation chain c id (none,c')
  | child {chain : List ResourceId} {c c' : BagCache} {id : ResourceId} {top : Layer} {parent : Bag} :
      c.bag? generation id = none → id ∉ chain → (r.layers id).getLast? = some top → top.parent ≠ 0 →
      Resolves r generation (id :: chain) c top.parent (some parent,c') →
      Resolves r generation chain c id (some (.compose id top (r.layers id) (some parent)),
        c'.insert id ⟨generation,.compose id top (r.layers id) (some parent)⟩)

/-- A look-up with enough steps comes to its end. -/
theorem bagWithin?_resolves (fuel : Nat) (seen : r.Visited chain) (enough : r.idCount + 1 ≤ fuel + chain.length) :
    Resolves r generation chain c id (bagWithin? r generation fuel chain c id) := by
  induction fuel generalizing chain id with
  | zero =>
    have short := seen.length_le
    omega
  | succ fuel ih =>
    cases hit : c.bag? generation id with
    | some bag =>
      rw [bagWithin?_kept hit]
      exact .kept hit
    | none =>
      by_cases cyclic : id ∈ chain
      · rw [bagWithin?_cycle hit cyclic]
        exact .cycle hit cyclic
      · cases isTop : (r.layers id).getLast? with
        | none =>
          rw [bagWithin?_missing hit isTop]
          exact .missing hit cyclic isTop
        | some top =>
          by_cases isRoot : top.parent = 0
          · rw [bagWithin?_root hit cyclic isTop isRoot]
            exact .root hit cyclic isTop isRoot
          · rw [bagWithin?_child hit cyclic isTop isRoot]
            have longer : r.idCount + 1 ≤ fuel + (id :: chain).length := by
              rw [List.length_cons]
              omega
            have parent := @ih (id :: chain) top.parent (seen.cons cyclic isTop) longer
            generalize bagWithin? r generation fuel (id :: chain) c top.parent = result at parent
            rcases result with ⟨_ | above,c'⟩
            · exact .orphan hit cyclic isTop isRoot parent
            · exact .child hit cyclic isTop isRoot parent

/-- There is one end that a look-up can come to. -/
theorem Resolves.eq_bagWithin? {result : Option Bag × BagCache} (resolves : Resolves r generation chain c id result)
    (fuel : Nat) (seen : r.Visited chain) (enough : r.idCount + 1 ≤ fuel + chain.length) :
    result = bagWithin? r generation fuel chain c id := by
  induction resolves generalizing fuel with
  | kept hit => rw [bagWithin?_kept hit]
  | cycle miss cyclic =>
    obtain ⟨fuel,rfl⟩ := seen.fuel_eq enough
    rw [bagWithin?_cycle miss cyclic]
  | missing miss _ noTop =>
    obtain ⟨fuel,rfl⟩ := seen.fuel_eq enough
    rw [bagWithin?_missing miss noTop]
  | root miss fresh isTop isRoot =>
    obtain ⟨fuel,rfl⟩ := seen.fuel_eq enough
    rw [bagWithin?_root miss fresh isTop isRoot]
  | orphan miss fresh isTop hasParent _ ih | child miss fresh isTop hasParent _ ih =>
    obtain ⟨fuel,rfl⟩ := seen.fuel_eq enough
    rw [bagWithin?_child miss fresh isTop hasParent,
      ← ih fuel (seen.cons fresh isTop) (by rw [List.length_cons]; omega)]

/-- The look-up of a bag comes to an end, with the bag and the cache that are found. -/
theorem resolves_iff {result : Option Bag × BagCache} :
    Resolves r generation [] c id result ↔ result = c.getBag? r generation id := by
  constructor
  · intro resolves
    exact resolves.eq_bagWithin? _ .nil (Nat.le_add_right _ _)
  · rintro rfl
    exact bagWithin?_resolves _ .nil (Nat.le_add_right _ _)

end BagCache

/-! ## Both walks -/

namespace Manager
variable {m : Manager}

/-- A bag is found exactly if the list of it and its parents ends with one that declares no parent. -/
theorem Sound.isSome_bag?_iff (sound : m.Sound) (id : ResourceId) : (m.bag? id).1.isSome ↔
    ∃ ids last, m.registry.stack id = .ok ids ∧ ids.getLast? = some last ∧ m.registry.parent? last = some 0 := by
  rw [← Registry.lineage_iff,Option.isSome_iff_exists]
  constructor
  · rintro ⟨bag,found⟩
    obtain ⟨lineage,isLineage,_⟩ := sound.bag?_eq_some_iff.1 found
    exact ⟨lineage,isLineage⟩
  · rintro ⟨lineage,isLineage⟩
    obtain ⟨bag,composed⟩ := BagCache.bag_of_lineage isLineage
    exact ⟨bag,sound.bag?_eq_some_iff.2 ⟨lineage,isLineage,composed⟩⟩

/-- Both walks over the parents of a bag come to their end. There is a bag exactly if the list of it and its parents
    ends with one that declares no parent; then the list starts with the bag, has each one once and its parent behind
    it, and all entries come from members of the list. There is no list, and no bag, exactly where the parents come
    back to one that was there before, and that one is named. -/
theorem bag?_stack (sound : m.Sound) (id : ResourceId) :
    (∀ result, BagCache.Resolves m.registry m.generation [] m.bags id result ↔
      result = ((m.bag? id).1,(m.bag? id).2.bags)) ∧
    (∀ result, m.registry.Climbs [] id result ↔ result = m.registry.stack id) ∧
    ((m.bag? id).1.isSome ↔ ∃ ids last, m.registry.stack id = .ok ids ∧ ids.getLast? = some last ∧
      m.registry.parent? last = some 0) ∧
    (∀ bag, (m.bag? id).1 = some bag → ∃ ids, m.registry.stack id = .ok ids ∧ m.registry.Line id ids ∧
      ∀ e ∈ bag.entries, e.style ∈ ids) ∧
    ((∃ x, m.registry.stack id = .error (.cyclicParents x)) ↔ m.registry.Revisits id) ∧
    (∀ e, m.registry.stack id = .error e → (m.bag? id).1 = none ∧
      ∃ x i j, e = .cyclicParents x ∧ i < j ∧ m.registry.ancestor? i id = some x ∧
        m.registry.ancestor? j id = some x) := by
  have found_iff := sound.isSome_bag?_iff id
  refine ⟨fun _ => BagCache.resolves_iff,fun _ => Registry.climbs_iff,found_iff,?_,Registry.stack_error_iff,?_⟩
  · intro bag found
    obtain ⟨lineage,isLineage,composed⟩ := sound.bag?_eq_some_iff.1 found
    have some : lineage.map Prod.fst ≠ [] := by
      cases isLineage <;> simp
    exact ⟨_,isLineage.stack_eq,Registry.line_of_stack isLineage.stack_eq some,
      fun e mem => isLineage.style_mem composed mem⟩
  · intro e failed
    refine ⟨?_,Registry.stack_error failed⟩
    rw [← Option.not_isSome_iff_eq_none,found_iff]
    rintro ⟨ids,last,found,_⟩
    rw [failed] at found
    cases found

/-- A style on top of its parent, which has none. -/
theorem bag?_stack_layered : layered.Sound ∧ (layered.bag? 0x7f020001).1.isSome ∧
    ∃ ids last, layered.registry.stack 0x7f020001 = .ok ids ∧ ids.getLast? = some last ∧
      layered.registry.parent? last = some 0 ∧ ids = [0x7f020001,0x7f020000] := by
  have sound : layered.Sound := (current_of_empty (m := layered) rfl).sound
  have found : (layered.bag? 0x7f020001).1.isSome := by decide +kernel
  obtain ⟨_,_,found_iff,_⟩ := bag?_stack sound 0x7f020001
  obtain ⟨ids,last,isList,isLast,isRoot⟩ := found_iff.1 found
  have listed : layered.registry.stack 0x7f020001 = .ok [0x7f020001,0x7f020000] := by rfl
  rw [listed] at isList
  obtain rfl := Except.ok.inj isList
  exact ⟨sound,found,_,last,listed,isLast,isRoot,rfl⟩

end Manager

end AndroidResources
