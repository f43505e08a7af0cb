import AndroidResources.BagCache
import AndroidResources.Proofs.Selection

/-!
# What a bag is put together from

A look-up of a bag goes through its parents with a number of steps, the chain of bags that it comes from and
a cache that grows on the way. `BagCache.Builds` says what it finds from the cache at its start and the layers
alone (`getBag?_eq_some_iff`), and what a look-up keeps changes nothing for those after it (`builds_getBag?`):
the steps suffice, and a bag that is found is no ancestor of itself. With nothing kept, a bag is put together
from the layers of its lineage (`builds_empty_iff`).
-/
namespace AndroidResources

namespace Registry
variable {r : Registry}

/-- No source is left out or taken twice. -/
theorem byRank_perm : r.byRank.Perm r.placed :=
  List.perm_append_comm.trans (List.filter_append_perm _ _)

theorem mem_byRank {p : Placed} : p ∈ r.byRank ↔ p ∈ r.placed :=
  byRank_perm.mem_iff

theorem mem_placed_iff {p : Placed} :
    p ∈ r.placed ↔ ∃ position s, r.sources[position]? = some s ∧ r.placeAt s position = p := by
  rw [placed,List.mem_map]
  constructor
  · rintro ⟨⟨s,position⟩,mem,rfl⟩
    exact ⟨position,s,List.mem_zipIdx_iff_getElem?.1 mem,rfl⟩
  · rintro ⟨position,s,at_position,rfl⟩
    exact ⟨(s,position),List.mem_zipIdx_iff_getElem?.2 at_position,rfl⟩

/-- A place belongs to one source. -/
theorem eq_of_position {p q : Placed} (p_mem : p ∈ r.placed) (q_mem : q ∈ r.placed)
    (same : p.rank.position = q.rank.position) : p = q := by
  obtain ⟨i,s,at_i,rfl⟩ := mem_placed_iff.1 p_mem
  obtain ⟨j,t,at_j,rfl⟩ := mem_placed_iff.1 q_mem
  obtain rfl : i = j := same
  obtain rfl := Option.some.inj (at_i.symm.trans at_j)
  rfl

theorem source_mem_of_placed {p : Placed} (mem : p ∈ r.placed) : p.source ∈ r.sources := by
  obtain ⟨_,_,at_position,rfl⟩ := mem_placed_iff.1 mem
  exact List.mem_of_getElem? at_position

theorem entry_of_candidate {p : Placed} {id : ResourceId} {c : Candidate} (mem : c ∈ candidatesIn p id) :
    ∃ entry, p.source.table.entry? id = some entry ∧ c.definition ∈ entry.definitions ∧
      c.cookie = p.cookie ∧ c.rank = p.rank ∧ c.type = entry.name.type ∧ c.changes = entry.changes := by
  unfold candidatesIn at mem
  split at mem
  · cases mem
  · rename_i entry found
    obtain ⟨definition,isDefinition,rfl⟩ := List.mem_map.1 mem
    exact ⟨entry,found,isDefinition,rfl,rfl,rfl,rfl⟩

/-- What a source brings to a bag is the definition that is selected among its own. -/
theorem layerIn?_eq_some {id : ResourceId} {p : Placed} {layer : Layer} (found : r.layerIn? id p = some layer) :
    ∃ selected, r.selectLocalized? (candidatesIn p id) none = some selected ∧ layerOf? selected.1 = some layer := by
  unfold layerIn? at found
  exact Option.bind_eq_some_iff.1 found

theorem mem_layers {id : ResourceId} {layer : Layer} :
    layer ∈ r.layers id ↔ id.isValid ∧ ∃ p ∈ r.byRank, r.layerIn? id p = some layer := by
  unfold layers
  cases id.isValid <;> simp

/-- A bag with a layer is one of the ids that are counted. -/
theorem mem_keys_of_layer {id : ResourceId} {layer : Layer} (mem : layer ∈ r.layers id) :
    id ∈ r.sources.flatMap fun s => s.table.entries.keys := by
  obtain ⟨_,p,placed,found⟩ := mem_layers.1 mem
  obtain ⟨selected,isSelected,_⟩ := layerIn?_eq_some found
  obtain ⟨entry,isEntry,_⟩ := entry_of_candidate (selectLocalized?_mem isSelected)
  have member := OrderedMap.get?_eq_some.1 isEntry
  exact List.mem_flatMap.2 ⟨p.source,source_mem_of_placed (mem_byRank.1 placed),List.mem_map.2 ⟨_,member,rfl⟩⟩

end Registry

namespace BagCache
variable {r : Registry} {generation : Nat} {c : BagCache}

theorem bag?_eq_some_iff {id : ResourceId} {bag : Bag} :
    c.bag? generation id = some bag ↔ c.get? id = some ⟨generation,bag⟩ := by
  unfold bag?
  rcases c.get? id with _ | ⟨kept,_⟩
  · simp
  · by_cases current : kept = generation <;> simp [current]

/-! ## The meaning of a look-up -/

/-- The bag that a cache and the layers determine: the one that is kept, or else its layers on top of its
    parent, if it has one. -/
inductive Builds (r : Registry) (generation : Nat) (c : BagCache) : ResourceId → Bag → Prop
  | kept {id : ResourceId} {bag : Bag} : c.bag? generation id = some bag → Builds r generation c id bag
  | root {id : ResourceId} {top : Layer} : c.bag? generation id = none → (r.layers id).getLast? = some top →
      top.parent = 0 → Builds r generation c id (.compose id top (r.layers id) none)
  | child {id : ResourceId} {top : Layer} {parent : Bag} : c.bag? generation id = none →
      (r.layers id).getLast? = some top → top.parent ≠ 0 → Builds r generation c top.parent parent →
      Builds r generation c id (.compose id top (r.layers id) (some parent))

theorem Builds.unique {id : ResourceId} {a b : Bag} (one : Builds r generation c id a)
    (other : Builds r generation c id b) : a = b := by
  induction one generalizing b with
  | kept hit =>
    cases other with
    | kept hit' => exact Option.some.inj (hit.symm.trans hit')
    | root miss => simp [hit] at miss
    | child miss => simp [hit] at miss
  | root miss isTop isRoot =>
    cases other with
    | kept hit => simp [miss] at hit
    | root _ isTop' =>
      obtain rfl := Option.some.inj (isTop.symm.trans isTop')
      rfl
    | child _ isTop' hasParent =>
      obtain rfl := Option.some.inj (isTop.symm.trans isTop')
      exact absurd isRoot hasParent
  | child miss isTop hasParent _ ih =>
    cases other with
    | kept hit => simp [miss] at hit
    | root _ isTop' isRoot =>
      obtain rfl := Option.some.inj (isTop.symm.trans isTop')
      exact absurd isRoot hasParent
    | child _ isTop' _ above =>
      obtain rfl := Option.some.inj (isTop.symm.trans isTop')
      rw [ih above]

/-- The parent that a bag which is not kept has to be put on top of. -/
def IsParent (r : Registry) (generation : Nat) (c : BagCache) (parent id : ResourceId) : Prop :=
  c.bag? generation id = none ∧ parent ≠ 0 ∧ ∃ top, (r.layers id).getLast? = some top ∧ top.parent = parent

/-- The ancestors of a bag that can be put together come to an end. -/
theorem Builds.acc {id : ResourceId} {bag : Bag} (builds : Builds r generation c id bag) :
    Acc (IsParent r generation c) id := by
  induction builds with
  | kept hit =>
    constructor
    rintro parent ⟨miss,_⟩
    simp [hit] at miss
  | root _ isTop isRoot =>
    constructor
    rintro parent ⟨_,nonzero,top',isTop',rfl⟩
    obtain rfl := Option.some.inj (isTop.symm.trans isTop')
    exact absurd isRoot nonzero
  | child _ isTop _ _ ih =>
    constructor
    rintro parent ⟨_,_,top',isTop',rfl⟩
    obtain rfl := Option.some.inj (isTop.symm.trans isTop')
    exact ih

/-- A bag that can be put together is no ancestor of itself. -/
theorem Builds.not_own_ancestor {id : ResourceId} {bag : Bag} (builds : Builds r generation c id bag) :
    ¬ Relation.TransGen (IsParent r generation c) id id := by
  have wellFounded := builds.acc.transGen
  clear builds
  induction wellFounded with
  | intro id _ ih =>
    intro cycle
    exact ih id cycle cycle

/-! ## Keeping a bag -/

theorem bag?_insert (id x : ResourceId) (bag : Bag) :
    BagCache.bag? (c.insert id ⟨generation,bag⟩) generation x = if x = id then some bag else c.bag? generation x := by
  unfold bag?
  rw [OrderedMap.get?_insert]
  by_cases same : x = id <;> simp [same]

/-- Keeping a bag that can be put together changes no bag. -/
theorem builds_insert {id x : ResourceId} {bag b : Bag} (builds : Builds r generation c id bag) :
    Builds r generation (c.insert id ⟨generation,bag⟩) x b ↔ Builds r generation c x b := by
  constructor
  · intro later
    induction later with
    | @kept x b hit =>
      rw [bag?_insert] at hit
      split at hit
      case isTrue same =>
        obtain rfl := Option.some.inj hit
        exact same ▸ builds
      case isFalse => exact .kept hit
    | @root x top miss isTop isRoot =>
      rw [bag?_insert] at miss
      split at miss
      · cases miss
      · exact .root miss isTop isRoot
    | @child x top parent miss isTop hasParent _ ih =>
      rw [bag?_insert] at miss
      split at miss
      · cases miss
      · exact .child miss isTop hasParent ih
  · intro before
    -- Wherever the new bag is met, it is the one that was put together there before.
    have at_id {y : ResourceId} {b' : Bag} (same : y = id) (found : Builds r generation c y b') :
        Builds r generation (c.insert id ⟨generation,bag⟩) y b' := by
      subst same
      apply Builds.kept
      rw [bag?_insert,if_pos rfl,builds.unique found]
    induction before with
    | @kept x b hit =>
      by_cases same : x = id
      · exact at_id same (.kept hit)
      · exact .kept (by rw [bag?_insert,if_neg same,hit])
    | @root x top miss isTop isRoot =>
      by_cases same : x = id
      · exact at_id same (.root miss isTop isRoot)
      · exact .root (by rw [bag?_insert,if_neg same,miss]) isTop isRoot
    | @child x top parent miss isTop hasParent above ih =>
      by_cases same : x = id
      · exact at_id same (.child miss isTop hasParent above)
      · exact .child (by rw [bag?_insert,if_neg same,miss]) isTop hasParent ih

/-! ## One step of a look-up -/

section
variable {fuel : Nat} {chain : List ResourceId} {id : ResourceId}

theorem bagWithin?_kept {bag : Bag} (hit : c.bag? generation id = some bag) :
    bagWithin? r generation fuel chain c id = (some bag,c) := by
  unfold bagWithin?
  simp [hit]

theorem bagWithin?_cycle (miss : c.bag? generation id = none) (cyclic : id ∈ chain) :
    bagWithin? r generation (fuel + 1) chain c id = (none,c) := by
  unfold bagWithin?
  simp [miss,cyclic]

theorem bagWithin?_missing (miss : c.bag? generation id = none) (noTop : (r.layers id).getLast? = none) :
    bagWithin? r generation (fuel + 1) chain c id = (none,c) := by
  unfold bagWithin?
  simp [miss,noTop]

theorem bagWithin?_root {top : Layer} (miss : c.bag? generation id = none) (fresh : id ∉ chain)
    (isTop : (r.layers id).getLast? = some top) (isRoot : top.parent = 0) :
    bagWithin? r generation (fuel + 1) chain c id =
      (some (.compose id top (r.layers id) none),
        c.insert id ⟨generation,.compose id top (r.layers id) none⟩) := by
  rw [bagWithin?]
  simp [miss,fresh,isTop,isRoot]

theorem bagWithin?_child {top : Layer} (miss : c.bag? generation id = none) (fresh : id ∉ chain)
    (isTop : (r.layers id).getLast? = some top) (hasParent : top.parent ≠ 0) :
    bagWithin? r generation (fuel + 1) chain c id =
      match bagWithin? r generation fuel (id :: chain) c top.parent with
      | (none,c') => (none,c')
      | (some parent,c') =>
        (some (.compose id top (r.layers id) (some parent)),
          c'.insert id ⟨generation,.compose id top (r.layers id) (some parent)⟩) := by
  rw [bagWithin?]
  simp only [miss,fresh,isTop,hasParent,if_false]
  rcases bagWithin? r generation fuel (id :: chain) c top.parent with ⟨_ | parent,c'⟩ <;> rfl

end

/-! ## A whole look-up -/

/-- The bags that a look-up comes from: each one once, and all of them below the bag that it is at. -/
structure Climb (r : Registry) (generation : Nat) (c : BagCache) (chain : List ResourceId) (id : ResourceId) :
    Prop where
  distinct : chain.Nodup
  below : ∀ x ∈ chain, Relation.TransGen (IsParent r generation c) id x

/-- A bag with a parent has a layer. -/
theorem mem_keys_of_ancestor {id x : ResourceId} (above : Relation.TransGen (IsParent r generation c) id x) :
    x ∈ r.sources.flatMap fun s => s.table.entries.keys := by
  have child : ∃ parent, IsParent r generation c parent x := by
    cases above with
    | single step => exact ⟨_,step⟩
    | tail _ step => exact ⟨_,step⟩
  obtain ⟨_,_,_,top,isTop,_⟩ := child
  exact Registry.mem_keys_of_layer (List.mem_of_getLast? isTop)

theorem Climb.length_le {chain : List ResourceId} {id : ResourceId} (climb : Climb r generation c chain id) :
    chain.length ≤ r.idCount :=
  climb.distinct.length_le_of_subset fun x mem => mem_keys_of_ancestor (climb.below x mem)

theorem Climb.up {chain : List ResourceId} {id parent : ResourceId} (climb : Climb r generation c chain id)
    (fresh : id ∉ chain) (step : IsParent r generation c parent id) : Climb r generation c (id :: chain) parent := by
  refine ⟨List.nodup_cons.2 ⟨fresh,climb.distinct⟩,?_⟩
  intro x mem
  rcases List.mem_cons.1 mem with rfl | mem
  · exact .single step
  · exact Relation.TransGen.trans (.single step) (climb.below x mem)

/-- A result of a look-up is the bag that the cache and the layers determine, and its cache determines the
    same bags as before. -/
structure Finds (r : Registry) (generation : Nat) (c : BagCache) (id : ResourceId) (result : Option Bag × BagCache) :
    Prop where
  bag : ∀ bag, result.1 = some bag ↔ Builds r generation c id bag
  same : ∀ x b, Builds r generation result.2 x b ↔ Builds r generation c x b

theorem finds_kept {id : ResourceId} {bag : Bag} (hit : c.bag? generation id = some bag) :
    Finds r generation c id (some bag,c) := by
  refine ⟨fun b => ?_,fun _ _ => Iff.rfl⟩
  constructor
  · intro same
    exact .kept (hit.trans same)
  · intro builds
    exact congrArg some ((Builds.kept hit).unique builds)

theorem finds_none {id : ResourceId} {c' : BagCache} (none : ∀ bag, ¬ Builds r generation c id bag)
    (same : ∀ x b, Builds r generation c' x b ↔ Builds r generation c x b) : Finds r generation c id (.none,c') := by
  refine ⟨fun b => ?_,same⟩
  constructor
  · intro found
    cases found
  · intro builds
    exact absurd builds (none b)

theorem finds_insert {id : ResourceId} {bag : Bag} {c' : BagCache} (builds : Builds r generation c id bag)
    (same : ∀ x b, Builds r generation c' x b ↔ Builds r generation c x b) :
    Finds r generation c id (some bag,c'.insert id ⟨generation,bag⟩) := by
  refine ⟨fun b => ?_,fun x b => ?_⟩
  · constructor
    · intro found
      exact Option.some.inj found ▸ builds
    · intro other
      exact congrArg some (builds.unique other)
  · exact (builds_insert ((same id bag).2 builds)).trans (same x b)

/-- What can be put together without being kept has a layer on top. -/
theorem not_builds_of_no_top {id : ResourceId} (miss : c.bag? generation id = none)
    (noTop : (r.layers id).getLast? = none) (bag : Bag) : ¬ Builds r generation c id bag := by
  intro builds
  cases builds with
  | kept hit => simp [miss] at hit
  | root _ isTop => simp [noTop] at isTop
  | child _ isTop => simp [noTop] at isTop

/-- What can be put together without being kept stands on its parent. -/
theorem not_builds_of_no_parent {id : ResourceId} {top : Layer} (miss : c.bag? generation id = none)
    (isTop : (r.layers id).getLast? = some top) (hasParent : top.parent ≠ 0)
    (noParent : ∀ parent, ¬ Builds r generation c top.parent parent) (bag : Bag) :
    ¬ Builds r generation c id bag := by
  intro builds
  cases builds with
  | kept hit => simp [miss] at hit
  | root _ isTop' isRoot =>
    obtain rfl := Option.some.inj (isTop.symm.trans isTop')
    exact hasParent isRoot
  | child _ isTop' _ above =>
    obtain rfl := Option.some.inj (isTop.symm.trans isTop')
    exact noParent _ above

/-- A look-up with enough steps finds what the cache and the layers determine. -/
theorem bagWithin?_finds (fuel : Nat) {chain : List ResourceId} {id : ResourceId}
    (climb : Climb r generation c chain id) (enough : r.idCount + 1 ≤ fuel + chain.length) :
    Finds r generation c id (bagWithin? r generation fuel chain c id) := by
  induction fuel generalizing chain id with
  | zero =>
    -- No chain is longer than there are ids.
    have short := climb.length_le
    omega
  | succ fuel ih =>
    cases hit : c.bag? generation id with
    | some kept =>
      rw [bagWithin?_kept hit]
      exact finds_kept hit
    | none =>
      by_cases cyclic : id ∈ chain
      · rw [bagWithin?_cycle hit cyclic]
        exact finds_none (fun _ builds => builds.not_own_ancestor (climb.below id cyclic)) fun _ _ => Iff.rfl
      · cases isTop : (r.layers id).getLast? with
        | none =>
          rw [bagWithin?_missing hit isTop]
          exact finds_none (not_builds_of_no_top hit isTop) fun _ _ => Iff.rfl
        | some top =>
          by_cases isRoot : top.parent = 0
          · rw [bagWithin?_root hit cyclic isTop isRoot]
            exact finds_insert (.root hit isTop isRoot) fun _ _ => Iff.rfl
          · rw [bagWithin?_child hit cyclic isTop isRoot]
            have step : IsParent r generation c top.parent id := ⟨hit,isRoot,top,isTop,rfl⟩
            have parent := ih (climb.up cyclic step) (by simp only [List.length_cons]; omega)
            generalize bagWithin? r generation fuel (id :: chain) c top.parent = result at parent
            rcases result with ⟨_ | found,c'⟩
            · refine finds_none (not_builds_of_no_parent hit isTop isRoot fun b above => ?_) parent.same
              cases (parent.bag b).2 above
            · exact finds_insert (.child hit isTop isRoot ((parent.bag found).1 rfl)) parent.same

theorem getBag?_finds (id : ResourceId) : Finds r generation c id (c.getBag? r generation id) :=
  bagWithin?_finds _ ⟨.nil,by simp⟩ (by simp)

/-- A look-up finds exactly the bag that the cache and the layers determine. -/
theorem getBag?_eq_some_iff {id : ResourceId} {bag : Bag} :
    (c.getBag? r generation id).1 = some bag ↔ Builds r generation c id bag :=
  (getBag?_finds id).bag bag

/-- What a look-up keeps changes no bag. -/
theorem builds_getBag? {id x : ResourceId} {b : Bag} :
    Builds r generation (c.getBag? r generation id).2 x b ↔ Builds r generation c x b :=
  (getBag?_finds id).same x b

/-- What is kept after keeping one more bag was kept before or is of its generation. -/
theorem get?_insert_current {id x : ResourceId} {bag : Bag} {kept : CachedBag}
    (found : (c.insert id ⟨generation,bag⟩).get? x = some kept) :
    c.get? x = some kept ∨ kept.generation = generation := by
  rw [OrderedMap.get?_insert] at found
  split at found
  · obtain rfl := Option.some.inj found
    exact .inr rfl
  · exact .inl found

/-- What a look-up adds to the cache is of the current generation. -/
theorem get?_bagWithin? (fuel : Nat) {chain : List ResourceId} {id x : ResourceId} {kept : CachedBag}
    (found : (bagWithin? r generation fuel chain c id).2.get? x = some kept) :
    c.get? x = some kept ∨ kept.generation = generation := by
  induction fuel generalizing chain id with
  | zero =>
    unfold bagWithin? at found
    split at found <;> exact .inl found
  | succ fuel ih =>
    cases hit : c.bag? generation id with
    | some bag =>
      rw [bagWithin?_kept hit] at found
      exact .inl found
    | none =>
      by_cases cyclic : id ∈ chain
      · rw [bagWithin?_cycle hit cyclic] at found
        exact .inl found
      · cases isTop : (r.layers id).getLast? with
        | none =>
          rw [bagWithin?_missing hit isTop] at found
          exact .inl found
        | some top =>
          by_cases isRoot : top.parent = 0
          · rw [bagWithin?_root hit cyclic isTop isRoot] at found
            exact get?_insert_current found
          · rw [bagWithin?_child hit cyclic isTop isRoot] at found
            have parent := @ih (id :: chain) top.parent
            generalize bagWithin? r generation fuel (id :: chain) c top.parent = result at found parent
            rcases result with ⟨_ | above,c'⟩
            · exact parent found
            · rcases get?_insert_current found with before | current
              · exact parent before
              · exact .inr current

theorem get?_getBag? {id x : ResourceId} {kept : CachedBag}
    (found : (c.getBag? r generation id).2.get? x = some kept) :
    c.get? x = some kept ∨ kept.generation = generation :=
  get?_bagWithin? _ found

end BagCache

/-! ## Lineages -/

/-- The layers of a bag and of its ancestors, up to one without a parent. The parent is always that of the
    layer on top. -/
inductive Registry.Lineage (r : Registry) : ResourceId → List (ResourceId × List Layer) → Prop
  | root {id : ResourceId} {top : Layer} : (r.layers id).getLast? = some top → top.parent = 0 →
      r.Lineage id [(id,r.layers id)]
  | child {id : ResourceId} {top : Layer} {above : List (ResourceId × List Layer)} :
      (r.layers id).getLast? = some top → top.parent ≠ 0 → r.Lineage top.parent above →
      r.Lineage id ((id,r.layers id) :: above)

namespace Registry
variable {r : Registry} {id : ResourceId} {lineage : List (ResourceId × List Layer)}

theorem Lineage.unique (isLineage : r.Lineage id lineage) {lineage' : List (ResourceId × List Layer)}
    (isLineage' : r.Lineage id lineage') : lineage' = lineage := by
  induction isLineage generalizing lineage' with
  | root isTop isRoot =>
    cases isLineage' with
    | root => rfl
    | child isTop' hasParent =>
      obtain rfl := Option.some.inj (isTop.symm.trans isTop')
      exact absurd isRoot hasParent
  | child isTop hasParent _ ih =>
    cases isLineage' with
    | root isTop' isRoot =>
      obtain rfl := Option.some.inj (isTop.symm.trans isTop')
      exact absurd isRoot hasParent
    | child isTop' _ above =>
      obtain rfl := Option.some.inj (isTop.symm.trans isTop')
      rw [ih above]

/-- A generation of a lineage has the layers of its bag, of which there is one. -/
theorem Lineage.layers_eq (isLineage : r.Lineage id lineage) {g : ResourceId × List Layer} (mem : g ∈ lineage) :
    g.2 = r.layers g.1 ∧ ∃ top, (r.layers g.1).getLast? = some top := by
  induction isLineage with
  | root isTop _ =>
    obtain rfl := List.mem_singleton.1 mem
    exact ⟨rfl,_,isTop⟩
  | child isTop _ _ ih =>
    rcases List.mem_cons.1 mem with rfl | mem
    · exact ⟨rfl,_,isTop⟩
    · exact ih mem

end Registry

/-- The bag of a lineage: the layers of each generation on top of the bag of those above. -/
def Bag.ofLineage : List (ResourceId × List Layer) → Option Bag
  | [] => none
  | (id,layers) :: above => layers.getLast?.map fun top => compose id top layers (ofLineage above)

namespace BagCache
variable {r : Registry} {generation : Nat}

theorem bag?_empty (id : ResourceId) : BagCache.bag? {} generation id = none := rfl

/-- A lineage has a bag: each of its generations has a layer on top. -/
theorem bag_of_lineage {id : ResourceId} {lineage : List (ResourceId × List Layer)} (isLineage : r.Lineage id lineage) :
    ∃ bag, Bag.ofLineage lineage = some bag := by
  cases isLineage with
  | root isTop => simp [Bag.ofLineage,isTop]
  | child isTop => simp [Bag.ofLineage,isTop]

/-- With nothing kept, a bag is put together from its lineage. -/
theorem builds_empty_iff {id : ResourceId} {bag : Bag} :
    Builds r generation {} id bag ↔ ∃ lineage, r.Lineage id lineage ∧ Bag.ofLineage lineage = some bag := by
  constructor
  · intro builds
    induction builds with
    | kept hit => simp [bag?_empty] at hit
    | root _ isTop isRoot => exact ⟨_,.root isTop isRoot,by simp [Bag.ofLineage,isTop]⟩
    | child _ isTop hasParent _ ih =>
      obtain ⟨above,lineage,composed⟩ := ih
      exact ⟨_,.child isTop hasParent lineage,by simp [Bag.ofLineage,isTop,composed]⟩
  · rintro ⟨lineage,isLineage,composed⟩
    induction isLineage generalizing bag with
    | @root id top isTop isRoot =>
      obtain rfl : Bag.compose id top (r.layers id) none = bag := by simpa [Bag.ofLineage,isTop] using composed
      exact .root (bag?_empty id) isTop isRoot
    | @child id top above isTop hasParent lineage ih =>
      obtain ⟨parent,parentBag⟩ := bag_of_lineage lineage
      obtain rfl : Bag.compose id top (r.layers id) (Bag.ofLineage above) = bag := by
        simpa [Bag.ofLineage,isTop] using composed
      rw [parentBag]
      exact .child (bag?_empty id) isTop hasParent (ih parentBag)

end BagCache

end AndroidResources
