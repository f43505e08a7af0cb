import Mathlib.Data.List.Basic
import Mathlib.Data.List.Induction
import AndroidResources.Proofs.CacheTransparency
import AndroidResources.Proofs.SelectionOrder

/-!
# The entries of a bag

A bag is put together from its ancestors down, each entry taking the place of the one with its key or going to
the end. It comes out as its listing does, which has all entries of its lineage one after another: the keys of the
listing in the order of their first occurrence, each with its last occurrence (`Manager.bag?_listing`).
-/
namespace AndroidResources

namespace Bag

/-! ## Putting entries one after another -/

/-- A key that is there stays in its place. -/
theorem keys_put (entries : List BagEntry) (e : BagEntry) :
    (put entries e).map BagEntry.key =
      if e.key ∈ entries.map BagEntry.key then entries.map BagEntry.key else entries.map BagEntry.key ++ [e.key] := by
  induction entries with
  | nil => simp [put]
  | cons first rest ih =>
    by_cases same : first.key = e.key
    · simp [put,same]
    · rw [put,if_neg same,List.map_cons,ih,List.map_cons]
      by_cases later : e.key ∈ rest.map BagEntry.key
      · rw [if_pos later,if_pos (List.mem_cons_of_mem _ later)]
      · have absent : e.key ∉ first.key :: rest.map BagEntry.key := by simpa [Ne.symm same] using later
        rw [if_neg later,if_neg absent,List.cons_append]

/-- With distinct keys, an entry takes the place of every other one with its key. -/
theorem mem_put {entries : List BagEntry} (distinct : (entries.map BagEntry.key).Nodup) {e x : BagEntry} :
    x ∈ put entries e ↔ x = e ∨ x ∈ entries ∧ x.key ≠ e.key := by
  induction entries with
  | nil => simp [put]
  | cons first rest ih =>
    obtain ⟨notLater,rest_distinct⟩ := List.nodup_cons.1 distinct
    by_cases same : first.key = e.key
    · rw [put,if_pos same,List.mem_cons,List.mem_cons]
      have others : x ∈ rest → x.key ≠ e.key := by
        rintro mem equal
        exact notLater (List.mem_map.2 ⟨x,mem,equal.trans same.symm⟩)
      constructor
      · rintro (rfl | mem)
        · exact .inl rfl
        · exact .inr ⟨.inr mem,others mem⟩
      · rintro (rfl | ⟨rfl | mem,differ⟩)
        · exact .inl rfl
        · exact absurd same differ
        · exact .inr mem
    · rw [put,if_neg same,List.mem_cons,ih rest_distinct,List.mem_cons]
      constructor
      · rintro (rfl | rfl | ⟨mem,differ⟩)
        · exact .inr ⟨.inl rfl,same⟩
        · exact .inl rfl
        · exact .inr ⟨.inr mem,differ⟩
      · rintro (rfl | ⟨rfl | mem,differ⟩)
        · exact .inr (.inl rfl)
        · exact .inl rfl
        · exact .inr (.inr ⟨mem,differ⟩)

theorem keys_foldl_put (listed : List BagEntry) :
    (listed.foldl put []).map BagEntry.key = (listed.map BagEntry.key).eraseDups := by
  -- From the end, as `keys_put` and `eraseDups_append` both tell what one more key does.
  induction listed using List.reverseRecOn with
  | nil => rfl
  | append_singleton listed e ih =>
    rw [List.foldl_concat,keys_put,ih,List.map_append,List.map_singleton]
    simp only [List.mem_eraseDups]
    generalize listed.map BagEntry.key = keys
    rw [List.eraseDups_append]
    by_cases before : e.key ∈ keys <;> simp [List.removeAll,before,List.eraseDups_cons]

theorem nodup_foldl_put (listed : List BagEntry) : ((listed.foldl put []).map BagEntry.key).Nodup := by
  induction listed using List.reverseRecOn with
  | nil => exact .nil
  | append_singleton listed e ih =>
    rw [List.foldl_concat,keys_put]
    split
    next => exact ih
    next absent => exact List.nodup_append.2 ⟨ih,by simp,by simpa using absent⟩

/-- What is left of entries with the same key is the last one. -/
theorem getLast?_of_mem_foldl_put {listed : List BagEntry} {x : BagEntry} (mem : x ∈ listed.foldl put []) :
    (listed.filter fun e => e.key = x.key).getLast? = some x := by
  induction listed using List.reverseRecOn with
  | nil => cases mem
  | append_singleton listed e ih =>
    rw [List.foldl_concat,mem_put (nodup_foldl_put listed)] at mem
    rw [List.filter_append]
    rcases mem with rfl | ⟨before,differ⟩
    · simp
    · simpa [Ne.symm differ] using ih before

/-! ## Listing a lineage -/

/-- What a generation of a lineage lists: the entries of its layers in order, under the keys of its kind, which is
    that of its layer on top. The items of an array are numbered within their layer. -/
def written (g : ResourceId × List Layer) : List BagEntry :=
  let kind := (g.2.getLast?.map Layer.kind).getD default
  g.2.flatMap fun layer => layer.entries.mapIdx fun position (key,value) =>
    { key := if kind = .array then ResourceId.arrayBase + .ofNat position else key
      value
      cookie := layer.cookie
      style := g.1 }

/-- All entries of a lineage, from its last ancestor down. -/
def listing (lineage : List (ResourceId × List Layer)) : List BagEntry :=
  lineage.reverse.flatMap written

/-- Whether a bag has the keys of a listing in the order of their first occurrence, each with its last occurrence,
    and varies over what the layers of the lineage vary over. -/
structure Lists (bag : Bag) (lineage : List (ResourceId × List Layer)) : Prop where
  keys : bag.keys = ((listing lineage).map BagEntry.key).eraseDups
  last : ∀ e ∈ bag.entries, ((listing lineage).filter fun listed => listed.key = e.key).getLast? = some e
  distinct : bag.keys.Nodup
  changes : ∀ d, bag.changes.includes d ↔ ∃ g ∈ lineage, ∃ layer ∈ g.2, layer.changes.includes d

theorem key_eq (kind : BagKind) (key : UInt32) (position : Nat) :
    kind.key key position = if kind = .array then ResourceId.arrayBase + .ofNat position else key := by
  cases kind <;> rfl

theorem written_eq {g : ResourceId × List Layer} {top : Layer} (isTop : g.2.getLast? = some top) :
    written g = g.2.flatMap (entriesOf g.1 top.kind) := by
  unfold written entriesOf
  rw [isTop]
  simp only [List.mapIdx_eq_zipIdx_map,Option.map_some,Option.getD_some,key_eq]

theorem entries_foldl_lay (layers : List Layer) (b : Bag) :
    (layers.foldl lay b).entries = (layers.flatMap (entriesOf b.id b.kind)).foldl put b.entries := by
  induction layers generalizing b with
  | nil => rfl
  | cons layer rest ih =>
    rw [List.foldl_cons,ih,List.flatMap_cons,List.foldl_append]
    rfl

theorem includes_foldl_lay {layers : List Layer} {b : Bag} {d : Dimension} :
    (layers.foldl lay b).changes.includes d ↔ b.changes.includes d ∨ ∃ l ∈ layers, l.changes.includes d := by
  induction layers generalizing b with
  | nil => simp
  | cons layer rest ih =>
    rw [List.foldl_cons,ih]
    simp [lay,Changes.union,or_assoc]

/-- A bag has the entries of its parent before those of its layers. -/
theorem entries_compose {id : ResourceId} {top : Layer} {layers : List Layer} {parent : Option Bag}
    (isTop : layers.getLast? = some top) :
    (compose id top layers parent).entries = (written (id,layers)).foldl put ((parent.map entries).getD []) := by
  rw [compose,entries_foldl_lay,written_eq isTop]

/-- A bag varies over the dimensions of its layers and of its parent. -/
theorem includes_compose {id : ResourceId} {top : Layer} {layers : List Layer} {parent : Option Bag} {d : Dimension} :
    (compose id top layers parent).changes.includes d ↔
      (∃ b, parent = some b ∧ b.changes.includes d) ∨ ∃ l ∈ layers, l.changes.includes d := by
  rw [compose,includes_foldl_lay]
  cases parent <;> simp [Changes.none]

theorem compose_of_ofLineage {id : ResourceId} {top : Layer} {layers : List Layer}
    {above : List (ResourceId × List Layer)} {bag : Bag} (isTop : layers.getLast? = some top)
    (composed : ofLineage ((id,layers) :: above) = some bag) : compose id top layers (ofLineage above) = bag := by
  simpa [ofLineage,isTop] using composed

end Bag

namespace Registry
variable {r : Registry} {id : ResourceId} {lineage : List (ResourceId × List Layer)} {bag : Bag}

/-- A bag of a lineage has the entries of the listing put one after another. -/
theorem Lineage.entries_eq (isLineage : r.Lineage id lineage) (composed : Bag.ofLineage lineage = some bag) :
    bag.entries = (Bag.listing lineage).foldl Bag.put [] := by
  induction isLineage generalizing bag with
  | root isTop isRoot =>
    obtain rfl := Bag.compose_of_ofLineage isTop composed
    rw [Bag.entries_compose isTop]
    simp [Bag.listing,Bag.ofLineage]
  | child isTop hasParent lineage ih =>
    obtain rfl := Bag.compose_of_ofLineage isTop composed
    obtain ⟨parent,parentBag⟩ := BagCache.bag_of_lineage lineage
    rw [Bag.entries_compose isTop,parentBag]
    simp [Bag.listing,ih parentBag]

/-- A bag varies over the dimensions of all layers of its lineage. -/
theorem Lineage.includes_iff (isLineage : r.Lineage id lineage) (composed : Bag.ofLineage lineage = some bag)
    {d : Dimension} : bag.changes.includes d ↔ ∃ g ∈ lineage, ∃ layer ∈ g.2, layer.changes.includes d := by
  induction isLineage generalizing bag with
  | root isTop isRoot =>
    obtain rfl := Bag.compose_of_ofLineage isTop composed
    simp [Bag.includes_compose,Bag.ofLineage]
  | child isTop hasParent lineage ih =>
    obtain rfl := Bag.compose_of_ofLineage isTop composed
    obtain ⟨parent,parentBag⟩ := BagCache.bag_of_lineage lineage
    rw [Bag.includes_compose,parentBag]
    simp [ih parentBag,or_comm]

theorem Lineage.lists (isLineage : r.Lineage id lineage) (composed : Bag.ofLineage lineage = some bag) :
    bag.Lists lineage := by
  have entries := isLineage.entries_eq composed
  constructor
  · rw [Bag.keys,entries]
    exact Bag.keys_foldl_put _
  · intro e mem
    rw [entries] at mem
    exact Bag.getLast?_of_mem_foldl_put mem
  · rw [Bag.keys,entries]
    exact Bag.nodup_foldl_put _
  · intro d
    exact isLineage.includes_iff composed

/-- Whether layers are those that all sources have for a bag, in ascending order of the ranks of their sources. -/
def Ranked (r : Registry) (id : ResourceId) (layers : List Layer) : Prop :=
  id.isValid ∧ ∃ ranked : List Placed, ranked.Perm r.placed ∧
    ranked.Pairwise (fun a b => compare a.rank b.rank = .lt) ∧ layers = ranked.filterMap (r.layerIn? id)

theorem Lineage.ranked (isLineage : r.Lineage id lineage) {g : ResourceId × List Layer} (mem : g ∈ lineage) :
    r.Ranked g.1 g.2 := by
  obtain ⟨layers,top,isTop⟩ := isLineage.layers_eq mem
  have valid : g.1.isValid := (mem_layers.1 (List.mem_of_getLast? isTop)).1
  refine ⟨valid,r.byRank,byRank_perm,byRank_ascending,?_⟩
  rw [layers,Registry.layers,if_pos valid]

end Registry

namespace Manager
variable {m : Manager}

/-- A manager that keeps nothing wrong has a bag for each lineage, composed of it. -/
theorem Sound.bag?_eq_some_iff (sound : m.Sound) {id : ResourceId} {bag : Bag} :
    (m.bag? id).1 = some bag ↔ ∃ lineage, m.registry.Lineage id lineage ∧ Bag.ofLineage lineage = some bag := by
  rw [sound.bag?_eq,fresh_bag?_eq_some_iff]
  exact BagCache.builds_empty_iff

/-- The bags of a manager that keeps nothing wrong are those that have a lineage, and each one is what its lineage
    lists: of entries with the same key the first one has the place and the last one the say. -/
theorem bag?_listing (sound : m.Sound) (id : ResourceId) :
    ((m.bag? id).1.isSome ↔ ∃ lineage, m.registry.Lineage id lineage) ∧
      ∀ bag, (m.bag? id).1 = some bag → ∃ lineage, m.registry.Lineage id lineage ∧
        (∀ g ∈ lineage, m.registry.Ranked g.1 g.2) ∧ bag.Lists lineage := by
  constructor
  · rw [Option.isSome_iff_exists]
    constructor
    · rintro ⟨bag,found⟩
      obtain ⟨lineage,isLineage,_⟩ := sound.bag?_eq_some_iff.1 found
      exact ⟨lineage,isLineage⟩
    · rintro ⟨lineage,isLineage⟩
      obtain ⟨bag,composed⟩ := BagCache.bag_of_lineage isLineage
      exact ⟨bag,sound.bag?_eq_some_iff.2 ⟨lineage,isLineage,composed⟩⟩
  · intro bag found
    obtain ⟨lineage,isLineage,composed⟩ := sound.bag?_eq_some_iff.1 found
    exact ⟨lineage,isLineage,fun _ mem => isLineage.ranked mem,isLineage.lists composed⟩

/-- A manager with a style and its parent in one source, and with the style in a second source. -/
def layered : Manager :=
  let style (name : String) (parent : ResourceId) (values : List (UInt32 × UInt32)) : Entry :=
    ⟨⟨"app","style",name⟩,[⟨{},.bag parent (values.map fun (key,data) => (key,⟨.decimal,data⟩))⟩]⟩
  let base : Table :=
    { packages := .ofList [(0x7f,"app")]
      entries := .ofList [
        (0x7f020000,style "Parent" 0 [(0x7f010001,1),(0x7f010002,2)]),
        (0x7f020001,style "Child" 0x7f020000 [(0x7f010002,22),(0x7f010003,3)])] }
  let overlay : Table :=
    { packages := .ofList [(0x7f,"app")]
      entries := .ofList [(0x7f020001,style "Child" 0x7f020000 [(0x7f010003,30),(0x7f010004,4)])] }
  { registry := { sources := [{ path := "base", table := base },{ path := "overlay", table := overlay }] } }

/-- Values of the parent, of the style and of its second definition, in the places of their keys. -/
theorem bag?_listing_layered :
    ∃ bag lineage, (layered.bag? 0x7f020001).1 = some bag ∧ layered.registry.Lineage 0x7f020001 lineage ∧
      bag.Lists lineage ∧ (bag.entries.map fun e => (e.key,e.value.data,e.cookie,e.style)) =
        [(0x7f010001,1,⟨0⟩,0x7f020000),(0x7f010002,22,⟨0⟩,0x7f020001),(0x7f010003,30,⟨1⟩,0x7f020001),
          (0x7f010004,4,⟨1⟩,0x7f020001)] := by
  have values : ((layered.bag? 0x7f020001).1.map fun bag =>
      bag.entries.map fun e => (e.key,e.value.data,e.cookie,e.style)) = some
        [(0x7f010001,1,⟨0⟩,0x7f020000),(0x7f010002,22,⟨0⟩,0x7f020001),(0x7f010003,30,⟨1⟩,0x7f020001),
          (0x7f010004,4,⟨1⟩,0x7f020001)] := by decide +kernel
  obtain ⟨bag,found,entries⟩ := Option.map_eq_some_iff.1 values
  obtain ⟨_,each⟩ := bag?_listing (current_of_empty (m := layered) rfl).sound 0x7f020001
  obtain ⟨lineage,isLineage,_,lists⟩ := each bag found
  exact ⟨bag,lineage,found,isLineage,lists,entries⟩

end Manager

end AndroidResources
