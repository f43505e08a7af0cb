import AndroidResources.Proofs.BagEntries
import AndroidResources.Proofs.CookieHistory

/-!
# The sources of a bag's entries

Each entry of a bag stands in a definition of one source, and has the cookie of that source (`Registry.Gives`). A
manager keeps only such bags for its current sources, whatever is done with it (`Manager.Sourced`): a change of the
devices may keep a bag that they would not find anymore, yet it leaves sources and cookies alone.
-/
namespace AndroidResources

/-- Whether a source has a value for a key in a definition of a bag, or as the item of an array with that key. -/
def Source.Sets (s : Source) (bag : ResourceId) (key : UInt32) (v : Value) : Prop :=
  ∃ entry, s.table.entry? bag = some entry ∧ ∃ d ∈ entry.definitions, ∃ parent items, d.content = .bag parent items ∧
    ∃ position k, items[position]? = some (k,v) ∧ ∃ kind : BagKind, kind.key k position = key

/-- Whether a source that sets a value has a cookie. -/
def Registry.Gives (r : Registry) (bag : ResourceId) (key : UInt32) (v : Value) (c : Cookie) : Prop :=
  ∃ position s, r.sources[position]? = some s ∧ c = r.cookieAt position ∧ s.Sets bag key v

/-! ## Bags -/

namespace Bag

theorem mem_of_mem_put {entries : List BagEntry} {e x : BagEntry} (mem : x ∈ put entries e) :
    x ∈ entries ∨ x = e := by
  induction entries with
  | nil => exact .inr (List.mem_singleton.1 mem)
  | cons first rest ih =>
    rw [put] at mem
    split at mem
    · rcases List.mem_cons.1 mem with rfl | later
      · exact .inr rfl
      · exact .inl (List.mem_cons_of_mem _ later)
    · rcases List.mem_cons.1 mem with rfl | later
      · exact .inl List.mem_cons_self
      · rcases ih later with before | new
        · exact .inl (List.mem_cons_of_mem _ before)
        · exact .inr new

theorem mem_of_mem_foldl_put {listed entries : List BagEntry} {x : BagEntry} (mem : x ∈ listed.foldl put entries) :
    x ∈ entries ∨ x ∈ listed := by
  induction listed generalizing entries with
  | nil => exact .inl mem
  | cons e rest ih =>
    rcases ih mem with before | later
    · rcases mem_of_mem_put before with old | rfl
      · exact .inl old
      · exact .inr List.mem_cons_self
    · exact .inr (List.mem_cons_of_mem _ later)

end Bag

namespace Registry
variable {r : Registry} {id : ResourceId}

/-- Whether each entry of a bag is given by a source. -/
def GivesAll (r : Registry) (bag : Bag) : Prop :=
  ∀ e ∈ bag.entries, r.Gives e.style e.key e.value e.cookie

theorem Gives.of_sources {r' : Registry} (sources : r'.sources = r.sources) (base : r'.base = r.base)
    {key : UInt32} {v : Value} {c : Cookie} (gives : r.Gives id key v c) : r'.Gives id key v c := by
  obtain ⟨position,s,at_position,rfl,sets⟩ := gives
  exact ⟨position,s,by rw [sources,at_position],by rw [cookieAt,cookieAt,base],sets⟩

/-- The entries of a layer stand in the definition that its source brings to the bag. -/
theorem gives_of_written {e : BagEntry} (mem : e ∈ Bag.written (id,r.layers id)) :
    r.Gives e.style e.key e.value e.cookie := by
  obtain ⟨layer,isLayer,listed⟩ := List.mem_flatMap.1 mem
  obtain ⟨position,inside,rfl⟩ := List.mem_mapIdx.1 listed
  obtain ⟨_,p,placed,found⟩ := mem_layers.1 isLayer
  obtain ⟨selected,isSelected,layerOf⟩ := layerIn?_eq_some found
  obtain ⟨entry,isEntry,isDefinition,cookie,_⟩ := entry_of_candidate (selectLocalized?_mem isSelected)
  obtain ⟨at_position,s,isSource,rfl⟩ := mem_placed_iff.1 (mem_byRank.1 placed)
  unfold layerOf? at layerOf
  split at layerOf
  · cases layerOf
  next parent items content =>
    obtain rfl := Option.some.inj layerOf
    refine ⟨at_position,s,isSource,cookie,entry,isEntry,selected.1.definition,isDefinition,parent,items,content,
      position,items[position].1,List.getElem?_eq_getElem inside,
      ((r.layers id).getLast?.map Layer.kind).getD default,?_⟩
    exact Bag.key_eq _ _ _

/-- A bag that is put together is given if its parent is. -/
theorem givesAll_compose {top : Layer} {parent : Option Bag} (isTop : (r.layers id).getLast? = some top)
    (above : ∀ b, parent = some b → r.GivesAll b) : r.GivesAll (.compose id top (r.layers id) parent) := by
  intro e mem
  rw [Bag.entries_compose isTop] at mem
  rcases Bag.mem_of_mem_foldl_put mem with inherited | written
  · cases parent with
    | none => cases inherited
    | some b => exact above b rfl e inherited
  · exact gives_of_written written

/-- What is put together from given bags is given. -/
theorem givesAll_of_builds {generation : Nat} {c : BagCache} {bag : Bag}
    (kept : ∀ id bag, c.bag? generation id = some bag → r.GivesAll bag)
    (builds : BagCache.Builds r generation c id bag) : r.GivesAll bag := by
  induction builds with
  | kept hit => exact kept _ _ hit
  | root _ isTop _ => exact givesAll_compose isTop fun _ none => nomatch none
  | child _ isTop _ _ ih =>
    refine givesAll_compose isTop fun b isParent => ?_
    obtain rfl := Option.some.inj isParent
    exact ih

end Registry

/-! ## Managers -/

namespace Manager
variable {m m' : Manager}

/-- Whether each bag that is kept for the current generation is given by the sources, and none is of a generation to
    come. -/
structure Sourced (m : Manager) : Prop where
  kept : ∀ id bag, m.bags.bag? m.generation id = some bag → m.registry.GivesAll bag
  past : ∀ id kept, m.bags.get? id = some kept → kept.generation ≤ m.generation

theorem sourced_of_empty (empty : m.bags = {}) : m.Sourced := by
  constructor
  · intro id bag hit
    simp [empty,BagCache.bag?_empty] at hit
  · intro id kept hit
    simp [empty] at hit

theorem operate_tag (m : Manager) (operation : Operation) : (m.operate operation).tag = m.tag := by
  cases operation with
  | setConfigurations configurations refresh => cases configurations <;> rfl
  | act action =>
    cases action with
    | setSources sources invalidate => cases invalidate <;> rfl
    | refresh configurations => cases configurations <;> rfl
    | ask question => exact (asked_question m question).tag
    | _ => rfl

/-- Each bag that a manager answers with is given by its sources. -/
theorem Sourced.givesAll (sourced : m.Sourced) {id : ResourceId} {bag : Bag} (found : (m.bag? id).1 = some bag) :
    m.registry.GivesAll bag :=
  Registry.givesAll_of_builds sourced.kept (bag?_eq_some_iff.1 found)

theorem Asked.sourced (asked : m.Asked m') (sourced : m.Sourced) : m'.Sourced := by
  constructor
  · intro id bag hit
    have builds : BagCache.Builds m'.registry m'.generation m'.bags id bag := .kept hit
    rw [asked.registry,asked.generation] at builds
    rw [asked.registry]
    exact Registry.givesAll_of_builds sourced.kept ((asked.builds id bag).1 builds)
  · exact asked.past sourced.past

theorem Sourced.install (sourced : m.Sourced) (sources : List Source) : (m.install sources).Sourced := by
  constructor
  · intro id bag hit
    rw [bag?_install sourced.past] at hit
    cases hit
  · intro id kept found
    exact Nat.le_succ_of_le (sourced.past id kept found)

/-- What is kept past a change of the devices is given by the sources that it was given by before. -/
theorem Sourced.without (sourced : m.Sourced) (primary : Configuration) (others : List Configuration)
    (changes : Changes) :
    { m with registry := { m.registry with primary, others }, bags := m.bags.without changes }.Sourced := by
  have before {id : ResourceId} {kept : CachedBag} (found : (m.bags.without changes).get? id = some kept) :
      m.bags.get? id = some kept := by
    rw [BagCache.without,OrderedMap.get?_filter] at found
    exact (Option.filter_eq_some_iff.1 found).1
  constructor
  · intro id bag hit e mem
    have hit := BagCache.bag?_eq_some_iff.2 (before (BagCache.bag?_eq_some_iff.1 hit))
    exact (sourced.kept id bag hit e mem).of_sources rfl rfl
  · intro id kept found
    exact sourced.past id kept (before found)

theorem Sourced.operate (sourced : m.Sourced) (operation : Operation) : (m.operate operation).Sourced := by
  cases operation with
  | setConfigurations configurations refresh =>
    cases configurations with
    | nil => exact sourced
    | cons primary others =>
      cases refresh with
      | false => exact sourced.without primary others _
      | true => exact sourced_of_empty rfl
  | act action =>
    cases action with
    | setSources sources invalidate =>
      cases invalidate with
      | false => exact sourced.install sources
      | true => exact sourced_of_empty rfl
    | presetSources sources => exact sourced.install sources
    | setDefaultLocale locale => exact sourced_of_empty rfl
    | refresh configurations =>
      cases configurations with
      | nil => exact sourced
      | cons primary others => exact sourced_of_empty rfl
    | setLogging logging => exact ⟨sourced.kept,sourced.past⟩
    | ask question => exact (asked_question m question).sourced sourced

end Manager

end AndroidResources
