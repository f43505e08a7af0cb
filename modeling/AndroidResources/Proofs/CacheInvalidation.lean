import AndroidResources.Proofs.BagEntries
import AndroidResources.Proofs.SelectionStability
import AndroidResources.Proofs.Variation

/-!
# What is kept when devices change

A change of the devices drops each bag that varies over a dimension that changes. What is kept is then right
exactly if its lineage is composed alike for the new devices (`Manager.transparent_withDevices_iff`). Where the
devices of a registry differ in their locales only, a layer that is found for the old and for the new ones is the
same (`Registry.Differ.layerIn?_eq`), so a bag that is kept can only be wrong where a definition begins or ceases
to suit a device (`Manager.sameLayers_iff`).
-/
namespace AndroidResources

namespace Registry
variable {r r' : Registry} {changes : Changes}

/-! ## Layers for other devices -/

/-- The definitions of a resource share the dimensions over which they do not vary. -/
theorem view_eq_of_not_variation {definitions : List Definition} {d : Dimension}
    (constant : ¬ (variation definitions).includes d) {a b : Definition} (a_mem : a ∈ definitions)
    (b_mem : b ∈ definitions) : d.view a.configuration = d.view b.configuration := by
  by_contra differ
  exact constant (variation_includes_iff.2 ⟨a,a_mem,b,b_mem,differ⟩)

/-- The candidates behind a layer share the dimensions over which it does not vary. -/
theorem shared_of_layer {id : ResourceId} {p : Placed} {layer : Layer} (found : r.layerIn? id p = some layer)
    {d : Dimension} (constant : ¬ layer.changes.includes d) : Shared (candidatesIn p id) d := by
  obtain ⟨selected,isSelected,isLayer⟩ := layerIn?_eq_some found
  obtain ⟨entry,isEntry,_,_,_,_,changes⟩ := entry_of_candidate (selectLocalized?_mem isSelected)
  have layerChanges : layer.changes = entry.changes := by
    unfold layerOf? at isLayer
    split at isLayer
    · cases isLayer
    · obtain rfl := Option.some.inj isLayer
      exact changes
  rw [layerChanges] at constant
  have definition {c : Candidate} (mem : c ∈ candidatesIn p id) : c.definition ∈ entry.definitions := by
    obtain ⟨entry',isEntry',isDefinition,_⟩ := entry_of_candidate mem
    obtain rfl := Option.some.inj (isEntry.symm.trans isEntry')
    exact isDefinition
  intro a a_mem b b_mem
  exact view_eq_of_not_variation constant (definition a_mem) (definition b_mem)

/-- A layer that does not vary over what changes is the same for the old and the new devices, if it is found for
    both. -/
theorem Differ.layerIn?_eq (differ : r.Differ r' changes) (uniform : r.Uniform) (uniform' : r'.Uniform)
    {id : ResourceId} {p : Placed} {layer layer' : Layer}
    (constant : ∀ d, changes.includes d → ¬ layer.changes.includes d) (found : r.layerIn? id p = some layer)
    (found' : r'.layerIn? id p = some layer') : layer' = layer := by
  have shared : ∀ d, changes.includes d → Shared (candidatesIn p id) d := fun d affected =>
    shared_of_layer found (constant d affected)
  obtain ⟨selected,isSelected,isLayer⟩ := layerIn?_eq_some found
  obtain ⟨selected',isSelected',isLayer'⟩ := layerIn?_eq_some found'
  rw [differ.selectLocalized?_eq uniform uniform' shared isSelected isSelected'] at isLayer'
  exact Option.some.inj (isLayer'.symm.trans isLayer)

theorem Differ.byRank_eq (differ : r.Differ r' changes) : r'.byRank = r.byRank := by
  simp only [byRank,placed,differ.sources,placeAt,cookieAt,differ.base]

/-- Where each source has the same layer for a bag, so has the registry. -/
theorem Differ.layers_eq (differ : r.Differ r' changes) {id : ResourceId}
    (same : ∀ p ∈ r.byRank, r'.layerIn? id p = r.layerIn? id p) : r'.layers id = r.layers id := by
  unfold layers
  rw [differ.byRank_eq,List.filterMap_congr same]

theorem Lineage.of_layers_eq {id : ResourceId} {lineage : List (ResourceId × List Layer)}
    (isLineage : r.Lineage id lineage) (same : ∀ g ∈ lineage, r'.layers g.1 = r.layers g.1) :
    r'.Lineage id lineage := by
  induction isLineage with
  | @root id top isTop isRoot =>
    have layers : r'.layers id = r.layers id := same (id,r.layers id) List.mem_cons_self
    rw [← layers] at isTop ⊢
    exact .root isTop isRoot
  | @child id top above isTop hasParent _ ih =>
    have layers : r'.layers id = r.layers id := same (id,r.layers id) List.mem_cons_self
    rw [← layers] at isTop ⊢
    exact .child isTop hasParent (ih fun g mem => same g (List.mem_cons_of_mem _ mem))

theorem byRank_subsingleton (single : r.sources.length ≤ 1) {p q : Placed} (p_mem : p ∈ r.byRank)
    (q_mem : q ∈ r.byRank) : p = q := by
  obtain ⟨i,s,s_at,rfl⟩ := mem_placed_iff.1 (mem_byRank.1 p_mem)
  obtain ⟨j,t,t_at,rfl⟩ := mem_placed_iff.1 (mem_byRank.1 q_mem)
  have i_lt := (List.getElem?_eq_some_iff.1 s_at).1
  have j_lt := (List.getElem?_eq_some_iff.1 t_at).1
  obtain rfl : i = j := by omega
  obtain rfl := Option.some.inj (s_at.symm.trans t_at)
  rfl

/-- In a registry with one source, a bag that does not vary over what changes keeps its ancestors, if it can be put
    together at all for the new devices. -/
theorem Differ.layer_of_lineage (differ : r.Differ r' changes) (uniform : r.Uniform) (uniform' : r'.Uniform)
    (single : r.sources.length ≤ 1) {id : ResourceId} {lineage lineage' : List (ResourceId × List Layer)}
    (isLineage : r.Lineage id lineage)
    (constant : ∀ g ∈ lineage, ∀ layer ∈ g.2, ∀ d, changes.includes d → ¬ layer.changes.includes d)
    (isLineage' : r'.Lineage id lineage') {g : ResourceId × List Layer} (mem : g ∈ lineage) :
    ∃ top, (r'.layers g.1).getLast? = some top := by
  have top_eq {id : ResourceId} {top top' : Layer} (isTop : (r.layers id).getLast? = some top)
      (isTop' : (r'.layers id).getLast? = some top')
      (constant : ∀ d, changes.includes d → ¬ top.changes.includes d) : top' = top := by
    obtain ⟨_,p,p_mem,found⟩ := mem_layers.1 (List.mem_of_getLast? isTop)
    obtain ⟨_,q,q_mem,found'⟩ := mem_layers.1 (List.mem_of_getLast? isTop')
    rw [differ.byRank_eq] at q_mem
    obtain rfl := byRank_subsingleton single p_mem q_mem
    exact differ.layerIn?_eq uniform uniform' constant found found'
  induction isLineage generalizing lineage' with
  | @root id top isTop isRoot =>
    obtain rfl := List.mem_singleton.1 mem
    cases isLineage' with
    | root isTop' => exact ⟨_,isTop'⟩
    | child isTop' => exact ⟨_,isTop'⟩
  | @child id top above isTop hasParent _ ih =>
    have own := constant (id,r.layers id) List.mem_cons_self top (List.mem_of_getLast? isTop)
    cases isLineage' with
    | root isTop' isRoot =>
      obtain rfl := top_eq isTop isTop' own
      exact absurd isRoot hasParent
    | child isTop' _ above' =>
      obtain rfl := top_eq isTop isTop' own
      rcases List.mem_cons.1 mem with rfl | mem
      · exact ⟨_,isTop'⟩
      · exact ih (fun g mem => constant g (List.mem_cons_of_mem _ mem)) above' mem

end Registry

/-! ## Changing the devices -/

namespace Manager
variable {m m' : Manager}

theorem localeOnly_eq_of_not_localesDiffer {a b : List Configuration} (same : ¬ localesDiffer a b) :
    b.map Configuration.localeOnly = a.map Configuration.localeOnly := by
  induction a generalizing b with
  | nil =>
    cases b with
    | nil => rfl
    | cons => simp [localesDiffer] at same
  | cons first rest ih =>
    cases b with
    | nil => simp [localesDiffer] at same
    | cons first' rest' =>
      have parts : (first.language = first'.language ∧ first.region = first'.region) ∧ ¬ localesDiffer rest rest' := by
        simpa [localesDiffer,and_left_comm] using same
      simp [ih parts.2,Configuration.localeOnly,parts.1]

/-- The bag that is kept for an id in the current generation. -/
def Keeps (m : Manager) (id : ResourceId) (bag : Bag) : Prop :=
  m.bags.bag? m.generation id = some bag

/-- The manager after a change of the devices that drops no more than what varies over it. -/
def withDevices (m : Manager) (primary : Configuration) (others : List Configuration) : Manager :=
  { m with
    registry := { m.registry with primary, others }
    bags := m.bags.without (changesBetween m.registry primary others) }

theorem setConfigurations_eq (m : Manager) (primary : Configuration) (others : List Configuration) :
    m.setConfigurations (primary :: others) false = .ok (m.withDevices primary others) := rfl

section
variable {primary : Configuration} {others : List Configuration}

theorem changesBetween_includes (r : Registry) {d : Dimension} :
    (changesBetween r primary others).includes d ↔
      d.view r.primary ≠ d.view primary ∨ localesDiffer r.configurations (primary :: others) ∧ d = .locale := by
  unfold changesBetween
  cases localesDiffer r.configurations (primary :: others) <;>
    simp [Changes.union,Changes.only,Configuration.diff]

theorem differ_withDevices (m : Manager) (primary : Configuration) (others : List Configuration) :
    m.registry.Differ (m.withDevices primary others).registry (changesBetween m.registry primary others) := by
  refine ⟨rfl,rfl,rfl,?_,?_⟩
  · intro d unaffected
    by_contra views
    exact unaffected ((changesBetween_includes m.registry).2 (.inl views))
  · intro stays
    apply localeOnly_eq_of_not_localesDiffer
    intro differ
    exact stays ((changesBetween_includes m.registry).2 (.inr ⟨differ,rfl⟩))

/-- A bag that is kept was kept before, and does not vary over what changes. -/
theorem keeps_withDevices_iff {id : ResourceId} {bag : Bag} :
    (m.withDevices primary others).Keeps id bag ↔
      m.Keeps id bag ∧ ¬ bag.changes.intersects (changesBetween m.registry primary others) := by
  simp only [Keeps,BagCache.bag?_eq_some_iff,withDevices,BagCache.without,OrderedMap.get?_filter,
    Option.filter_eq_some_iff]
  simp

/-- Whether what is kept is right, and so each answer for a bag is that of a manager that keeps nothing. -/
def Transparent (m : Manager) : Prop :=
  m.Sound ∧ ∀ id, (m.bag? id).1 = (m.fresh.bag? id).1

/-- Whether the lineages of all that is kept are composed alike in another manager. -/
def SameBags (m m' : Manager) : Prop :=
  ∀ id bag, m'.Keeps id bag → ∀ lineage, m.registry.Lineage id lineage →
    ∃ lineage', m'.registry.Lineage id lineage' ∧ Bag.ofLineage lineage' = Bag.ofLineage lineage

/-- Whether each source has the same layers for all that is kept and its ancestors in another manager. -/
def SameLayers (m m' : Manager) : Prop :=
  ∀ id bag, m'.Keeps id bag → ∀ lineage, m.registry.Lineage id lineage → ∀ g ∈ lineage, ∀ p ∈ m.registry.byRank,
    m'.registry.layerIn? g.1 p = m.registry.layerIn? g.1 p

/-- Whether the same sources have layers for all that is kept and its ancestors in another manager. -/
def SameSources (m m' : Manager) : Prop :=
  ∀ id bag, m'.Keeps id bag → ∀ lineage, m.registry.Lineage id lineage → ∀ g ∈ lineage, ∀ p ∈ m.registry.byRank,
    (m'.registry.layerIn? g.1 p).isSome = (m.registry.layerIn? g.1 p).isSome

/-- What is kept is right exactly if it is put together from its lineage. -/
theorem transparent_iff : m.Transparent ↔
    ∀ id bag, m.Keeps id bag → ∃ lineage, m.registry.Lineage id lineage ∧ Bag.ofLineage lineage = some bag := by
  constructor
  · rintro ⟨sound,_⟩ id bag keeps
    exact BagCache.builds_empty_iff.1 (fresh_bag?_eq_some_iff.1 (sound id bag keeps))
  · intro composed
    have sound : m.Sound := fun id bag keeps =>
      fresh_bag?_eq_some_iff.2 (BagCache.builds_empty_iff.2 (composed id bag keeps))
    exact ⟨sound,sound.bag?_eq⟩

/-- What was sound has a lineage, of which it is composed. -/
theorem Sound.lineage (sound : m.Sound) {id : ResourceId} {bag : Bag} (keeps : m.Keeps id bag) :
    ∃ lineage, m.registry.Lineage id lineage ∧ Bag.ofLineage lineage = some bag :=
  BagCache.builds_empty_iff.1 (fresh_bag?_eq_some_iff.1 (sound id bag keeps))

/-- What was sound is right for new devices exactly if it is composed as before. -/
theorem transparent_withDevices_iff (sound : m.Sound) :
    (m.withDevices primary others).Transparent ↔ m.SameBags (m.withDevices primary others) := by
  rw [transparent_iff]
  constructor
  · intro composed id bag keeps lineage isLineage
    obtain ⟨old,isOld,oldBag⟩ := sound.lineage (keeps_withDevices_iff.1 keeps).1
    obtain ⟨lineage',isLineage',newBag⟩ := composed id bag keeps
    obtain rfl := isOld.unique isLineage
    exact ⟨lineage',isLineage',newBag.trans oldBag.symm⟩
  · intro same id bag keeps
    obtain ⟨lineage,isLineage,oldBag⟩ := sound.lineage (keeps_withDevices_iff.1 keeps).1
    obtain ⟨lineage',isLineage',newBag⟩ := same id bag keeps lineage isLineage
    exact ⟨lineage',isLineage',newBag.trans oldBag⟩

/-- Of the same layers the same bags are composed. -/
theorem SameLayers.sameBags (same : m.SameLayers (m.withDevices primary others)) :
    m.SameBags (m.withDevices primary others) := by
  intro id bag keeps lineage isLineage
  refine ⟨lineage,isLineage.of_layers_eq fun g mem => ?_,rfl⟩
  exact (differ_withDevices m primary others).layers_eq (same id bag keeps lineage isLineage g mem)

/-- A layer of what is kept does not vary over what changes. -/
theorem constant_of_keeps (sound : m.Sound) {id : ResourceId} {bag : Bag}
    (keeps : (m.withDevices primary others).Keeps id bag) {lineage : List (ResourceId × List Layer)}
    (isLineage : m.registry.Lineage id lineage) {g : ResourceId × List Layer} (g_mem : g ∈ lineage) {layer : Layer}
    (mem : layer ∈ g.2) (d : Dimension) (affected : (changesBetween m.registry primary others).includes d) :
    ¬ layer.changes.includes d := by
  intro varies
  obtain ⟨before,disjoint⟩ := keeps_withDevices_iff.1 keeps
  obtain ⟨lineage',isLineage',composed⟩ := sound.lineage before
  obtain rfl := isLineage.unique isLineage'
  exact disjoint (Changes.intersects_iff.2 ⟨d,(isLineage.includes_iff composed).2 ⟨g,g_mem,layer,mem,varies⟩,affected⟩)

/-- Where the devices differ in their locales only, the layers of what is kept are the same as soon as the same
    sources have one. -/
theorem sameLayers_iff (sound : m.Sound) (uniform : m.registry.Uniform)
    (uniform' : (m.withDevices primary others).registry.Uniform) :
    m.SameLayers (m.withDevices primary others) ↔ m.SameSources (m.withDevices primary others) := by
  constructor
  · intro same id bag keeps lineage isLineage g g_mem p p_mem
    rw [same id bag keeps lineage isLineage g g_mem p p_mem]
  · intro same id bag keeps lineage isLineage g g_mem p p_mem
    have found_iff := same id bag keeps lineage isLineage g g_mem p p_mem
    cases found : m.registry.layerIn? g.1 p with
    | none =>
      rw [found] at found_iff
      exact Option.not_isSome_iff_eq_none.1 (by simp [found_iff])
    | some layer =>
      obtain ⟨layer',found'⟩ := Option.isSome_iff_exists.1 (found_iff.trans (by rw [found]; rfl))
      obtain ⟨layers,top,isTop⟩ := isLineage.layers_eq g_mem
      have valid := (Registry.mem_layers.1 (List.mem_of_getLast? isTop)).1
      have mem : layer ∈ g.2 := layers ▸ Registry.mem_layers.2 ⟨valid,p,p_mem,found⟩
      rw [found',(differ_withDevices m primary others).layerIn?_eq uniform uniform'
        (constant_of_keeps sound keeps isLineage g_mem mem) found found']

/-- With one source, what is kept is composed as before only if the source still has a layer for it and all its
    ancestors. -/
theorem SameBags.sameSources (same : m.SameBags (m.withDevices primary others)) (sound : m.Sound)
    (uniform : m.registry.Uniform) (uniform' : (m.withDevices primary others).registry.Uniform)
    (single : m.registry.sources.length ≤ 1) : m.SameSources (m.withDevices primary others) := by
  intro id bag keeps lineage isLineage g g_mem p p_mem
  have differ := differ_withDevices m primary others
  obtain ⟨lineage',isLineage',_⟩ := same id bag keeps lineage isLineage
  obtain ⟨_,top,isTop⟩ := isLineage.layers_eq g_mem
  obtain ⟨top',isTop'⟩ := differ.layer_of_lineage uniform uniform' single isLineage
    (fun g g_mem layer mem => constant_of_keeps sound keeps isLineage g_mem mem) isLineage' g_mem
  obtain ⟨_,q,q_mem,found⟩ := Registry.mem_layers.1 (List.mem_of_getLast? isTop)
  obtain ⟨_,q',q'_mem,found'⟩ := Registry.mem_layers.1 (List.mem_of_getLast? isTop')
  rw [differ.byRank_eq] at q'_mem
  rw [Registry.byRank_subsingleton single p_mem q_mem,found,Registry.byRank_subsingleton single q_mem q'_mem,found']
  rfl

end

/-- A change of the devices keeps the bags that do not vary over it. After it, all answers for bags are those of a
    manager that keeps nothing exactly if the lineage of each bag that is kept is composed as before, for which the
    same layers suffice. Where old and new devices differ in their locales only, the layers are the same exactly if
    the same sources have one; with one source this is also necessary. -/
theorem setConfigurations_transparent_iff (sound : m.Sound) (primary : Configuration) (others : List Configuration) :
    ∃ m', m.setConfigurations (primary :: others) false = .ok m' ∧
      m'.registry = { m.registry with primary, others } ∧
      (∀ id bag, m'.Keeps id bag ↔
        m.Keeps id bag ∧ ¬ bag.changes.intersects (changesBetween m.registry primary others)) ∧
      (m'.Transparent ↔ m.SameBags m') ∧
      (m.SameLayers m' → m.SameBags m') ∧
      (m.registry.Uniform → m'.registry.Uniform →
        (m.SameLayers m' ↔ m.SameSources m') ∧
          (m.registry.sources.length ≤ 1 → (m.SameBags m' ↔ m.SameSources m'))) := by
  refine ⟨m.withDevices primary others,setConfigurations_eq m primary others,rfl,fun _ _ => keeps_withDevices_iff,
    transparent_withDevices_iff sound,SameLayers.sameBags,fun uniform uniform' => ?_⟩
  have layers_iff := sameLayers_iff sound uniform uniform'
  refine ⟨layers_iff,fun single => ⟨fun same => ?_,fun same => ?_⟩⟩
  · exact same.sameSources sound uniform uniform' single
  · exact (layers_iff.2 same).sameBags

/-! ### A style that is kept -/

/-- A manager with one style and a device, that was asked for the style. -/
def withStyleFor (definitions : List Definition) (primary : Configuration) (others : List Configuration) : Manager :=
  let style : Entry := ⟨⟨"app","style","S"⟩,definitions⟩
  let table : Table := { packages := .ofList [(0x7f,"app")], entries := .ofList [(0x7f020000,style)] }
  (bag? { registry := { sources := [{ path := "base", table }], primary, others } } 0x7f020000).2

/-- A style that sets one attribute, for some configuration. -/
def styleFor (configuration : Configuration) (value : UInt32) : Definition :=
  ⟨configuration,.bag 0 [(0x7f010001,⟨.decimal,value⟩)]⟩

theorem withStyleFor_sound (definitions : List Definition) (primary : Configuration) (others : List Configuration) :
    (withStyleFor definitions primary others).Sound :=
  ((Asked.bag? _ _).current (current_of_empty rfl)).sound

/-- A style without qualifiers is kept when the device is turned, and is right. -/
theorem setConfigurations_transparent_plain :
    let m := withStyleFor [styleFor {} 1] { orientation := 2 } []
    ∃ m', m.setConfigurations [{ orientation := 1 }] false = .ok m' ∧ m'.bags.keys = [0x7f020000] ∧ m'.Transparent := by
  intro m
  obtain ⟨m',changed,_,_,right_iff,_,devices⟩ :=
    setConfigurations_transparent_iff (withStyleFor_sound [styleFor {} 1] { orientation := 2 } [])
      { orientation := 1 } []
  obtain rfl := Except.ok.inj changed
  have kept : (m.withDevices { orientation := 1 } []).bags.keys = [0x7f020000] := by decide +kernel
  have alone : ∀ device : Configuration, Registry.Uniform { m.registry with primary := device, others := [] } :=
    fun _ _ mem => absurd mem List.not_mem_nil
  refine ⟨_,changed,kept,right_iff.2 (((devices (alone _) (alone _)).2 (Nat.le_refl 1)).2 ?_)⟩
  intro id bag keeps lineage isLineage g g_mem p p_mem
  obtain rfl : id = 0x7f020000 := by
    have member := OrderedMap.get?_eq_some.1 (BagCache.bag?_eq_some_iff.1 keeps)
    exact List.mem_singleton.1 (kept ▸ List.mem_map.2 ⟨_,member,rfl⟩)
  have parents : (m.registry.layers 0x7f020000).getLast?.map Layer.parent = some 0 := by decide +kernel
  have same : ∀ p ∈ m.registry.byRank, ((m.withDevices { orientation := 1 } []).registry.layerIn? 0x7f020000 p).isSome =
      (m.registry.layerIn? 0x7f020000 p).isSome := by decide +kernel
  cases isLineage with
  | root =>
    obtain rfl := List.mem_singleton.1 g_mem
    exact same p p_mem
  | child isTop hasParent =>
    have parent := congrArg (Option.map Layer.parent) isTop
    exact absurd (Option.some.inj (parent.symm.trans parents)) hasParent

/-- A style for landscape alone is kept when the device is turned, though there is none any more. -/
theorem setConfigurations_keeps_landscape :
    let m := withStyleFor [styleFor { orientation := 2 } 1] { orientation := 2 } []
    m.Sound ∧ (m.setConfigurations [{ orientation := 1 }] false).toOption.map (fun m' =>
      ((m'.bag? 0x7f020000).1.isSome,(m'.fresh.bag? 0x7f020000).1.isSome)) = some (true,false) := by
  intro m
  refine ⟨withStyleFor_sound _ _ _,?_⟩
  decide +kernel

/-- Where a further device is turned, not even the dimension is dropped: the value for portrait is not found. -/
theorem setConfigurations_keeps_secondary :
    let french (orientation : UInt8) : Configuration := { language := ⟨0x66,0x72⟩, orientation }
    let m := withStyleFor [styleFor (french 2) 1,styleFor (french 1) 2] { language := ⟨0x64,0x65⟩ } [french 2]
    let values (bag : Option Bag) : Option (List Value) := bag.map fun bag => bag.entries.map BagEntry.value
    m.Sound ∧ (m.setConfigurations [{ language := ⟨0x64,0x65⟩ },french 1] false).toOption.map (fun m' =>
      (values (m'.bag? 0x7f020000).1,values (m'.fresh.bag? 0x7f020000).1)) =
        some (some [⟨.decimal,1⟩],some [⟨.decimal,2⟩]) := by
  intro french m values
  refine ⟨withStyleFor_sound _ _ _,?_⟩
  decide +kernel

end Manager

end AndroidResources
