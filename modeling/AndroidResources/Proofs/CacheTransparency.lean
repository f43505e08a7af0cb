import AndroidResources.Attribute.Retrieval
import AndroidResources.Proofs.BagComposition

/-!
# What is kept does not show

A manager answers for a bag as one that keeps nothing, whatever was asked before and whichever sources,
devices and locales came and went. Questions leave what a manager stands for as it is (`Manager.Asked`), and
each action keeps the invariant that what is kept for the current generation is what would be put together
anew, while no bag is of a generation to come (`Manager.Current`).
-/
namespace AndroidResources

namespace Manager
variable {m m' m'' : Manager}

/-- A manager with the same sources, devices and default locale that keeps nothing. -/
def fresh (m : Manager) : Manager :=
  { registry := m.registry }

/-- Whether each bag that is kept for the current generation is the one that would be put together anew. -/
def Sound (m : Manager) : Prop :=
  ∀ id bag, m.bags.bag? m.generation id = some bag → (m.fresh.bag? id).1 = some bag

/-- What is kept is sound, and of no generation to come. -/
structure Current (m : Manager) : Prop where
  sound : m.Sound
  past : ∀ id kept, m.bags.get? id = some kept → kept.generation ≤ m.generation

/-- A manager from which another one comes by questions alone. -/
structure Asked (m m' : Manager) : Prop where
  tag : m'.tag = m.tag
  registry : m'.registry = m.registry
  generation : m'.generation = m.generation
  builds : ∀ id bag, BagCache.Builds m.registry m.generation m'.bags id bag ↔
    BagCache.Builds m.registry m.generation m.bags id bag
  kept : ∀ id kept, m'.bags.get? id = some kept →
    m.bags.get? id = some kept ∨ kept.generation = m.generation

/-! ## Bags with nothing kept -/

theorem bag?_eq_some_iff {id : ResourceId} {bag : Bag} :
    (m.bag? id).1 = some bag ↔ BagCache.Builds m.registry m.generation m.bags id bag :=
  BagCache.getBag?_eq_some_iff

/-- With nothing kept the generation does not matter. -/
theorem fresh_bag?_eq_some_iff {id : ResourceId} {bag : Bag} :
    (m.fresh.bag? id).1 = some bag ↔ BagCache.Builds m.registry m.generation {} id bag := by
  rw [bag?_eq_some_iff]
  exact BagCache.builds_empty_iff.trans BagCache.builds_empty_iff.symm

/-- What is sound determines the same bags as nothing at all. -/
theorem Sound.builds_iff (sound : m.Sound) {id : ResourceId} {bag : Bag} :
    BagCache.Builds m.registry m.generation m.bags id bag ↔ BagCache.Builds m.registry m.generation {} id bag := by
  constructor
  · intro builds
    induction builds with
    | kept hit => exact fresh_bag?_eq_some_iff.1 (sound _ _ hit)
    | @root id _ _ isTop isRoot => exact .root (BagCache.bag?_empty id) isTop isRoot
    | @child id _ _ _ isTop hasParent _ ih => exact .child (BagCache.bag?_empty id) isTop hasParent ih
  · intro anew
    induction anew with
    | kept hit => simp [BagCache.bag?_empty] at hit
    | @root id top miss isTop isRoot =>
      cases hit : m.bags.bag? m.generation id with
      | none => exact .root hit isTop isRoot
      | some kept =>
        have same := (fresh_bag?_eq_some_iff.1 (sound id kept hit)).unique (.root miss isTop isRoot)
        exact same ▸ .kept hit
    | @child id top parent miss isTop hasParent above ih =>
      cases hit : m.bags.bag? m.generation id with
      | none => exact .child hit isTop hasParent ih
      | some kept =>
        have same := (fresh_bag?_eq_some_iff.1 (sound id kept hit)).unique (.child miss isTop hasParent above)
        exact same ▸ .kept hit

/-- A manager that keeps nothing wrong answers as one that keeps nothing. -/
theorem Sound.bag?_eq (sound : m.Sound) (id : ResourceId) : (m.bag? id).1 = (m.fresh.bag? id).1 := by
  apply Option.ext
  intro bag
  rw [bag?_eq_some_iff,fresh_bag?_eq_some_iff,sound.builds_iff]

/-- A manager that keeps nothing keeps nothing wrong. -/
theorem current_of_empty (empty : m.bags = {}) : m.Current := by
  constructor
  · intro id bag hit
    simp [empty,BagCache.bag?_empty] at hit
  · intro id kept hit
    simp [empty] at hit

/-! ## Questions -/

namespace Asked

theorem refl (m : Manager) : m.Asked m :=
  ⟨rfl,rfl,rfl,fun _ _ => Iff.rfl,fun _ _ => .inl⟩

theorem trans (first : m.Asked m') (second : m'.Asked m'') : m.Asked m'' := by
  refine ⟨second.tag.trans first.tag,second.registry.trans first.registry,
    second.generation.trans first.generation,fun id bag => ?_,fun id kept found => ?_⟩
  · have later := second.builds id bag
    rw [first.registry,first.generation] at later
    exact later.trans (first.builds id bag)
  · rcases second.kept id kept found with before | current
    · exact first.kept id kept before
    · exact .inr (current.trans first.generation)

/-- Questions have no influence on an answer. -/
theorem bag?_eq (asked : m.Asked m') (id : ResourceId) : (m'.bag? id).1 = (m.bag? id).1 := by
  apply Option.ext
  intro bag
  rw [bag?_eq_some_iff,bag?_eq_some_iff,asked.registry,asked.generation,asked.builds]

theorem fresh_eq (asked : m.Asked m') : m'.fresh = m.fresh := by
  simp [fresh,asked.registry]

/-- Questions keep nothing for a generation to come. -/
theorem past (asked : m.Asked m') (past : ∀ id kept, m.bags.get? id = some kept → kept.generation ≤ m.generation)
    (id : ResourceId) (kept : CachedBag) (found : m'.bags.get? id = some kept) : kept.generation ≤ m'.generation := by
  rw [asked.generation]
  rcases asked.kept id kept found with before | now
  · exact past id kept before
  · exact Nat.le_of_eq now

theorem current (asked : m.Asked m') (current : m.Current) : m'.Current := by
  constructor
  · intro id bag hit
    rw [asked.fresh_eq,← current.sound.bag?_eq,← asked.bag?_eq,bag?_eq_some_iff]
    exact .kept hit
  · exact asked.past current.past

/-! ### Traces -/

theorem note (m : Manager) (id : ResourceId) (density : Option UInt16) : m.Asked (m.note id density) := by
  unfold Manager.note
  split
  · exact ⟨rfl,rfl,rfl,fun _ _ => Iff.rfl,fun _ _ => .inl⟩
  · exact refl m

theorem noteAll (m : Manager) (ids : List ResourceId) : m.Asked (m.noteAll ids) := by
  unfold Manager.noteAll
  induction ids generalizing m with
  | nil => exact refl m
  | cons id rest ih => exact (note m id none).trans (ih _)

/-! ### Resources and bags -/

theorem resource? (m : Manager) (id : ResourceId) (mayBeBag : Bool) (density : Option UInt16) :
    m.Asked (m.resource? id mayBeBag density).2 :=
  note m id density

theorem resolve? (m : Manager) (s : Selected) : m.Asked (m.resolve? s).2 :=
  noteAll m _

theorem bag? (m : Manager) (id : ResourceId) : m.Asked (m.bag? id).2 :=
  ⟨rfl,rfl,rfl,fun _ _ => BagCache.builds_getBag?,fun _ _ => BagCache.get?_getBag?⟩

theorem bagEntry? (m : Manager) (id : ResourceId) (key : UInt32) : m.Asked (m.bagEntry? id key).2 := by
  have asked := bag? m id
  unfold Manager.bagEntry?
  split
  next found =>
    rw [found] at asked
    exact asked
  next bag m' found =>
    rw [found] at asked
    split
    · exact asked
    · exact asked.trans (resolve? m' _)

theorem array? (m : Manager) (id : ResourceId) : m.Asked (m.array? id).2 := by
  have asked := bag? m id
  unfold Manager.array?
  split
  next found =>
    rw [found] at asked
    exact asked
  next bag m' found =>
    rw [found] at asked
    exact asked.trans (noteAll m' _)

/-! ### Themes -/

theorem mergeStyle (t : Theme) (m : Manager) (applied : AppliedStyle) : m.Asked (t.mergeStyle m applied).2.2 := by
  have asked := bag? m applied.style
  unfold Theme.mergeStyle
  split
  next found =>
    rw [found] at asked
    exact asked
  next found =>
    rw [found] at asked
    exact asked

theorem replay (t : Theme) (m : Manager) (stack : List AppliedStyle) : m.Asked (t.replay m stack).2 := by
  unfold Theme.replay
  induction stack generalizing t m with
  | nil => exact refl m
  | cons applied rest ih => exact (mergeStyle t m applied).trans (ih _ _)

theorem rebase (t : Theme) (m : Manager) (stack : Option (List AppliedStyle)) : m.Asked (t.rebase m stack).2 :=
  replay _ m _

/-! ### Attributes -/

theorem bagOf? (m : Manager) (id : ResourceId) : m.Asked (Retrieval.bagOf? m id).2 := by
  unfold Retrieval.bagOf?
  split
  · exact refl m
  · exact bag? m id

theorem finishAll (m : Manager) (theme : Option Theme) (set : Option AttributeSet)
    (supplies : List (ResourceId × Option Supply)) : m.Asked (Retrieval.finishAll m theme set supplies).2 :=
  noteAll m _

end Asked

/-! ## Runs -/

/-- What can be asked a manager, themes and elements being brought along. -/
inductive Question where
  | resource (id : ResourceId) (mayBeBag : Bool) (density : Option UInt16)
  | resolve (s : Selected)
  | bag (id : ResourceId)
  | bagEntry (id : ResourceId) (key : UInt32)
  | array (id : ResourceId)
  | styleAttributes (id : ResourceId)
  | parent (id : ResourceId)
  | arraySize (id : ResourceId)
  | stringArray (id : ResourceId)
  | stringPlaces (id : ResourceId)
  | intArray (id : ResourceId)
  | applyToTheme (t : Theme) (applied : AppliedStyle)
  | rebaseTheme (t : Theme) (stack : Option (List AppliedStyle))
  | resolveInTheme (t : Theme) (s : Selected)
  | resolveAttributes (t : Theme) (defaultAttr defaultId : ResourceId) (values : Option (List Value))
      (attrs : List ResourceId)
  | applyStyle (t : Theme) (set : Option AttributeSet) (defaultAttr defaultId : ResourceId)
      (attrs : List ResourceId)
  | retrieveAttributes (set : AttributeSet) (attrs : List ResourceId)

/-- What can be done with a manager where a change of the devices drops all that is kept. -/
inductive Action where
  | setSources (sources : List Source) (invalidate : Bool)
  | presetSources (sources : List Source)
  | setDefaultLocale (locale : Option Configuration)
  | refresh (configurations : List Configuration)
  | setLogging (logging : Bool)
  | ask (question : Question)

/-- The manager after an operation that may fail, and that changes nothing if it does. -/
def orElse (m : Manager) : Except ResourceError Manager → Manager
  | .ok m' => m'
  | .error _ => m

/-- The manager after a question. -/
def asked (m : Manager) : Question → Manager
  | .resource id mayBeBag density => (m.resource? id mayBeBag density).2
  | .resolve s => (m.resolve? s).2
  | .bag id => (m.bag? id).2
  | .bagEntry id key => (m.bagEntry? id key).2
  | .array id => (m.array? id).2
  | .styleAttributes id => (m.styleAttributes? id).2
  | .parent id => (m.parent? id).2
  | .arraySize id => (m.arraySize? id).2
  | .stringArray id => (m.stringArray? id).2
  | .stringPlaces id => (m.stringPlaces? id).2
  | .intArray id => (m.intArray? id).2
  | .applyToTheme t applied => m.orElse ((t.apply m applied).map fun found => found.2.2)
  | .rebaseTheme t stack => (t.rebase m stack).2
  | .resolveInTheme t s => m.orElse ((t.resolve? m s).map fun found => found.2)
  | .resolveAttributes t defaultAttr defaultId values attrs =>
    m.orElse ((Retrieval.resolveAttributes m t defaultAttr defaultId values attrs).map fun found => found.2)
  | .applyStyle t set defaultAttr defaultId attrs =>
    m.orElse ((Retrieval.applyStyle m t set defaultAttr defaultId attrs).map fun found => found.2)
  | .retrieveAttributes set attrs => (Retrieval.retrieveAttributes m set attrs).2

/-- The manager after an action. -/
def act (m : Manager) : Action → Manager
  | .setSources sources invalidate => m.setSources sources invalidate
  | .presetSources sources => m.presetSources sources
  | .setDefaultLocale locale => m.setDefaultLocale locale
  | .refresh configurations => m.orElse (m.setConfigurations configurations true)
  | .setLogging logging => m.setLogging logging
  | .ask question => m.asked question

/-- The manager after actions in order. -/
def run (m : Manager) (actions : List Action) : Manager :=
  actions.foldl act m

theorem asked_question (m : Manager) (question : Question) : m.Asked (m.asked question) := by
  cases question with
  | resource id mayBeBag density => exact Asked.resource? m id mayBeBag density
  | resolve s => exact Asked.resolve? m s
  | bag id => exact Asked.bag? m id
  | bagEntry id key => exact Asked.bagEntry? m id key
  | array id => exact Asked.array? m id
  | styleAttributes id => exact Asked.bag? m id
  | parent id => exact Asked.bag? m id
  | arraySize id => exact Asked.bag? m id
  | stringArray id => exact Asked.array? m id
  | stringPlaces id => exact Asked.array? m id
  | intArray id => exact Asked.array? m id
  | applyToTheme t applied =>
    simp only [asked,Theme.apply,Theme.check]
    split
    · exact Asked.mergeStyle _ m applied
    · exact Asked.refl m
  | rebaseTheme t stack => exact Asked.rebase t m stack
  | resolveInTheme t s =>
    simp only [asked,Theme.resolve?,Theme.check]
    split
    · exact Asked.noteAll m _
    · exact Asked.refl m
  | resolveAttributes t defaultAttr defaultId values attrs =>
    simp only [asked,Retrieval.resolveAttributes,Theme.check]
    split
    · by_cases long : attrs.length < (values.getD []).length
      · rw [if_pos long]
        exact Asked.refl m
      · rw [if_neg long]
        exact (Asked.bagOf? m _).trans (Asked.finishAll _ _ _ _)
    · exact Asked.refl m
  | applyStyle t set defaultAttr defaultId attrs =>
    simp only [asked,Retrieval.applyStyle,Theme.check]
    split
    · exact ((Asked.bagOf? m _).trans (Asked.bagOf? _ _)).trans (Asked.finishAll _ _ _ _)
    · exact Asked.refl m
  | retrieveAttributes set attrs => exact Asked.finishAll m _ _ _

/-- After a replacement of the sources nothing is kept for the generation that begins. -/
theorem bag?_install (past : ∀ id kept, m.bags.get? id = some kept → kept.generation ≤ m.generation)
    (sources : List Source) (id : ResourceId) :
    (m.install sources).bags.bag? (m.install sources).generation id = none := by
  rw [Option.eq_none_iff_forall_ne_some]
  intro bag hit
  have old := past id _ (BagCache.bag?_eq_some_iff.1 hit)
  exact absurd old (Nat.not_succ_le_self m.generation)

theorem Current.install (current : m.Current) (sources : List Source) : (m.install sources).Current := by
  constructor
  · intro id bag hit
    rw [bag?_install current.past] at hit
    cases hit
  · intro id kept found
    exact Nat.le_succ_of_le (current.past id kept found)

theorem Current.act (current : m.Current) (action : Action) : (m.act action).Current := by
  cases action with
  | setSources sources invalidate =>
    simp only [Manager.act,Manager.setSources]
    split
    · exact current_of_empty rfl
    · exact current.install sources
  | presetSources sources => exact current.install sources
  | setDefaultLocale locale => exact current_of_empty rfl
  | refresh configurations =>
    cases configurations with
    | nil => exact current
    | cons primary others => exact current_of_empty rfl
  | setLogging logging => exact ⟨current.sound,current.past⟩
  | ask question => exact (asked_question m question).current current

theorem Current.run (current : m.Current) (actions : List Action) : (m.run actions).Current := by
  induction actions generalizing m with
  | nil => exact current
  | cons action rest ih => exact ih (current.act action)

theorem asked_questions (m : Manager) (questions : List Question) : m.Asked (m.run (questions.map .ask)) := by
  induction questions generalizing m with
  | nil => exact Asked.refl m
  | cons question rest ih => exact (asked_question m question).trans (ih _)

/-- After any actions, a manager answers for a bag as one that keeps nothing, and goes on to do so after any
    questions. -/
theorem run_bag? (tag : Nat) (actions : List Action) (questions : List Question) (id : ResourceId) :
    ((run { tag } actions).bag? id).1 = ((run { tag } actions).fresh.bag? id).1 ∧
      ((run { tag } (actions ++ questions.map .ask)).bag? id).1 = ((run { tag } actions).fresh.bag? id).1 := by
  have current : (run { tag } actions).Current := (current_of_empty rfl).run actions
  constructor
  · exact current.sound.bag?_eq id
  · rw [run,List.foldl_append,← run,← run]
    exact ((asked_questions _ questions).bag?_eq id).trans (current.sound.bag?_eq id)

end Manager

end AndroidResources
