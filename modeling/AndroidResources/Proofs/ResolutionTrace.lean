import AndroidResources.Proofs.LookupBest

/-!
# The trace of a look-up

A trace goes through the definitions that suit the device on its own, while the selection takes the greatest of them. Both
agree: each step says how its definition compares with all that come before it (`Led.kind_iff`), and the one that leads
in the end is the one that is found (`Manager.lastTrace_tells`).
-/
namespace AndroidResources

/-! ## The definitions in order -/

/-- The definitions of a resource in a source, if it declares the package. -/
def Source.definitionsOf (s : Source) (id : ResourceId) : List Definition :=
  if s.table.packages.contains id.package then ((s.table.entry? id).map Entry.definitions).getD [] else []

theorem Source.mem_definitionsOf {s : Source} {id : ResourceId} {d : Definition} :
    d ∈ s.definitionsOf id ↔ s.Defines id d := by
  unfold definitionsOf Defines
  cases s.table.entry? id <;> simp

namespace Registry
variable {r : Registry} {id : ResourceId} {device : Configuration}

/-- The candidates for a resource are what the sources define, by rank. -/
theorem candidates_eq : (r.candidates id).map (fun c => (c.rank,c.source,c.definition)) =
    r.byRank.flatMap fun p => (p.source.definitionsOf id).map fun d => (p.rank,p.source.path,d) := by
  rw [candidates,sourcesOf_eq,List.map_flatMap]
  induction r.byRank with
  | nil => rfl
  | cons p rest ih =>
    rw [List.flatMap_cons,← ih,List.filter_cons]
    have own : (candidatesIn p id).map (fun c => (c.rank,c.source,c.definition)) =
        (((p.source.table.entry? id).map Entry.definitions).getD []).map fun d => (p.rank,p.source.path,d) := by
      unfold candidatesIn
      cases p.source.table.entry? id with
      | none => rfl
      | some entry => exact List.map_map
    by_cases declares : p.source.table.packages.contains id.package
    · rw [if_pos declares,List.flatMap_cons,own,Source.definitionsOf,if_pos declares]
    · rw [if_neg declares,Source.definitionsOf,if_neg declares]
      rfl

/-- The candidates that suit a device are the definitions that suit it, by rank. -/
theorem suitable_eq : (suitable device (r.candidates id)).map (fun c => (c.rank,c.source,c.definition)) =
    r.byRank.flatMap fun p => ((p.source.definitionsOf id).filter fun d => d.configuration.suits device).map
      fun d => (p.rank,p.source.path,d) := by
  have filtered : (suitable device (r.candidates id)).map (fun c => (c.rank,c.source,c.definition)) =
      ((r.candidates id).map fun c => (c.rank,c.source,c.definition)).filter
        fun told => told.2.2.configuration.suits device := by
    rw [List.filter_map]
    rfl
  rw [filtered,candidates_eq,List.filter_flatMap]
  refine congrArg (List.flatMap · r.byRank) (funext fun p => ?_)
  rw [List.filter_map]
  rfl

theorem candidates_ascending : (r.candidates id).Pairwise fun a b => (compare a.rank b.rank).isLE := by
  refine List.pairwise_flatMap.2 ⟨fun p _ => ?_,sourcesOf_ascending.imp fun {p q} less a a_mem b b_mem => ?_⟩
  · refine List.pairwise_of_forall_mem_list fun a a_mem b b_mem => ?_
    obtain ⟨_,_,_,_,a_rank,_⟩ := entry_of_candidate a_mem
    obtain ⟨_,_,_,_,b_rank,_⟩ := entry_of_candidate b_mem
    rw [a_rank,b_rank,Std.ReflOrd.compare_self]
    rfl
  · obtain ⟨_,_,_,_,a_rank,_⟩ := entry_of_candidate a_mem
    obtain ⟨_,_,_,_,b_rank,_⟩ := entry_of_candidate b_mem
    rw [a_rank,b_rank,less]
    rfl

/-- A candidate names the source that defines it. -/
theorem source_of_candidate {c : Candidate} (mem : c ∈ r.candidates id) :
    ∃ s, r.sources[c.rank.position]? = some s ∧ c.source = s.path ∧ c.definition ∈ s.definitionsOf id := by
  obtain ⟨p,p_mem,declares,mem⟩ := mem_candidates_iff.1 mem
  obtain ⟨position,s,at_position,rfl⟩ := mem_placed_iff.1 p_mem
  unfold candidatesIn at mem
  split at mem
  · cases mem
  next entry found =>
    obtain ⟨d,isDefinition,rfl⟩ := List.mem_map.1 mem
    exact ⟨s,at_position,rfl,Source.mem_definitionsOf.2 ⟨declares,entry,found,isDefinition⟩⟩

end Registry

/-! ## One turn -/

namespace Candidate

/-- Whether a candidate is one of several, none of which is preferred to it. -/
structure Leads (device : Configuration) (others : List Candidate) (best : Candidate) : Prop where
  mem : best ∈ others
  unbeaten : ∀ c ∈ others, compare device c best ≠ .gt

/-- Whether a candidate is preferred to all others. -/
def Beats (device : Configuration) (others : List Candidate) (c : Candidate) : Prop :=
  ∀ b ∈ others, compare device c b = .gt

/-- What a candidate is when its turn comes after others. -/
inductive Turn (device : Configuration) (before : List Candidate) (c : Candidate) : StepKind → Prop
  | initial : before = [] → Turn device before c .initial
  | better {best : Candidate} : Leads device before best → Beats device before c →
      c.configuration ≠ best.configuration → Turn device before c .better
  | overlaid {best : Candidate} : Leads device before best → Beats device before c →
      c.configuration = best.configuration → Turn device before c .overlaid
  | skipped : before ≠ [] → ¬ Beats device before c → Turn device before c .skipped

section
variable {device : Configuration} {before : List Candidate} {best c : Candidate}
  (suits : ∀ b ∈ before, b.configuration.suits device)
include suits

/-- What is preferred to the one that leads is preferred to all. -/
theorem Leads.beats_iff (leads : Leads device before best) (c_suits : c.configuration.suits device) :
    Beats device before c ↔ compare device c best = .gt := by
  refine ⟨fun beats => beats best leads.mem,fun preferred b mem => ?_⟩
  have unbeaten := leads.unbeaten b mem
  rw [compare_eq_order (suits b mem) (suits best leads.mem)] at unbeaten
  rw [compare_eq_order c_suits (suits best leads.mem),Std.OrientedCmp.gt_iff_lt] at preferred
  rw [compare_eq_order c_suits (suits b mem),Std.OrientedCmp.gt_iff_lt]
  exact Std.TransCmp.lt_of_isLE_of_lt (Ordering.isLE_iff_ne_gt.2 unbeaten) preferred

/-- Two that lead do not differ in rank, configuration or cookie. -/
theorem Leads.identity_eq {best' : Candidate} (leads : Leads device before best)
    (leads' : Leads device before best') : best.identity = best'.identity := by
  have le := leads'.unbeaten best leads.mem
  have ge := leads.unbeaten best' leads'.mem
  rw [compare_eq_order (suits _ leads.mem) (suits _ leads'.mem)] at le
  rw [compare_eq_order (suits _ leads'.mem) (suits _ leads.mem)] at ge
  exact identity_of_order
    (Std.OrientedCmp.isLE_antisymm (Ordering.isLE_iff_ne_gt.2 le) (Ordering.isLE_iff_ne_gt.2 ge))

theorem Leads.configuration_eq {best' : Candidate} (leads : Leads device before best)
    (leads' : Leads device before best') : best.configuration = best'.configuration :=
  congrArg (fun identity => identity.2.1) (leads.identity_eq suits leads')

/-- What is preferred to all others leads them. -/
theorem Beats.leads (beats : Beats device before c) (c_suits : c.configuration.suits device) :
    Leads device (before ++ [c]) c := by
  refine ⟨by simp,fun b mem => ?_⟩
  rcases List.mem_append.1 mem with mem | mem
  · have preferred := beats b mem
    rw [compare_eq_order c_suits (suits b mem),Std.OrientedCmp.gt_iff_lt] at preferred
    rw [compare_eq_order (suits b mem) c_suits,preferred]
    nofun
  · have same : order device c c = .eq := Std.ReflCmp.compare_self
    rw [List.mem_singleton.1 mem,compare_eq_order c_suits c_suits,same]
    nofun

/-- A candidate is of one kind. Others may lead before it, though all that do are meant for the same configuration. -/
theorem Turn.unique {kind kind' : StepKind} (turn : Turn device before c kind) (turn' : Turn device before c kind') :
    kind = kind' := by
  cases turn with
  | initial empty =>
    subst empty
    cases turn' with
    | initial => rfl
    | better leads => cases leads.mem
    | overlaid leads => cases leads.mem
    | skipped nonempty => exact absurd rfl nonempty
  | better leads beats differ =>
    cases turn' with
    | initial empty => exact absurd empty (List.ne_nil_of_mem leads.mem)
    | better => rfl
    | overlaid leads' _ same => exact absurd (same.trans (leads'.configuration_eq suits leads)) differ
    | skipped _ beaten => exact absurd beats beaten
  | overlaid leads beats same =>
    cases turn' with
    | initial empty => exact absurd empty (List.ne_nil_of_mem leads.mem)
    | better leads' _ differ => exact absurd (same.trans (leads.configuration_eq suits leads')) differ
    | overlaid => rfl
    | skipped _ beaten => exact absurd beats beaten
  | skipped nonempty beaten =>
    cases turn' with
    | initial empty => exact absurd empty nonempty
    | better _ beats => exact absurd beats beaten
    | overlaid _ beats => exact absurd beats beaten
    | skipped => rfl

omit suits in
theorem Leads.skip (leads : Leads device before best) (notPreferred : compare device c best ≠ .gt) :
    Leads device (before ++ [c]) best := by
  refine ⟨List.mem_append_left _ leads.mem,fun b mem => ?_⟩
  rcases List.mem_append.1 mem with mem | mem
  · exact leads.unbeaten b mem
  · rwa [List.mem_singleton.1 mem]

end

end Candidate

/-! ## All turns -/

section
variable {device : Configuration} {before : List Candidate} {best : Option Candidate}

/-- Whether what is left after some turns leads the candidates that had theirs. -/
def Led (device : Configuration) (before : List Candidate) : Option Candidate → Prop
  | none => before = []
  | some best => Candidate.Leads device before best

/-- A candidate is of the kind that the comparison with the best one before it tells. -/
theorem Led.turn (led : Led device before best) {c : Candidate} (c_suits : c.configuration.suits device)
    (suits : ∀ b ∈ before, b.configuration.suits device) :
    Candidate.Turn device before c (stepKind device best c) := by
  cases best with
  | none => exact .initial led
  | some best =>
    have leads : Candidate.Leads device before best := led
    have beats_iff := leads.beats_iff suits c_suits
    simp only [stepKind]
    split
    case isTrue preferred =>
      split
      case isTrue same => exact .overlaid leads (beats_iff.2 preferred) same
      case isFalse differ => exact .better leads (beats_iff.2 preferred) differ
    case isFalse notPreferred =>
      exact .skipped (List.ne_nil_of_mem leads.mem) fun beats => notPreferred (beats_iff.1 beats)

theorem stepKind_eq_skipped_iff {best c : Candidate} :
    stepKind device (some best) c = .skipped ↔ Candidate.compare device c best ≠ .gt := by
  simp only [stepKind]
  split
  · split <;> simp_all
  · simp_all

/-- After one more turn, what is left leads again. -/
theorem Led.next (led : Led device before best) {c : Candidate} (c_suits : c.configuration.suits device)
    (suits : ∀ b ∈ before, b.configuration.suits device) :
    Led device (before ++ [c]) (if stepKind device best c = .skipped then best else some c) := by
  cases best with
  | none =>
    obtain rfl : before = [] := led
    have beats : Candidate.Beats device [] c := by simp [Candidate.Beats]
    exact beats.leads suits c_suits
  | some best =>
    have leads : Candidate.Leads device before best := led
    by_cases preferred : Candidate.compare device c best = .gt
    · rw [if_neg fun skipped => stepKind_eq_skipped_iff.1 skipped preferred]
      exact ((leads.beats_iff suits c_suits).2 preferred).leads suits c_suits
    · rw [if_pos (stepKind_eq_skipped_iff.2 preferred)]
      exact leads.skip preferred

/-- There is one step for each candidate, in order. -/
theorem told_steps (device : Configuration) (best : Option Candidate) (members : List Candidate) :
    (steps device best members).1.map (fun step => (step.source,step.configuration)) =
      members.map fun c => (c.source,c.configuration) := by
  induction members generalizing best with
  | nil => rfl
  | cons c rest ih =>
    simp only [steps,List.map_cons]
    rw [ih]

variable {members : List Candidate}

/-- What is left after all turns leads all candidates. -/
theorem Led.last (led : Led device before best)
    (suits : ∀ c ∈ before ++ members, c.configuration.suits device) :
    Led device (before ++ members) (steps device best members).2 := by
  induction members generalizing before best with
  | nil => simpa [steps] using led
  | cons c rest ih =>
    rw [List.append_cons] at suits ⊢
    have here : ∀ b ∈ before ++ [c], b.configuration.suits device :=
      fun b mem => suits b (List.mem_append_left _ mem)
    exact ih (led.next (here c (by simp)) fun b mem => here b (List.mem_append_left _ mem)) suits

/-- Each step is of the one kind that its candidate has in its turn after all before it. -/
theorem Led.kind_iff (led : Led device before best)
    (suits : ∀ c ∈ before ++ members, c.configuration.suits device) {i : Nat} {step : Step} {c : Candidate}
    (isStep : (steps device best members).1[i]? = some step) (isTurn : members[i]? = some c)
    {kind : StepKind} :
    step.kind = kind ↔ Candidate.Turn device (before ++ members.take i) c kind := by
  -- Each turn moves its candidate from the members that are left to those before.
  induction members generalizing before best i with
  | nil => cases isTurn
  | cons first rest ih =>
    have here : ∀ b ∈ before, b.configuration.suits device := fun b mem => suits b (List.mem_append_left _ mem)
    have first_suits := suits first (by simp)
    cases i with
    | zero =>
      obtain rfl := Option.some.inj isStep
      obtain rfl := Option.some.inj isTurn
      rw [List.take_zero,List.append_nil]
      have turn := led.turn first_suits here
      exact ⟨fun same => same ▸ turn,fun turn' => Candidate.Turn.unique here turn turn'⟩
    | succ i =>
      rw [List.take_succ_cons,List.append_cons]
      rw [List.append_cons] at suits
      exact ih (led.next first_suits here) suits isStep isTurn

end

/-! ## The trace of a look-up -/

/-- Whether a trace tells how a candidate was found among those that suit a device, which had their turns in order. -/
structure Trace.Tells (t : Trace) (id : ResourceId) (device : Configuration) (turns : List Candidate)
    (found : Candidate) : Prop where
  names : t.id = id
  asks : t.device = device
  /-- There is one step for each turn. -/
  told : t.steps.map (fun step => (step.source,step.configuration)) = turns.map fun c => (c.source,c.configuration)
  /-- A step is of a kind exactly if that is what its candidate was. -/
  kinds : ∀ (i : Nat) (step : Step) (c : Candidate), t.steps[i]? = some step → turns[i]? = some c →
    ∀ kind, step.kind = kind ↔ Candidate.Turn device (turns.take i) c kind
  best : t.best = some (found.source,found.configuration)

namespace Registry
variable {r : Registry} {id : ResourceId} {density : Option UInt16} {found : Candidate} {used : Configuration}

/-- A candidate that leads all others has the source and the configuration of the one that is found. -/
theorem source_eq_of_leads (isFound : r.find? id density = some (found,used)) {best : Candidate}
    (leads : Candidate.Leads (used.withDensity density) (suitable (used.withDensity density) (r.candidates id)) best) :
    (best.source,best.configuration) = (found.source,found.configuration) := by
  have selected := (select?_of_find? isFound).1
  have found_leads : Candidate.Leads (used.withDensity density)
      (suitable (used.withDensity density) (r.candidates id)) found :=
    ⟨mem_suitable.2 (select?_mem selected),fun c mem =>
      compare_ne_gt_of_selected selected (mem_suitable.1 mem).1 (mem_suitable.1 mem).2⟩
  have same := leads.identity_eq (fun b mem => (mem_suitable.1 mem).2) found_leads
  simp only [Candidate.identity,Prod.mk.injEq] at same
  obtain ⟨rank,configuration,_⟩ := same
  obtain ⟨s,at_position,path,_⟩ := source_of_candidate (mem_suitable.1 leads.mem).1
  obtain ⟨s',at_position',path',_⟩ := source_of_candidate (select?_mem selected).1
  rw [rank,at_position'] at at_position
  obtain rfl := Option.some.inj at_position
  rw [path,path',configuration]

/-- The trace of a look-up tells how what is found was found. -/
theorem trace?_tells (isFound : r.find? id density = some (found,used)) :
    ∃ t, r.trace? id density = some t ∧
      t.Tells id (used.withDensity density) (suitable (used.withDensity density) (r.candidates id)) found := by
  let device := used.withDensity density
  let turns := suitable device (r.candidates id)
  have isTrace : r.trace? id density = some ⟨id,device,(steps device none turns).1,
      (steps device none turns).2.map fun c => (c.source,c.configuration)⟩ := by
    rw [trace?,isFound]
    rfl
  have nothing : Led device [] none := rfl
  have suits : ∀ c ∈ [] ++ turns, c.configuration.suits device := fun c mem => (mem_suitable.1 mem).2
  -- Something is left, as the candidate that is found has its turn too.
  obtain ⟨best,left,same⟩ : ∃ best, (steps device none turns).2 = some best ∧
      (best.source,best.configuration) = (found.source,found.configuration) := by
    have led := nothing.last suits
    cases left : (steps device none turns).2 with
    | none =>
      have empty : turns = [] := by rwa [left] at led
      have mem : found ∈ turns := mem_suitable.2 (select?_mem (select?_of_find? isFound).1)
      rw [empty] at mem
      cases mem
    | some best =>
      rw [left] at led
      exact ⟨best,rfl,source_eq_of_leads isFound led⟩
  refine ⟨_,isTrace,rfl,rfl,told_steps device none turns,fun i step c isStep isTurn kind => ?_,?_⟩
  · exact nothing.kind_iff suits isStep isTurn
  · rw [left,← same]
    rfl

end Registry

namespace Manager

/-- Where traces are asked for, a look-up that finds something leaves a trace that agrees with it. The trace is of the
    resource and the device that the definition was selected for. It has one step for each definition that suits this
    device, in the order of the sources and within each source, of the kind that follows from a comparison with all
    definitions before it; and it ends with the source and the configuration of what was found. -/
theorem lastTrace_tells {m : Manager} (logging : m.logging) {id : ResourceId} {density : Option UInt16}
    {found : Candidate} {used : Configuration} (isFound : m.registry.find? id density = some (found,used)) :
    let r := m.registry
    let device := used.withDensity density
    let turns := suitable device (r.candidates id)
    r.Consults used ∧ select? (r.candidates id) used density = some found ∧
    (∃ s, r.sources[found.rank.position]? = some s ∧ found.source = s.path ∧
      found.definition ∈ s.definitionsOf id) ∧
    turns.map (fun c => (c.rank,c.source,c.definition)) =
      (r.byRank.flatMap fun p => ((p.source.definitionsOf id).filter fun d => d.configuration.suits device).map
        fun d => (p.rank,p.source.path,d)) ∧
    turns.Pairwise (fun a b => (compare a.rank b.rank).isLE) ∧
    ∃ t, t.Tells id device turns found ∧ ∀ mayBeBag,
      (m.resource? id mayBeBag density).2.lastTrace = some t ∧
      (m.resource? id mayBeBag density).2.lastResolution? = some (t.text r) := by
  intro r device turns
  obtain ⟨selected,consults⟩ := Registry.select?_of_find? isFound
  obtain ⟨t,isTrace,tells⟩ := Registry.trace?_tells isFound
  have noted : m.note id density = { m with lastTrace := some t } := by
    rw [note,if_pos logging,isTrace]
    rfl
  refine ⟨consults,selected,Registry.source_of_candidate (select?_mem selected).1,Registry.suitable_eq,
    Registry.candidates_ascending.filter _,t,tells,fun mayBeBag => ?_⟩
  have left : (m.resource? id mayBeBag density).2 = { m with lastTrace := some t } := noted
  rw [left]
  exact ⟨rfl,if_pos logging⟩

/-- In landscape, an overlay's definition for landscape is found after the one that it overlays, and what the overlay has for
    portrait is not told. -/
theorem lastTrace_tells_overlay :
    let source (path : String) (orientations : List UInt8) : Source :=
      { path
        table :=
          { packages := .ofList [(0x7f,"app")]
            entries := .ofList [(0x7f010000,⟨⟨"app","integer","n"⟩,
              orientations.map fun orientation => ⟨{ orientation },.value .empty⟩⟩)] } }
    let m : Manager :=
      { logging := true
        registry := { sources := [source "base" [0,2],source "overlay" [0,1,2]], primary := { orientation := 2 } } }
    ∃ t, (m.resource? 0x7f010000 true none).2.lastTrace = some t ∧
      t.steps.map Step.kind = [.initial,.better,.skipped,.overlaid] ∧
      t.best = some ("overlay",{ orientation := 2 }) := by
  intro source m
  have first : (m.registry.find? 0x7f010000 none).map (fun found => (found.1.source,found.1.configuration)) =
      some ("overlay",{ orientation := 2 }) := by decide +kernel
  obtain ⟨⟨found,used⟩,isFound,isOverlay⟩ := Option.map_eq_some_iff.1 first
  obtain ⟨_,_,_,_,_,t,tells,left⟩ := lastTrace_tells (m := m) rfl isFound
  have isTrace := (left true).1
  have kinds : (m.resource? 0x7f010000 true none).2.lastTrace.map (fun t => t.steps.map Step.kind) =
      some [.initial,.better,.skipped,.overlaid] := by decide +kernel
  rw [isTrace] at kinds
  exact ⟨t,isTrace,Option.some.inj kinds,tells.best.trans (congrArg some isOverlay)⟩

end Manager

end AndroidResources
