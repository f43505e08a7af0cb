import AndroidResources.Proofs.OperationRuns
import AndroidResources.Proofs.ThemeEntries

/-!
# Misuse of handles

A request that passes a handle that is not live, or a theme with a manager that it does not belong to, is refused: what
is answered has been looked up (`Request.proper_of_answered`). Three requests overlook misuse, and no other ones do
(`Session.serve_misused_iff`): reading into no memory, seeking to a place before the start, and copying a theme onto
itself from a manager that is not its own.
-/
namespace AndroidResources

namespace Request

/-- The handles that a request passes. -/
def handles : Request → List (HandleKind × Handle)
  | loadSource _ _ imports => imports.map (.source,·)
  | addSource _ | createManager => []
  | sourcePath source | closeSource source => [(.source,source)]
  | setSources manager sources _ => (.manager,manager) :: sources.map (.source,·)
  | destroyManager manager | setConfiguration manager _ _ _ | setLogging manager _ | lastResolution manager
  | packages manager _ _ | locales manager _ | configurations manager _ _ | name manager _ | namePart manager _ _
  | identifier manager _ _ _ | value manager _ _ _ | bagValue manager _ _ | styleAttributes manager _ | parent manager _
  | stringArray manager _ | stringPlaces manager _ | intArray manager _ | arraySize manager _ | array manager _
  | openAsset manager _ | openAssetIn manager _ _ | listAssets manager _ | createTheme manager
  | retrieveAttributes manager _ _ => [(.manager,manager)]
  | readByte asset | readBytes asset | seek asset _ _ | assetSize asset | assetRemaining asset | closeAsset asset =>
    [(.asset,asset)]
  | destroyTheme theme | clearTheme theme | themeChanges theme => [(.theme,theme)]
  | applyToTheme manager theme _ _ | rebaseTheme manager theme _ _ _ | themeValue manager theme _ _
  | themeLines manager theme | resolveAttributes manager theme _ _ _ _ | applyStyle manager theme _ _ _ _
  | styleStack manager theme _ _ _ => [(.manager,manager),(.theme,theme)]
  | copyTheme manager theme otherManager other =>
    [(.manager,manager),(.theme,theme),(.manager,otherManager),(.theme,other)]

/-- The managers that a request takes together with themes, other than to bind a theme to one. -/
def pairs : Request → List (Handle × Handle)
  | applyToTheme manager theme _ _ | themeValue manager theme _ _ | themeLines manager theme
  | resolveAttributes manager theme _ _ _ _ | applyStyle manager theme _ _ _ _ | styleStack manager theme _ _ _ =>
    [(manager,theme)]
  | copyTheme manager theme otherManager other => [(manager,theme),(otherManager,other)]
  | _ => []

end Request

/-- Whether a theme belongs to a manager. -/
def Session.Bound (s : Session) (manager theme : Handle) : Prop :=
  ∃ m t, s.managers.get? manager = some m ∧ s.themes.get? theme = some t ∧ t.owner = m.tag

/-- Whether all handles of a request are live, and its themes belong to the managers that they are taken with. -/
structure Request.Proper (s : Session) (request : Request) : Prop where
  live : ∀ p ∈ request.handles, s.Live p.1 p.2
  bound : ∀ p ∈ request.pairs, s.Bound p.1 p.2

/-- The requests that are answered without a look at all that they pass, with their answers. -/
inductive Request.Overlooked (s : Session) : Request → Answer → Prop
  /-- Nothing is read into no memory. -/
  | noRoom (asset : Handle) : s.buffers.bytes = [] → Overlooked s (.readBytes asset) (.number 0)
  /-- There is no place before the start. -/
  | beforeStart (asset : Handle) {offset : Int} : offset < 0 → Overlooked s (.seek asset offset 0) (.number (-1))
  /-- A theme is a copy of itself, whichever manager the copy is said to come from. -/
  | ownCopy {manager theme otherManager : Handle} : s.Bound manager theme → s.Live .manager otherManager →
      Overlooked s (.copyTheme manager theme otherManager theme) .done

/-! ## What is needed to succeed -/

namespace Pair
variable {κ α : Type} [DecidableEq κ] {get? : κ → Option α} {first second : κ} {a b : α} {pair : Pair α}

theorem of?_eq_same (found : of? get? first second = some (.same a)) : first = second ∧ get? first = some a := by
  unfold of? at found
  split at found
  next same =>
    obtain ⟨_,isFirst,⟨⟩⟩ := Option.map_eq_some_iff.1 found
    exact ⟨same,isFirst⟩
  next => split at found <;> cases found

theorem of?_eq_distinct (found : of? get? first second = some (.distinct a b)) :
    first ≠ second ∧ get? first = some a ∧ get? second = some b := by
  unfold of? at found
  split at found
  next =>
    obtain ⟨_,_,differ⟩ := Option.map_eq_some_iff.1 found
    cases differ
  next differ =>
    split at found
    next isFirst isSecond =>
      obtain ⟨rfl,rfl⟩ := Pair.distinct.inj (Option.some.inj found)
      exact ⟨differ,isFirst,isSecond⟩
    next => cases found

theorem both_eq_some (found : of? get? first second = some pair) :
    get? first = some pair.both.1 ∧ get? second = some pair.both.2 := by
  cases pair with
  | same a =>
    obtain ⟨rfl,isFirst⟩ := of?_eq_same found
    exact ⟨isFirst,isFirst⟩
  | distinct a b => exact (of?_eq_distinct found).2

end Pair

theorem Theme.owner_of_check_bind {α : Type} {t : Theme} {m : Manager} {next : Unit → Except ResourceError α} {a : α}
    (checked : (t.check m >>= next) = .ok a) : t.owner = m.tag := by
  obtain ⟨_,checked,_⟩ := bind_eq_ok_iff.1 checked
  exact check_eq_ok_iff.1 checked

namespace Service
variable {α β : Type} {operation : Operation α} {next : α → Operation β} {s s' : Session} {p q : Prop}

/-- Whether something holds wherever an operation succeeds. -/
def Requires (operation : Operation α) (s : Session) (p : Prop) : Prop :=
  ∀ a s', operation.run s = (.ok a,s') → p

theorem Requires.imp (requires : Requires operation s p) (implies : p → q) : Requires operation s q :=
  fun a s' run => implies (requires a s' run)

theorem Requires.bind (requires : Requires operation s p) : Requires (operation >>= next) s p := by
  intro b s'' run
  obtain ⟨a,s',first,_⟩ := run_bind_ok run
  exact requires a s' first

theorem Reads.bind_requires (reads : Reads operation s) (rest : ∀ a, operation.run s = (.ok a,s) → Requires (next a) s p) :
    Requires (operation >>= next) s p := by
  intro b s'' run
  obtain ⟨a,s',first,later⟩ := run_bind_ok run
  obtain rfl := reads.eq first
  exact rest a first b s'' later

theorem requires_under (table : Session → HandleTable α) (h : Handle) (s : Session) :
    Requires (under table h) s ((table s).get? h).isSome := by
  intro v s' run
  rw [(run_under_ok_iff.1 run).1]
  rfl

theorem requires_askRegistry (manager : Handle) (question : Registry → α) (s : Session) :
    Requires (askRegistry manager question) s (s.Live .manager manager) :=
  (requires_under _ manager s).bind

theorem requires_ask (manager : Handle) (question : Manager → α × Manager) (s : Session) :
    Requires (ask manager question) s (s.Live .manager manager) :=
  (requires_under _ manager s).bind

theorem requires_askAsset (asset : Handle) (question : Asset → α × Asset) (s : Session) :
    Requires (askAsset asset question) s (s.Live .asset asset) :=
  (requires_under _ asset s).bind

theorem requires_sources (sources : List Handle) (s : Session) :
    Requires (sources.mapM sourceUnder) s (∀ h ∈ sources, s.Live .source h) := by
  induction sources with
  | nil => exact fun _ _ _ h mem => by cases mem
  | cons source rest ih =>
    rw [List.mapM_cons]
    intro found s' run
    have first : Requires (sourceUnder source) s (s.Live .source source) := requires_under _ source s
    have live := first.bind found s' run
    have others := (reads_under _ source s).bind_requires (fun _ _ => ih.bind) found s' run
    exact List.forall_mem_cons.2 ⟨live,others⟩

theorem requires_attempt (result : Except ResourceError α) (s : Session) :
    Requires (attempt result) s (∃ a, result = .ok a) := by
  intro a s' run
  rw [run_attempt] at run
  exact ⟨a,(Prod.mk.inj run).1⟩

/-- A theme is taken with a manager by what checks first whether it belongs to it. -/
theorem requires_checked {manager theme : Handle} {check : Manager → Theme → Except ResourceError α}
    {next : Manager → Theme → α → Operation β} (checks : ∀ m t a, check m t = .ok a → t.owner = m.tag) (s : Session) :
    Requires (do
      let m ← managerUnder manager
      let t ← themeUnder theme
      next m t (← attempt (check m t))) s (s.Bound manager theme) := by
  refine (reads_under _ manager s).bind_requires fun m isManager => ?_
  refine (reads_under _ theme s).bind_requires fun t isTheme => ?_
  refine ((requires_attempt (check m t) s).imp fun ⟨a,checked⟩ => ?_).bind
  exact ⟨m,t,(run_under_ok_iff.1 isManager).1,(run_under_ok_iff.1 isTheme).1,checks m t a checked⟩

theorem requires_boundTheme (manager theme : Handle) (s : Session) :
    Requires (boundTheme manager theme) s (s.Bound manager theme) :=
  requires_checked (fun _ _ _ => Theme.check_eq_ok_iff.1) s

theorem requires_applyToTheme (manager theme : Handle) (style : ResourceId) (force : Bool) (s : Session) :
    Requires (applyToTheme manager theme style force) s (s.Bound manager theme) :=
  requires_checked (fun _ _ _ => Theme.owner_of_check_bind) s

theorem requires_resolveAttributes (manager theme : Handle) (defaultAttr defaultId : ResourceId)
    (values : Option (List ResourceId)) (attrs : List ResourceId) (s : Session) :
    Requires (resolveAttributes manager theme defaultAttr defaultId values attrs) s (s.Bound manager theme) :=
  requires_checked (fun _ _ _ => Theme.owner_of_check_bind) s

theorem requires_applyStyle (manager theme : Handle) (set : Option AttributeSet) (defaultAttr defaultId : ResourceId)
    (attrs : List ResourceId) (s : Session) :
    Requires (applyStyle manager theme set defaultAttr defaultId attrs) s (s.Bound manager theme) :=
  requires_checked (fun _ _ _ => Theme.owner_of_check_bind) s

theorem requires_styleStack (manager theme : Handle) (elementStyle defaultAttr defaultId : ResourceId) (s : Session) :
    Requires (styleStack manager theme elementStyle defaultAttr defaultId) s (s.Bound manager theme) :=
  requires_checked (fun _ _ _ => Theme.owner_of_check_bind) s

theorem requires_rebaseTheme (manager theme : Handle) (styles : List ResourceId) (force : List Bool) (count : Nat)
    (s : Session) : Requires (rebaseTheme manager theme styles force count) s
      (s.Live .manager manager ∧ s.Live .theme theme) := by
  unfold rebaseTheme
  split
  · exact Requires.bind fun _ _ refused => by cases refused
  · intro _ s' run
    have isManager : s.Live .manager manager := (requires_under _ manager s).bind _ _ run
    have isTheme : s.Live .theme theme :=
      (reads_under _ manager s).bind_requires (fun _ _ => (requires_under _ theme s).bind) _ _ run
    exact ⟨isManager,isTheme⟩

/-- The places of two themes are told apart before either is looked at, so that a copy of a theme onto itself is checked
    with one manager only. -/
theorem requires_copyTheme (manager theme otherManager other : Handle) (s : Session) :
    Requires (copyTheme manager theme otherManager other) s
      (s.Bound manager theme ∧ s.Live .manager otherManager ∧ (theme ≠ other → s.Bound otherManager other)) := by
  refine (reads_underBoth _ manager otherManager s).bind_requires fun managers areManagers => ?_
  obtain ⟨isManager,isOther⟩ := Pair.both_eq_some (run_underBoth_ok_iff.1 areManagers).1
  refine (reads_underBoth _ theme other s).bind_requires fun themes areThemes => ?_
  have live : s.Live .manager otherManager := by rw [Session.Live,isOther]; rfl
  cases themes with
  | same t =>
    obtain ⟨same,isTheme⟩ := Pair.of?_eq_same (run_underBoth_ok_iff.1 areThemes).1
    refine (requires_attempt _ s).imp fun ⟨_,checked⟩ => ?_
    exact ⟨⟨_,t,isManager,isTheme,Theme.check_eq_ok_iff.1 checked⟩,live,fun differ => absurd same differ⟩
  | distinct t t' =>
    obtain ⟨_,isTheme,isOtherTheme⟩ := Pair.of?_eq_distinct (run_underBoth_ok_iff.1 areThemes).1
    refine ((requires_attempt _ s).imp fun ⟨_,copied⟩ => ?_).bind
    obtain ⟨owned,otherOwned,_⟩ := Theme.setTo_ok copied
    exact ⟨⟨_,t,isManager,isTheme,owned⟩,live,fun _ => ⟨_,t',isOther,isOtherTheme,otherOwned⟩⟩

theorem requires_setConfiguration (manager : Handle) (configurations : List String) (defaultLocale : Option String)
    (refresh : Bool) (s : Session) :
    Requires (setConfiguration manager configurations defaultLocale refresh) s (s.Live .manager manager) := by
  refine (reads_mapM fun text => reads_readConfiguration text s).bind_requires fun configurations _ => ?_
  cases defaultLocale with
  | none => exact (requires_under _ manager s).bind
  | some text =>
    exact (reads_map some (reads_readConfiguration text s)).bind_requires fun _ _ => (requires_under _ manager s).bind

theorem requires_identifier (manager : Handle) (name : String) (defaultType defaultPackage : Option String)
    (s : Session) : Requires (identifier manager name defaultType defaultPackage) s (s.Live .manager manager) := by
  unfold identifier
  split
  · exact Requires.bind fun _ _ refused => by cases refused
  · exact requires_askRegistry manager _ s

theorem requires_readBytes (asset : Handle) (room : s.buffers.bytes ≠ []) :
    Requires (readBytes asset) s (s.Live .asset asset) := by
  refine Reads.bind_requires (rfl : Reads get s) fun before run => ?_
  cases run
  dsimp only
  rw [if_neg fun empty => room (List.length_eq_zero_iff.1 empty)]
  exact (requires_askAsset asset _ s).bind

theorem originOf?_eq_start {whence : Int} (isStart : originOf? whence = some .start) : whence = 0 := by
  by_cases start : whence = 0
  · exact start
  · rw [originOf?,if_neg start] at isStart
    split at isStart
    · cases isStart
    · split at isStart <;> cases isStart

theorem requires_seek (asset : Handle) {offset whence : Int} (onwards : ¬ (whence = 0 ∧ offset < 0)) (s : Session) :
    Requires (seek asset offset whence) s (s.Live .asset asset) := by
  unfold seek
  split
  · exact fun _ _ refused => by cases refused
  next origin isOrigin =>
    have later : ¬ (origin = .start ∧ offset < 0) := by
      rintro ⟨rfl,negative⟩
      exact onwards ⟨originOf?_eq_start isOrigin,negative⟩
    rw [if_neg later]
    exact (requires_askAsset asset _ s).bind

end Service

theorem Session.Bound.live {s : Session} {manager theme : Handle} (bound : s.Bound manager theme) :
    s.Live .manager manager ∧ s.Live .theme theme := by
  obtain ⟨m,t,isManager,isTheme,_⟩ := bound
  rw [Live,Live,isManager,isTheme]
  exact ⟨rfl,rfl⟩

namespace Request
variable {s s' : Session} {request : Request} {answer : Answer}

/-! ## Requests -/

theorem serve_readBytes_noRoom (asset : Handle) (noRoom : s.buffers.bytes = []) :
    s.serve (.readBytes asset) = (.ok (.number 0),s) := by
  rw [Session.serve,perform,Service.readBytes,Service.run_bind,Service.run_bind,Service.run_get]
  simp only [noRoom,List.length_nil,if_true]
  rfl

theorem serve_seek_beforeStart (asset : Handle) {offset : Int} (negative : offset < 0) :
    s.serve (.seek asset offset 0) = (.ok (.number (-1)),s) := by
  rw [Session.serve,perform,Service.seek]
  simp [Service.originOf?,negative]
  rfl

theorem serve_copyTheme_self {manager theme otherManager : Handle} (bound : s.Bound manager theme)
    (live : s.Live .manager otherManager) : s.serve (.copyTheme manager theme otherManager theme) = (.ok .done,s) := by
  obtain ⟨m,t,isManager,isTheme,owned⟩ := bound
  obtain ⟨m',isOther⟩ := Option.isSome_iff_exists.1 live
  obtain ⟨managers,both,same⟩ := Pair.both_of? isManager isOther
  have themes : (Service.underBoth (fun s => s.themes) theme theme).run s = (.ok (.same t),s) :=
    Service.run_underBoth (by rw [Pair.of?,if_pos rfl,isTheme]; rfl)
  rw [Session.serve,perform,Service.copyTheme,Service.run_bind,Service.run_bind,Service.run_underBoth both]
  simp only [Service.run_bind,themes,Service.run_attempt,same,Theme.check_eq_ok_iff.2 owned]
  rfl

open Service in
/-- Whatever is answered is passed properly, or overlooked. -/
theorem proper_of_answered (run : s.serve request = (.ok answer,s')) :
    request.Proper s ∨ request.Overlooked s answer := by
  -- Most requests pass one handle, or a theme together with its manager.
  have single {kind : HandleKind} {h : Handle} (handles : request.handles = [(kind,h)]) (pairs : request.pairs = [])
      (requires : Requires request.perform s (s.Live kind h)) : request.Proper s ∨ request.Overlooked s answer :=
    .inl ⟨by simpa [handles] using requires answer s' run,by simp [pairs]⟩
  have bound {manager theme : Handle} (handles : request.handles = [(.manager,manager),(.theme,theme)])
      (pairs : request.pairs = [(manager,theme)]) (requires : Requires request.perform s (s.Bound manager theme)) :
      request.Proper s ∨ request.Overlooked s answer := by
    have isBound := requires answer s' run
    exact .inl ⟨by simpa [handles] using isBound.live,by simpa [pairs] using isBound⟩
  cases request with
  | addSource | createManager => exact .inl ⟨by simp [handles],by simp [pairs]⟩
  | loadSource path content imports =>
    have live := (requires_sources imports s).bind.bind answer s' run
    exact .inl ⟨by simpa [handles] using live,by simp [pairs]⟩
  | setSources manager sources invalidate =>
    have live := (requires_sources sources s).bind.bind answer s' run
    have isManager := ((reads_mapM fun h => reads_under _ h s).bind_requires fun sources _ =>
      requires_ask manager (fun m => ((),m.setSources sources invalidate)) s).bind answer s' run
    exact .inl ⟨by simpa [handles] using ⟨isManager,live⟩,by simp [pairs]⟩
  | sourcePath h | closeSource h | destroyManager h | lastResolution h | assetSize h | assetRemaining h | closeAsset h
  | destroyTheme h | clearTheme h | themeChanges h | createTheme h | retrieveAttributes h =>
    exact single rfl rfl (requires_under _ h s).bind.bind
  | setConfiguration manager devices defaultLocale refresh =>
    exact single rfl rfl (requires_setConfiguration manager devices defaultLocale refresh s).bind
  | packages manager | locales manager | configurations manager | name manager | listAssets manager =>
    exact single rfl rfl (requires_askRegistry manager _ s).bind
  | namePart manager | openAsset manager | openAssetIn manager =>
    exact single rfl rfl (requires_askRegistry manager _ s).bind.bind
  | identifier manager text defaultType defaultPackage =>
    exact single rfl rfl (requires_identifier manager text defaultType defaultPackage s).bind
  | setLogging manager | stringArray manager | intArray manager =>
    exact single rfl rfl (requires_ask manager _ s).bind
  | value manager | bagValue manager | styleAttributes manager | parent manager | stringPlaces manager
  | arraySize manager | array manager =>
    exact single rfl rfl (requires_ask manager _ s).bind.bind
  | readByte asset => exact single rfl rfl (requires_askAsset asset _ s).bind.bind
  | applyToTheme manager theme style force =>
    exact bound rfl rfl (requires_applyToTheme manager theme style force s).bind
  | themeValue manager theme => exact bound rfl rfl (requires_boundTheme manager theme s).bind.bind
  | themeLines manager theme => exact bound rfl rfl (requires_boundTheme manager theme s).bind.bind
  | resolveAttributes manager theme defaultAttr defaultId values attrs =>
    exact bound rfl rfl (requires_resolveAttributes manager theme defaultAttr defaultId values attrs s).bind
  | applyStyle manager theme set defaultAttr defaultId attrs =>
    exact bound rfl rfl (requires_applyStyle manager theme set defaultAttr defaultId attrs s).bind
  | styleStack manager theme elementStyle defaultAttr defaultId =>
    exact bound rfl rfl (requires_styleStack manager theme elementStyle defaultAttr defaultId s).bind
  | rebaseTheme manager theme styles force count =>
    have live := (requires_rebaseTheme manager theme styles force count s).bind answer s' run
    exact .inl ⟨by simpa [handles] using live,by simp [pairs]⟩
  | copyTheme manager theme otherManager other =>
    obtain ⟨isBound,live,otherBound⟩ := (requires_copyTheme manager theme otherManager other s).bind answer s' run
    by_cases same : theme = other
    · subst same
      obtain ⟨_,_,_,done⟩ := run_bind_ok run
      cases done
      exact .inr (.ownCopy isBound live)
    · have otherBound := otherBound same
      exact .inl ⟨by simp [handles,isBound.live,otherBound.live],by simp [pairs,isBound,otherBound]⟩
  | readBytes asset =>
    by_cases noRoom : s.buffers.bytes = []
    · rw [serve_readBytes_noRoom asset noRoom] at run
      cases run
      exact .inr (.noRoom asset noRoom)
    · exact single rfl rfl (requires_readBytes asset noRoom).bind
  | seek asset offset whence =>
    by_cases early : whence = 0 ∧ offset < 0
    · obtain ⟨rfl,negative⟩ := early
      rw [serve_seek_beforeStart asset negative] at run
      cases run
      exact .inr (.beforeStart asset negative)
    · exact single rfl rfl (requires_seek asset early s).bind

end Request

open Request in
/-- What is overlooked is answered, and changes nothing. -/
theorem Request.Overlooked.answered {s : Session} {request : Request} {answer : Answer}
    (overlooked : request.Overlooked s answer) : s.serve request = (.ok answer,s) := by
  cases overlooked with
  | noRoom asset noRoom => exact serve_readBytes_noRoom asset noRoom
  | beforeStart asset negative => exact serve_seek_beforeStart asset negative
  | ownCopy bound live => exact serve_copyTheme_self bound live

/-- Misuse is refused, but where it is overlooked, and then nothing changes. -/
theorem Session.serve_misused_iff {s s' : Session} {request : Request} (misused : ¬ request.Proper s) {answer : Answer} :
    s.serve request = (.ok answer,s') ↔ request.Overlooked s answer ∧ s' = s := by
  constructor
  · intro answered
    rcases Request.proper_of_answered answered with proper | overlooked
    · exact absurd proper misused
    · have unchanged := overlooked.answered
      rw [answered] at unchanged
      exact ⟨overlooked,(Prod.mk.inj unchanged).2⟩
  · rintro ⟨overlooked,rfl⟩
    exact overlooked.answered

/-- A theme is given no style through a manager that it does not belong to. -/
theorem Session.serve_misused_iff_other_manager :
    let first := ({ owner := 2 } : HandleTable Manager).insert { tag := 0 }
    let second := first.2.insert { tag := 1 }
    let themes := ({ owner := 3 } : HandleTable Theme).insert { owner := 0 }
    let s : Session := { managers := second.2, themes := themes.2 }
    let request : Request := .applyToTheme second.1 themes.1 0x7f010000 true
    ¬ request.Proper s ∧ ∀ answer s', s.serve request ≠ (.ok answer,s') := by
  intro first second themes s request
  have misused : ¬ request.Proper s := by
    intro proper
    obtain ⟨m,t,isManager,isTheme,owned⟩ := proper.bound (second.1,themes.1) (List.mem_singleton.2 rfl)
    cases isManager
    cases isTheme
    exact absurd owned (by decide)
  refine ⟨misused,fun answer s' answered => ?_⟩
  have overlooked : Request.Overlooked s (.applyToTheme second.1 themes.1 0x7f010000 true) answer :=
    ((serve_misused_iff misused).1 answered).1
  cases overlooked

/-- Handles of nothing are passed to assets, and a theme is copied from a manager that it does not belong to. -/
theorem Session.serve_misused_answered :
    let first := ({ owner := 2 } : HandleTable Manager).insert { tag := 0 }
    let second := first.2.insert { tag := 1 }
    let themes := ({ owner := 3 } : HandleTable Theme).insert { owner := 0 }
    let s : Session := { managers := second.2, themes := themes.2 }
    let nothing := Handle.ofWord 0
    ¬ s.Live .asset nothing ∧ (s.serve (.readBytes nothing)).1 = .ok (.number 0) ∧
      (s.serve (.seek nothing (-1) 0)).1 = .ok (.number (-1)) ∧
      ¬ s.Bound second.1 themes.1 ∧ (s.serve (.copyTheme first.1 themes.1 second.1 themes.1)).1 = .ok .done := by
  intro first second themes s nothing
  refine ⟨by decide,rfl,rfl,?_,rfl⟩
  rintro ⟨m,t,isManager,isTheme,owned⟩
  cases isManager
  cases isTheme
  exact absurd owned (by decide)

end AndroidResources
