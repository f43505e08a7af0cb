import AndroidResources.Proofs.HandleSlots
import AndroidResources.Proofs.OperationRuns

/-!
# Requests that fail

A request that fails leaves a session as it was, apart from the bags that managers keep and their traces
(`Session.serve_failed`). An operation looks everything up before it changes anything (`Service.Reads`), may then ask
managers, which shows nowhere (`Service.Quiet`), and changes something only where nothing can fail anymore
(`Service.Succeeds`).
-/
namespace AndroidResources

/-! ## What can be observed -/

namespace Manager
variable (m : Manager)

/-- A manager without what it keeps of earlier answers. -/
def bare (m : Manager) : Manager := { m with bags := {}, lastTrace := none }

@[simp]
theorem bare_note (id : ResourceId) (density : Option UInt16) : (m.note id density).bare = m.bare := by
  unfold note
  split <;> rfl

@[simp]
theorem bare_noteAll (ids : List ResourceId) : (m.noteAll ids).bare = m.bare := by
  unfold noteAll
  induction ids generalizing m with
  | nil => rfl
  | cons id rest ih => rw [List.foldl_cons,ih,bare_note]

@[simp]
theorem bare_bag? (id : ResourceId) : (m.bag? id).2.bare = m.bare := rfl

theorem bare_bagEntry? (id : ResourceId) (key : UInt32) : (m.bagEntry? id key).2.bare = m.bare := by
  have bag := m.bare_bag? id
  unfold bagEntry?
  split
  next found => rwa [found] at bag
  next found =>
    rw [found] at bag
    split
    · exact bag
    · simpa [resolve?] using bag

theorem bare_array? (id : ResourceId) : (m.array? id).2.bare = m.bare := by
  have bag := m.bare_bag? id
  unfold array?
  split
  next found => rwa [found] at bag
  next found =>
    rw [found] at bag
    simpa using bag

end Manager

namespace Retrieval
variable {m m' : Manager} {t : Theme} {results : AttributeResults}

@[simp]
theorem bare_bagOf? (m : Manager) (id : ResourceId) : (bagOf? m id).2.bare = m.bare := by
  unfold bagOf?
  split <;> rfl

@[simp]
theorem bare_finishAll (m : Manager) (theme : Option Theme) (set : Option AttributeSet)
    (supplies : List (ResourceId × Option Supply)) : (finishAll m theme set supplies).2.bare = m.bare :=
  m.bare_noteAll _

theorem bare_of_resolveAttributes {defaultAttr defaultId : ResourceId} {values : Option (List Value)}
    {attrs : List ResourceId} (found : resolveAttributes m t defaultAttr defaultId values attrs = .ok (results,m')) :
    m'.bare = m.bare := by
  obtain ⟨_,_,found⟩ := bind_eq_ok_iff.1 found
  by_cases long : attrs.length < (values.getD []).length
  · rw [if_pos long] at found
    cases found
  · rw [if_neg long] at found
    have kept : (finishAll (bagOf? m _).2 _ _ _).2 = m' := congrArg Prod.snd (Except.ok.inj found)
    rw [← kept,bare_finishAll,bare_bagOf?]

theorem bare_of_applyStyle {set : Option AttributeSet} {defaultAttr defaultId : ResourceId} {attrs : List ResourceId}
    (found : applyStyle m t set defaultAttr defaultId attrs = .ok (results,m')) : m'.bare = m.bare := by
  obtain ⟨_,_,found⟩ := bind_eq_ok_iff.1 found
  have kept : (finishAll (bagOf? (bagOf? m _).2 _).2 _ _ _).2 = m' := congrArg Prod.snd (Except.ok.inj found)
  rw [← kept,bare_finishAll,bare_bagOf?,bare_bagOf?]

end Retrieval

namespace HandleTable
variable {α β : Type} {t : HandleTable α} {h : Handle} {v v' : α}

/-- The table with every value changed. -/
def map (f : α → β) (t : HandleTable α) : HandleTable β where
  owner := t.owner
  slots := t.slots.map fun slot => ⟨slot.generation,slot.value.map f⟩
  free := t.free
  retired := t.retired

/-- The same handles are live. -/
theorem get?_map (f : α → β) (t : HandleTable α) (h : Handle) : (t.map f).get? h = (t.get? h).map f := by
  unfold get? slot? map
  split
  · simp only [List.getElem?_map]
    cases t.slots[h.index.toNat]? with
    | none => rfl
    | some slot => by_cases current : slot.generation = h.generation <;> simp [Option.filter_some,current]
  · rfl

theorem map_replace (f : α → β) (found : t.get? h = some v) (same : f v' = f v) : (t.replace h v').map f = t.map f := by
  obtain ⟨_,present⟩ := get?_eq_some_iff.1 found
  obtain ⟨inside,here⟩ := List.getElem?_eq_some_iff.1 present
  simp only [replace,found,map,List.map_set,Option.map_some,same,HandleTable.mk.injEq,true_and,and_true]
  refine List.ext_getElem (by simp) fun i _ _ => ?_
  rw [List.getElem_set]
  split
  next same => subst same; simp [here]
  next => rfl

end HandleTable

namespace Buffers
variable {b : Buffers} {error : ResourceError}

theorem writeArray_error {items : List Selected} (refused : (b.writeArray items).1 = .error error) :
    (b.writeArray items).2 = b := by
  unfold writeArray at refused ⊢
  split at refused
  next short => rw [if_pos short]
  next => cases refused

theorem writeResults_error {results : AttributeResults} (refused : (b.writeResults results).1 = .error error) :
    (b.writeResults results).2 = b := by
  unfold writeResults at refused ⊢
  cases short : b.shortage? results.values.length with
  | none =>
    rw [short] at refused
    cases refused
  | some error => rfl

end Buffers

/-- A session without the bags and traces that its managers keep. -/
def Session.observed (s : Session) : Session :=
  { s with managers := s.managers.map Manager.bare }

/-- What can be observed is everything else, to the letter. -/
theorem Session.observed_eq_iff {s s' : Session} : s'.observed = s.observed ↔
    s'.sources = s.sources ∧ s'.managers.map Manager.bare = s.managers.map Manager.bare ∧ s'.themes = s.themes ∧
      s'.assets = s.assets ∧ s'.nextTag = s.nextTag ∧ s'.buffers = s.buffers := by
  obtain ⟨⟨_,_,_,_,_⟩,_⟩ := s
  obtain ⟨⟨_,_,_,_,_⟩,_⟩ := s'
  simp only [observed,Session.mk.injEq,Service.mk.injEq,and_assoc]

namespace Service
variable {α β : Type} {operation : Operation α} {next : α → Operation β} {s s' : Session}

/-! ## Operations that change nothing where they fail -/

/-- Whether an operation succeeds. -/
def Succeeds (operation : Operation α) (s : Session) : Prop :=
  ∃ a s', operation.run s = (.ok a,s')

/-- Whether nothing can be observed of an operation. -/
def Quiet (operation : Operation α) (s : Session) : Prop :=
  (operation.run s).2.observed = s.observed

/-- Whether nothing can be observed of an operation where it fails. -/
def Careful (operation : Operation α) (s : Session) : Prop :=
  ∀ error s', operation.run s = (.error error,s') → s'.observed = s.observed

theorem Reads.quiet (reads : Reads operation s) : Quiet operation s := by
  rw [Quiet,reads]

theorem Quiet.careful (quiet : Quiet operation s) : Careful operation s := by
  intro error s' failed
  rwa [Quiet,failed] at quiet

theorem Reads.careful (reads : Reads operation s) : Careful operation s := reads.quiet.careful

theorem Succeeds.careful (succeeds : Succeeds operation s) : Careful operation s := by
  intro error s' failed
  obtain ⟨a,s'',run⟩ := succeeds
  cases run.symm.trans failed

theorem Quiet.bind (quiet : Quiet operation s) (rest : ∀ a s', operation.run s = (.ok a,s') → Quiet (next a) s') :
    Quiet (operation >>= next) s := by
  rcases run : (operation >>= next).run s with ⟨result,s''⟩
  rw [Quiet,run]
  rcases run_bind_cases run with ⟨error,failed,_⟩ | ⟨a,s',first,later⟩
  · rwa [Quiet,failed] at quiet
  · have after := rest a s' first
    rw [Quiet,later] at after
    rw [Quiet,first] at quiet
    exact after.trans quiet

/-- What cannot be observed may come before anything. -/
theorem Quiet.bind_careful (quiet : Quiet operation s)
    (rest : ∀ a s', operation.run s = (.ok a,s') → Careful (next a) s') : Careful (operation >>= next) s := by
  intro error s'' failed
  rcases run_bind_cases failed with ⟨error,first,_⟩ | ⟨a,s',first,later⟩
  · exact quiet.careful _ _ first
  · rw [Quiet,first] at quiet
    exact (rest a s' first _ _ later).trans quiet

theorem Reads.bind_careful (reads : Reads operation s) (rest : ∀ a, operation.run s = (.ok a,s) → Careful (next a) s) :
    Careful (operation >>= next) s := by
  refine reads.quiet.bind_careful fun a s' first => ?_
  obtain rfl := reads.eq first
  exact rest a first

/-- What always succeeds may come after anything. -/
theorem Careful.bind_succeeds (careful : Careful operation s) (rest : ∀ a s', Succeeds (next a) s') :
    Careful (operation >>= next) s := by
  intro error s'' failed
  rcases run_bind_cases failed with ⟨error,first,_⟩ | ⟨a,s',_,later⟩
  · exact careful _ _ first
  · obtain ⟨b,s₁,run⟩ := rest a s'
    cases run.symm.trans later

theorem Succeeds.bind (succeeds : Succeeds operation s) (rest : ∀ a s', Succeeds (next a) s') :
    Succeeds (operation >>= next) s := by
  obtain ⟨a,s',first⟩ := succeeds
  obtain ⟨b,s'',later⟩ := rest a s'
  refine ⟨b,s'',?_⟩
  rw [run_bind,first]
  exact later

theorem succeeds_pure (a : α) (s : Session) : Succeeds (pure a) s := ⟨a,s,rfl⟩

theorem succeeds_modify (change : Session → Session) (s : Session) : Succeeds (modify change) s := ⟨(),change s,rfl⟩

theorem succeeds_modifyGet (change : Session → α × Session) (s : Session) : Succeeds (modifyGet change) s :=
  ⟨(change s).1,(change s).2,rfl⟩

/-! ## Asking and writing -/

theorem careful_ask (manager : Handle) (question : Manager → α × Manager) (s : Session) :
    Careful (ask manager question) s :=
  (reads_under _ manager s).bind_careful fun m _ =>
    ((succeeds_modify _ s).bind fun _ s' => succeeds_pure (question m).1 s').careful

/-- A manager may be kept with other bags and another trace. -/
theorem quiet_keepManager {manager : Handle} {m m' : Manager} (found : s.managers.get? manager = some m)
    (same : m'.bare = m.bare) : Quiet (keepManager manager m') s := by
  have kept := HandleTable.map_replace Manager.bare found same
  exact Session.observed_eq_iff.2 ⟨rfl,kept,rfl,rfl,rfl,rfl⟩

theorem quiet_ask (manager : Handle) {question : Manager → α × Manager} (same : ∀ m, (question m).2.bare = m.bare)
    (s : Session) : Quiet (ask manager question) s := by
  refine (reads_under _ manager s).quiet.bind fun m s' first => ?_
  obtain ⟨found,rfl⟩ := run_under_ok_iff.1 first
  exact (quiet_keepManager found (same m)).bind fun _ s' _ => (reads_pure _ s').quiet

theorem quiet_flattenResolved (manager : Handle) (resolve : Bool) (selected : Option Selected) (s : Session) :
    Quiet (flattenResolved manager resolve selected) s := by
  cases selected with
  | none => exact (reads_pure none s).quiet
  | some selected =>
    cases resolve with
    | false => exact (reads_pure _ s).quiet.bind fun _ s' _ => (reads_askRegistry manager _ s').quiet
    | true => exact (quiet_ask manager (fun m => m.bare_noteAll _) s).bind fun _ s' _ =>
        (reads_askRegistry manager _ s').quiet

/-- What is refused is not written. -/
theorem careful_fill {write : Buffers → Except ResourceError α × Buffers}
    (refuses : ∀ b error, (write b).1 = .error error → (write b).2 = b) (s : Session) : Careful (fill write) s := by
  intro error s' failed
  rw [fill,run_bind,run_get] at failed
  simp only at failed
  rcases written : write s.buffers with ⟨error' | a,buffers⟩
  · have same := refuses s.buffers error' (by rw [written])
    rw [written] at failed same
    obtain ⟨_,rfl⟩ := Prod.mk.inj failed
    exact Session.observed_eq_iff.2 ⟨rfl,rfl,rfl,rfl,rfl,same⟩
  · rw [written] at failed
    cases failed

theorem careful_map (f : α → β) (careful : Careful operation s) : Careful (f <$> operation) s := by
  rw [map_eq_pure_bind]
  exact careful.bind_succeeds fun a s' => succeeds_pure (f a) s'

/-! ## Sources and managers -/

theorem careful_loadSource (path : String) (content : Option String) (imports : List Handle) (s : Session) :
    Careful (loadSource path content imports) s :=
  (reads_mapM fun h => reads_under _ h s).bind_careful fun _ _ =>
    (reads_attempt _ s).bind_careful fun _ _ => (succeeds_modifyGet _ s).careful

theorem succeeds_createManager (s : Session) : Succeeds createManager s := ⟨_,_,rfl⟩

theorem careful_setSources (manager : Handle) (sources : List Handle) (invalidate : Bool) (s : Session) :
    Careful (setSources manager sources invalidate) s :=
  (reads_mapM fun h => reads_under _ h s).bind_careful fun _ _ => careful_ask manager _ s

/-- Devices and locale are read and accepted before either is set. -/
theorem careful_setConfiguration (manager : Handle) (configurations : List String) (defaultLocale : Option String)
    (refresh : Bool) (s : Session) : Careful (setConfiguration manager configurations defaultLocale refresh) s := by
  have sets (configurations : List Configuration) (defaultLocale : Option Configuration) : Careful (do
      let m ← attempt ((← managerUnder manager).setConfigurations configurations refresh)
      keepManager manager (m.setDefaultLocale defaultLocale)) s :=
    (reads_under _ manager s).bind_careful fun _ _ =>
      (reads_attempt _ s).bind_careful fun _ _ => (succeeds_modify _ s).careful
  refine (reads_mapM fun text => reads_readConfiguration text s).bind_careful fun configurations _ => ?_
  cases defaultLocale with
  | none => exact sets configurations none
  | some text =>
    exact (reads_map some (reads_readConfiguration text s)).bind_careful fun defaultLocale _ => sets configurations defaultLocale

theorem reads_identifier (manager : Handle) (name : String) (defaultType defaultPackage : Option String) (s : Session) :
    Reads (identifier manager name defaultType defaultPackage) s := by
  by_cases empty : name = ""
  · simp only [identifier,empty,if_true]
    exact (reads_throw _ s).bind fun _ _ => reads_askRegistry manager _ s
  · simp only [identifier,empty,if_false]
    exact reads_askRegistry manager _ s

theorem quiet_value (manager : Handle) (id : ResourceId) (density : Int) (resolve : Bool) (s : Session) :
    Quiet (value manager id density resolve) s :=
  (quiet_ask manager (fun m => m.bare_note _ _) s).bind fun selected s' _ => quiet_flattenResolved manager resolve selected s'

theorem quiet_bagValue (manager : Handle) (id : ResourceId) (key : UInt32) (s : Session) :
    Quiet (bagValue manager id key) s :=
  (quiet_ask manager (fun m => m.bare_bagEntry? id key) s).bind fun _ s' _ => (reads_askRegistry manager _ s').quiet

theorem careful_array (manager : Handle) (id : ResourceId) (s : Session) : Careful (array manager id) s := by
  refine (quiet_ask manager (fun m => m.bare_array? id) s).bind_careful fun items s' _ => ?_
  cases items with
  | none => exact (reads_pure _ s').careful
  | some items => exact careful_map _ (careful_fill (fun b error => Buffers.writeArray_error) s')

/-! ## Assets -/

theorem careful_openAsset (manager : Handle) (name : String) (s : Session) : Careful (openAsset manager name) s := by
  refine (reads_askRegistry manager _ s).bind_careful fun found _ => ?_
  cases found with
  | none => exact (reads_pure _ s).careful
  | some asset => exact careful_map some (succeeds_modifyGet _ s).careful

theorem careful_openAssetIn (manager : Handle) (cookie : Int) (name : String) (s : Session) :
    Careful (openAssetIn manager cookie name) s := by
  refine (reads_askRegistry manager _ s).bind_careful fun found _ => ?_
  cases found with
  | none => exact (reads_pure _ s).careful
  | some asset => exact careful_map some (succeeds_modifyGet _ s).careful

theorem careful_askAsset (asset : Handle) (question : Asset → α × Asset) (s : Session) :
    Careful (askAsset asset question) s :=
  (reads_under _ asset s).bind_careful fun a _ =>
    ((succeeds_modify _ s).bind fun _ s' => succeeds_pure (question a).1 s').careful

theorem careful_readByte (asset : Handle) (s : Session) : Careful (readByte asset) s :=
  (careful_askAsset asset _ s).bind_succeeds fun byte s' => by cases byte <;> exact succeeds_pure _ s'

theorem careful_readBytes (asset : Handle) (s : Session) : Careful (readBytes asset) s := by
  refine Reads.bind_careful (rfl : Reads get s) fun before _ => ?_
  dsimp only
  split
  · exact (reads_pure _ s).careful
  · exact (careful_askAsset asset _ s).bind_succeeds fun bytes s' => ⟨_,_,rfl⟩

theorem careful_seek (asset : Handle) (offset whence : Int) (s : Session) : Careful (seek asset offset whence) s := by
  unfold seek
  split
  · exact (reads_throw _ s).careful
  · split
    · exact (reads_pure _ s).careful
    · exact (careful_askAsset asset _ s).bind_succeeds fun position s' => by cases position <;> exact succeeds_pure _ s'

/-! ## Themes and attributes -/

theorem careful_applyToTheme (manager theme : Handle) (style : ResourceId) (force : Bool) (s : Session) :
    Careful (applyToTheme manager theme style force) s :=
  (reads_under _ manager s).bind_careful fun _ _ => (reads_under _ theme s).bind_careful fun _ _ =>
    (reads_attempt _ s).bind_careful fun _ _ => Succeeds.careful ⟨_,_,rfl⟩

theorem careful_rebaseTheme (manager theme : Handle) (styles : List ResourceId) (force : List Bool) (count : Nat)
    (s : Session) : Careful (rebaseTheme manager theme styles force count) s := by
  unfold rebaseTheme
  split
  · exact (reads_throw _ s).bind_careful fun _ failed => by cases failed
  · exact (reads_under _ manager s).bind_careful fun _ _ => (reads_under _ theme s).bind_careful fun _ _ =>
      Succeeds.careful ⟨_,_,rfl⟩

theorem careful_copyTheme (manager theme otherManager other : Handle) (s : Session) :
    Careful (copyTheme manager theme otherManager other) s := by
  refine (reads_underBoth _ manager otherManager s).bind_careful fun managers _ => ?_
  refine (reads_underBoth _ theme other s).bind_careful fun themes _ => ?_
  cases themes with
  | same t => exact (reads_attempt _ s).careful
  | distinct t other => exact (reads_attempt _ s).bind_careful fun _ _ => (succeeds_modify _ s).careful

theorem reads_themeLines (manager theme : Handle) (s : Session) : Reads (themeLines manager theme) s :=
  (reads_boundTheme manager theme s).bind fun _ _ => reads_askRegistry manager _ s

theorem quiet_themeValue (manager theme : Handle) (attr : ResourceId) (resolve : Bool) (s : Session) :
    Quiet (themeValue manager theme attr resolve) s :=
  (reads_boundTheme manager theme s).quiet.bind fun _ s' _ => quiet_flattenResolved manager resolve _ s'

/-- Attributes that do not fit into the caller's memory have been looked up already, which changes bags and traces. -/
theorem careful_deliver {manager : Handle} {m : Manager} {found : Except ResourceError (AttributeResults × Manager)}
    (isManager : s.managers.get? manager = some m) (same : ∀ results m', found = .ok (results,m') → m'.bare = m.bare) :
    Careful (deliver manager found) s := by
  refine (reads_attempt found s).bind_careful fun (results,m') run => ?_
  rw [run_attempt] at run
  exact (quiet_keepManager isManager (same results m' (Prod.mk.inj run).1)).bind_careful fun _ s' _ =>
    careful_fill (fun b error => Buffers.writeResults_error) s'

theorem careful_resolveAttributes (manager theme : Handle) (defaultAttr defaultId : ResourceId)
    (values : Option (List ResourceId)) (attrs : List ResourceId) (s : Session) :
    Careful (resolveAttributes manager theme defaultAttr defaultId values attrs) s := by
  refine (reads_under _ manager s).bind_careful fun m run => (reads_under _ theme s).bind_careful fun t _ => ?_
  exact careful_deliver (run_under_ok_iff.1 run).1 fun _ _ => Retrieval.bare_of_resolveAttributes

theorem careful_applyStyle (manager theme : Handle) (set : Option AttributeSet) (defaultAttr defaultId : ResourceId)
    (attrs : List ResourceId) (s : Session) : Careful (applyStyle manager theme set defaultAttr defaultId attrs) s := by
  refine (reads_under _ manager s).bind_careful fun m run => (reads_under _ theme s).bind_careful fun t _ => ?_
  exact careful_deliver (run_under_ok_iff.1 run).1 fun _ _ => Retrieval.bare_of_applyStyle

theorem careful_retrieveAttributes (manager : Handle) (set : AttributeSet) (attrs : List ResourceId) (s : Session) :
    Careful (retrieveAttributes manager set attrs) s := by
  refine (reads_under _ manager s).bind_careful fun m run => ?_
  refine careful_deliver (run_under_ok_iff.1 run).1 fun results m' found => ?_
  have kept : (Retrieval.finishAll m _ _ _).2 = m' := congrArg Prod.snd (Except.ok.inj found)
  rw [← kept,Retrieval.bare_finishAll]

theorem reads_styleStack (manager theme : Handle) (elementStyle defaultAttr defaultId : ResourceId) (s : Session) :
    Reads (styleStack manager theme elementStyle defaultAttr defaultId) s :=
  (reads_under _ manager s).bind fun _ _ => (reads_under _ theme s).bind fun _ _ =>
    (reads_attempt _ s).bind fun _ _ => reads_pure _ s

end Service

/-! ## Requests -/

open Service in
theorem Request.careful_perform (request : Request) (s : Session) : Careful request.perform s := by
  -- What is done with an answer always succeeds, so that only the operation counts.
  have answered {α : Type} {operation : Operation α} (careful : Careful operation s) (wrap : α → Answer) :
      Careful (operation >>= fun a => pure (wrap a)) s :=
    careful.bind_succeeds fun a s' => succeeds_pure (wrap a) s'
  -- A value is looked up under its handle, and then something that cannot fail is done with it.
  have thenAlways {α β : Type} {table : Session → HandleTable α} {h : Handle} {next : α → Operation β}
      (always : ∀ a, Succeeds (next a) s) : Careful (under table h >>= next) s :=
    (reads_under table h s).bind_careful fun a _ => (always a).careful
  cases request with
  | loadSource path content imports => exact answered (careful_loadSource path content imports s) _
  | addSource source => exact answered (succeeds_modifyGet _ s).careful _
  | sourcePath source => exact answered (thenAlways fun _ => succeeds_pure _ s) _
  | closeSource source => exact answered (thenAlways fun _ => succeeds_modify _ s) fun _ => .done
  | createManager => exact answered (succeeds_createManager s).careful _
  | destroyManager manager => exact answered (thenAlways fun _ => succeeds_modify _ s) fun _ => .done
  | setSources manager sources invalidate =>
    exact answered (careful_setSources manager sources invalidate s) fun _ => .done
  | setConfiguration manager devices defaultLocale refresh =>
    exact answered (careful_setConfiguration manager devices defaultLocale refresh s) fun _ => .done
  | setLogging manager logging => exact answered (careful_ask manager _ s) fun _ => .done
  | lastResolution manager => exact answered (thenAlways fun _ => succeeds_pure _ s) _
  | packages manager overlays loaders => exact answered (reads_askRegistry manager _ s).careful _
  | locales manager withoutSystem => exact answered (reads_askRegistry manager _ s).careful _
  | configurations manager withoutSystem withoutMipmaps => exact answered (reads_askRegistry manager _ s).careful _
  | name manager id => exact answered (reads_askRegistry manager _ s).careful _
  | namePart manager id part =>
    exact answered ((reads_askRegistry manager _ s).bind fun _ _ => reads_pure _ s).careful _
  | identifier manager text defaultType defaultPackage =>
    exact answered (reads_identifier manager text defaultType defaultPackage s).careful _
  | value manager id density resolve => exact answered (quiet_value manager id density resolve s).careful _
  | bagValue manager id key => exact answered (quiet_bagValue manager id key s).careful _
  | styleAttributes manager id =>
    exact answered ((careful_ask manager _ s).bind_succeeds fun _ s' => succeeds_pure _ s') _
  | parent manager id => exact answered ((careful_ask manager _ s).bind_succeeds fun _ s' => succeeds_pure _ s') _
  | stringArray manager id => exact answered (careful_ask manager _ s) _
  | stringPlaces manager id => exact answered ((careful_ask manager _ s).bind_succeeds fun _ s' => succeeds_pure _ s') _
  | intArray manager id => exact answered (careful_ask manager _ s) _
  | arraySize manager id => exact answered ((careful_ask manager _ s).bind_succeeds fun _ s' => succeeds_pure _ s') _
  | array manager id => exact answered (careful_array manager id s) _
  | openAsset manager path => exact answered (careful_openAsset manager path s) _
  | openAssetIn manager cookie path => exact answered (careful_openAssetIn manager cookie path s) _
  | listAssets manager directory => exact answered (reads_askRegistry manager _ s).careful _
  | readByte asset => exact answered (careful_readByte asset s) _
  | readBytes asset => exact answered (careful_readBytes asset s) _
  | seek asset offset whence => exact answered (careful_seek asset offset whence s) _
  | assetSize asset => exact answered (thenAlways fun _ => succeeds_pure _ s) _
  | assetRemaining asset => exact answered (thenAlways fun _ => succeeds_pure _ s) _
  | closeAsset asset => exact answered (thenAlways fun _ => succeeds_modify _ s) fun _ => .done
  | createTheme manager => exact answered (thenAlways fun _ => succeeds_modifyGet _ s) _
  | destroyTheme theme => exact answered (thenAlways fun _ => succeeds_modify _ s) fun _ => .done
  | applyToTheme manager theme style force =>
    exact answered (careful_applyToTheme manager theme style force s) fun _ => .done
  | rebaseTheme manager theme styles force count =>
    exact answered (careful_rebaseTheme manager theme styles force count s) fun _ => .done
  | copyTheme manager theme otherManager other =>
    exact answered (careful_copyTheme manager theme otherManager other s) fun _ => .done
  | clearTheme theme => exact answered (thenAlways fun _ => succeeds_modify _ s) fun _ => .done
  | themeValue manager theme attr resolve => exact answered (quiet_themeValue manager theme attr resolve s).careful _
  | themeChanges theme => exact answered (thenAlways fun _ => succeeds_pure _ s) _
  | themeLines manager theme => exact answered (reads_themeLines manager theme s).careful _
  | resolveAttributes manager theme defaultAttr defaultId values attrs =>
    exact answered (careful_resolveAttributes manager theme defaultAttr defaultId values attrs s) _
  | applyStyle manager theme set defaultAttr defaultId attrs =>
    exact answered (careful_applyStyle manager theme set defaultAttr defaultId attrs s) _
  | retrieveAttributes manager set attrs => exact answered (careful_retrieveAttributes manager set attrs s) _
  | styleStack manager theme elementStyle defaultAttr defaultId =>
    exact answered (reads_styleStack manager theme elementStyle defaultAttr defaultId s).careful _

/-- Sessions that look alike have the same live handles. -/
theorem Session.live_iff_of_observed {s s' : Session} (same : s'.observed = s.observed) (kind : HandleKind) (h : Handle) :
    s'.Live kind h ↔ s.Live kind h := by
  obtain ⟨sources,managers,themes,assets,_,_⟩ := observed_eq_iff.1 same
  cases kind with
  | source => rw [Live,Live,sources]
  | manager =>
    have found := congrArg (fun t => (t.get? h).isSome) managers
    simp only [HandleTable.get?_map,Option.isSome_map] at found
    rw [Live,Live,found]
  | theme => rw [Live,Live,themes]
  | asset => rw [Live,Live,assets]

/-- A request that fails changes nothing but bags that are kept and traces. -/
theorem Session.serve_failed {s s' : Session} {request : Request} {error : ResourceError}
    (failed : s.serve request = (.error error,s')) :
    s'.observed = s.observed ∧ ∀ kind h, s'.Live kind h ↔ s.Live kind h := by
  have same : s'.observed = s.observed := request.careful_perform s error s' failed
  exact ⟨same,live_iff_of_observed same⟩

/-- Memory that is too short for an array is noticed after the array has been put together, which is then kept. -/
theorem Session.serve_failed_short :
    let array : Entry := ⟨⟨"app","array","a"⟩,[⟨{},.bag 0 [(0x02000000,⟨.decimal,1⟩)]⟩]⟩
    let source : Source := { path := "a", table := { packages := .ofList [(0x7f,"app")], entries := .ofList [(0x7f010000,array)] } }
    let managers := ({ owner := 2 } : HandleTable Manager).insert { registry := { sources := [source] } }
    let s : Session := { managers := managers.2, buffers := { values := [0] } }
    let request : Request := .array managers.1 0x7f010000
    ∃ error s', s.serve request = (.error error,s') ∧ error.summary =
        "invalid argument: output of 1 entries can't hold 1 elements" ∧
      s'.observed = s.observed ∧ (s'.managers.get? managers.1).map (fun m => m.bags.keys) = some [0x7f010000] := by
  intro array source managers s request
  have text : (match (s.serve request).1 with
      | .error error => error.summary
      | .ok _ => "") = "invalid argument: output of 1 entries can't hold 1 elements" := by decide +kernel
  have kept : ((s.serve request).2.managers.get? managers.1).map (fun m => m.bags.keys) = some [0x7f010000] := by
    decide +kernel
  rcases run : s.serve request with ⟨error | answer,s'⟩
  · rw [run] at text kept
    exact ⟨error,s',rfl,text,(serve_failed run).1,kept⟩
  · rw [run] at text
    simp at text

end AndroidResources
