import AndroidResources.Service.Request

/-!
# Runs of operations

How the parts of an operation run one after the other. Much of what a service does is to look things up, which leaves
the session as it is (`Service.Reads`); such a part of an operation is run through without a look at the state.
-/
namespace AndroidResources

/-- What handles stand for. -/
inductive HandleKind where
  | source
  | manager
  | theme
  | asset
  deriving DecidableEq

/-- Whether a handle reaches something of its kind. -/
def Session.Live (s : Session) : HandleKind → Handle → Prop
  | .source, h => (s.sources.get? h).isSome
  | .manager, h => (s.managers.get? h).isSome
  | .theme, h => (s.themes.get? h).isSome
  | .asset, h => (s.assets.get? h).isSome

instance (s : Session) (kind : HandleKind) (h : Handle) : Decidable (s.Live kind h) :=
  match kind with
  | .source => inferInstanceAs (Decidable ((s.sources.get? h).isSome = true))
  | .manager => inferInstanceAs (Decidable ((s.managers.get? h).isSome = true))
  | .theme => inferInstanceAs (Decidable ((s.themes.get? h).isSome = true))
  | .asset => inferInstanceAs (Decidable ((s.assets.get? h).isSome = true))

namespace Service
variable {α β : Type} {operation : Operation α} {next : α → Operation β} {s s' s'' : Session}

/-- An operation in two parts fails in the first one, or does the second one where the first one leaves it. -/
theorem run_bind_cases {result : Except ResourceError β} (run : (operation >>= next).run s = (result,s'')) :
    (∃ error, operation.run s = (.error error,s'') ∧ result = .error error) ∨
      ∃ a s', operation.run s = (.ok a,s') ∧ (next a).run s' = (result,s'') := by
  rw [run_bind] at run
  rcases first : operation.run s with ⟨error | a,s'⟩
  · rw [first] at run
    obtain ⟨rfl,rfl⟩ := Prod.mk.inj run
    exact .inl ⟨error,rfl,rfl⟩
  · rw [first] at run
    exact .inr ⟨a,s',rfl,run⟩

theorem run_bind_ok {b : β} (run : (operation >>= next).run s = (.ok b,s'')) :
    ∃ a s', operation.run s = (.ok a,s') ∧ (next a).run s' = (.ok b,s'') := by
  rcases run_bind_cases run with ⟨error,_,failed⟩ | found
  · cases failed
  · exact found

theorem run_under (table : Session → HandleTable α) (h : Handle) (s : Session) :
    (under table h).run s = match (table s).get? h with
      | some v => (.ok v,s)
      | none => (.error .staleHandle,s) := by
  rw [under,run_bind,run_get]
  simp only
  cases (table s).get? h <;> rfl

theorem run_under_ok_iff {table : Session → HandleTable α} {h : Handle} {v : α} :
    (under table h).run s = (.ok v,s') ↔ (table s).get? h = some v ∧ s' = s := by
  rw [run_under]
  cases (table s).get? h with
  | none => exact iff_of_false (fun run => by cases run) (fun found => by cases found.1)
  | some w =>
    constructor
    · rintro ⟨⟩
      exact ⟨rfl,rfl⟩
    · rintro ⟨⟨⟩,rfl⟩
      rfl

theorem run_underBoth_ok_iff {table : Session → HandleTable α} {first second : Handle} {pair : Pair α} :
    (underBoth table first second).run s = (.ok pair,s') ↔
      Pair.of? (table s).get? first second = some pair ∧ s' = s := by
  cases found : Pair.of? (table s).get? first second with
  | none =>
    rw [underBoth,run_bind,run_get]
    simp only [found]
    exact iff_of_false (fun run => by cases run) (fun found => by cases found.1)
  | some both =>
    rw [run_underBoth found]
    constructor
    · rintro ⟨⟩
      exact ⟨rfl,rfl⟩
    · rintro ⟨⟨⟩,rfl⟩
      rfl

/-! ## Reading -/

/-- Whether an operation leaves a session as it is. -/
def Reads (operation : Operation α) (s : Session) : Prop :=
  (operation.run s).2 = s

theorem Reads.eq {result : Except ResourceError α} (reads : Reads operation s) (run : operation.run s = (result,s')) :
    s' = s := by
  rw [Reads,run] at reads
  exact reads

theorem Reads.bind (reads : Reads operation s) (rest : ∀ a, operation.run s = (.ok a,s) → Reads (next a) s) :
    Reads (operation >>= next) s := by
  rcases run : (operation >>= next).run s with ⟨result,s''⟩
  rw [Reads,run]
  rcases run_bind_cases run with ⟨error,failed,_⟩ | ⟨a,s',first,later⟩
  · exact reads.eq failed
  · obtain rfl := reads.eq first
    exact (rest a first).eq later

theorem reads_pure (a : α) (s : Session) : Reads (pure a) s := rfl

theorem reads_throw (error : ResourceError) (s : Session) : Reads (throw error : Operation α) s := rfl

theorem reads_attempt (result : Except ResourceError α) (s : Session) : Reads (attempt result) s := by
  rw [Reads,run_attempt]

theorem reads_under (table : Session → HandleTable α) (h : Handle) (s : Session) : Reads (under table h) s := by
  rw [Reads,run_under]
  cases (table s).get? h <;> rfl

theorem reads_underBoth (table : Session → HandleTable α) (first second : Handle) (s : Session) :
    Reads (underBoth table first second) s := by
  rw [Reads,underBoth,run_bind,run_get]
  simp only
  cases Pair.of? (table s).get? first second <;> rfl

theorem reads_askRegistry (h : Handle) (question : Registry → α) (s : Session) : Reads (askRegistry h question) s :=
  (reads_under _ h s).bind fun _ _ => reads_pure _ s

theorem reads_map (f : α → β) (reads : Reads operation s) : Reads (f <$> operation) s := by
  rw [map_eq_pure_bind]
  exact reads.bind fun a _ => reads_pure (f a) s

theorem reads_mapM {items : List α} {read : α → Operation β} (reads : ∀ item, Reads (read item) s) :
    Reads (items.mapM read) s := by
  induction items with
  | nil => exact reads_pure [] s
  | cons item rest ih =>
    rw [List.mapM_cons]
    exact (reads item).bind fun b _ => ih.bind fun bs _ => reads_pure (b :: bs) s

theorem reads_readConfiguration (text : String) (s : Session) : Reads (readConfiguration text) s := by
  unfold readConfiguration
  split
  · exact reads_pure _ s
  · exact reads_throw _ s

theorem reads_boundTheme (manager theme : Handle) (s : Session) : Reads (boundTheme manager theme) s :=
  (reads_under _ manager s).bind fun _ _ => (reads_under _ theme s).bind fun _ _ =>
    (reads_attempt _ s).bind fun _ _ => reads_pure _ s

end Service

end AndroidResources
