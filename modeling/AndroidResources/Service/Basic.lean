import AndroidResources.Flat
import AndroidResources.Handle
import AndroidResources.Pair
import AndroidResources.Source.Description

/-!
# Services

A service keeps sources, managers, themes and open assets for callers who know them by handles. A handle
that is not live in the table of its kind is refused as stale. What an operation changes before it fails
stays changed: that is the bags that managers keep and their traces.
-/
namespace AndroidResources

/-- All that callers have opened. -/
structure Service where
  sources : HandleTable Source := { owner := 1 }
  managers : HandleTable Manager := { owner := 2 }
  themes : HandleTable Theme := { owner := 3 }
  assets : HandleTable Asset := { owner := 4 }
  /-- The tag of the next manager. -/
  nextTag : Nat := 0
  deriving Inhabited

/-- A service together with the memory of the caller that it works for. -/
structure Session extends Service where
  buffers : Buffers := {}
  deriving Inhabited

/-- What a service does for a caller. -/
abbrev Operation (α : Type) := ExceptT ResourceError (StateM Session) α

namespace Service

variable {α β : Type}

/-! ## Runs -/

/-- An operation goes on where the one before it succeeds, in the state that it leaves. -/
theorem run_bind (operation : Operation α) (next : α → Operation β) (s : Session) :
    (operation >>= next).run s = match operation.run s with
      | (.ok value,s) => (next value).run s
      | (.error error,s) => (.error error,s) := by
  simp only [ExceptT.run,bind,ExceptT.bind,ExceptT.mk,StateT.bind,ExceptT.bindCont]
  rcases operation s with ⟨_ | _,_⟩ <;> rfl

theorem run_get (s : Session) : (get : Operation Session).run s = (.ok s,s) := rfl

/-! ## Values under handles -/

/-- The value under a handle. -/
def under (table : Session → HandleTable α) (h : Handle) : Operation α := do
  match (table (← get)).get? h with
  | some value => pure value
  | none => throw .staleHandle

/-- The values under two handles, which may be the same. -/
def underBoth (table : Session → HandleTable α) (first second : Handle) : Operation (Pair α) := do
  match Pair.of? (table (← get)).get? first second with
  | some pair => pure pair
  | none => throw .staleHandle

theorem run_underBoth {table : Session → HandleTable α} {first second : Handle} {pair : Pair α} {s : Session}
    (found : Pair.of? (table s).get? first second = some pair) :
    (underBoth table first second).run s = (.ok pair,s) := by
  rw [underBoth,run_bind,run_get]
  simp only [found]
  rfl

def sourceUnder (h : Handle) : Operation Source := under (fun s => s.sources) h
def managerUnder (h : Handle) : Operation Manager := under (fun s => s.managers) h
def themeUnder (h : Handle) : Operation Theme := under (fun s => s.themes) h
def assetUnder (h : Handle) : Operation Asset := under (fun s => s.assets) h

def keepManager (h : Handle) (m : Manager) : Operation Unit :=
  modify fun s => { s with managers := s.managers.replace h m }

def keepTheme (h : Handle) (t : Theme) : Operation Unit :=
  modify fun s => { s with themes := s.themes.replace h t }

def keepAsset (h : Handle) (a : Asset) : Operation Unit :=
  modify fun s => { s with assets := s.assets.replace h a }

def addSource (s : Source) : Operation Handle :=
  modifyGet fun session =>
    let (h,sources) := session.sources.insert s
    (h,{ session with sources })

def addManager (m : Manager) : Operation Handle :=
  modifyGet fun session =>
    let (h,managers) := session.managers.insert m
    (h,{ session with managers })

def addTheme (t : Theme) : Operation Handle :=
  modifyGet fun session =>
    let (h,themes) := session.themes.insert t
    (h,{ session with themes })

def addAsset (a : Asset) : Operation Handle :=
  modifyGet fun session =>
    let (h,assets) := session.assets.insert a
    (h,{ session with assets })

/-! ## Parts of operations -/

/-- Goes on with a value, or fails with its error. -/
def attempt : Except ResourceError α → Operation α
  | .ok value => pure value
  | .error error => throw error

theorem run_attempt (result : Except ResourceError α) (s : Session) : (attempt result).run s = (result,s) := by
  cases result <;> rfl

/-- Asks a manager, and keeps it as it is afterwards. -/
def ask (h : Handle) (question : Manager → α × Manager) : Operation α := do
  let (answer,m) := question (← managerUnder h)
  keepManager h m
  pure answer

/-- Asks the registry of a manager. -/
def askRegistry (h : Handle) (question : Registry → α) : Operation α := do
  pure (question (← managerUnder h).registry)

/-- Writes into the memory of the caller. -/
def fill (write : Buffers → Except ResourceError α × Buffers) : Operation α := do
  let (answer,buffers) := write (← get).buffers
  modify fun s => { s with buffers }
  attempt answer

/-- A value as it is outside the library. -/
def flatten (manager : Handle) (s : Option Selected) : Operation (Option FlatValue) :=
  askRegistry manager fun r => s.map (FlatValue.of r)

/-- A value, or what it stands for, as it is outside the library. -/
def flattenResolved (manager : Handle) (resolve : Bool) (s : Option Selected) :
    Operation (Option FlatValue) := do
  match s with
  | none => pure none
  | some s => flatten manager (← if resolve then ask manager fun m => m.resolve? s else pure (some s))

end Service

end AndroidResources
