import AndroidResources.Configuration.Match
import AndroidResources.Configuration.Preference
import AndroidResources.Cookie
import AndroidResources.Table.Basic

/-!
# Selection

Of all definitions that suit a device the best one is selected. Where the configurations leave the choice
open, the rank of the source decides, then the order of configurations, then the cookie.
-/
namespace AndroidResources

/-- Where a source stands among all sources; greater ranks win. -/
structure Rank where
  /-- Not marked as of lower priority. -/
  preferred : Bool
  position : Nat
  deriving DecidableEq, Inhabited

instance : Ord Rank where
  compare a b := (compare a.preferred b.preferred).then (compare a.position b.position)

instance : Std.TransOrd Rank :=
  inferInstanceAs (Std.TransCmp (compareLex (compareOn Rank.preferred) (compareOn Rank.position)))

instance : Std.LawfulEqOrd Rank where
  eq_of_compare {a b} same := by
    have parts : compare a.preferred b.preferred = .eq ∧ compare a.position b.position = .eq :=
      Ordering.then_eq_eq.1 same
    rcases a with ⟨_,_⟩
    rcases b with ⟨_,_⟩
    simpa using parts

/-- A definition together with the source it stands in. -/
structure Candidate where
  cookie : Cookie
  rank : Rank
  definition : Definition
  /-- The path of the source. -/
  source : String := ""
  /-- The name of the resource's type in the source. -/
  type : String := ""
  /-- The dimensions over which the resource varies in the source. -/
  changes : Changes := .none

namespace Candidate

/-- What the candidate is meant for. -/
def configuration (c : Candidate) : Configuration := c.definition.configuration

/-- Compares two candidates that suit a device, the greater one being preferred. -/
def compare (device : Configuration) (a b : Candidate) : Ordering :=
  if a.configuration.isBetter b.configuration device then .gt
  else if b.configuration.isBetter a.configuration device then .lt
  else
    (Ord.compare a.rank b.rank).then
      ((Ord.compare a.configuration b.configuration).then (Ord.compare a.cookie b.cookie))

end Candidate

/-- The last of the greatest members of a list. -/
def lastGreatest? {α : Type} (compare : α → α → Ordering) : List α → Option α
  | [] => none
  | first :: rest => some (rest.foldl (fun best next => if compare best next = .gt then best else next) first)

/-- The candidates that suit a device. -/
def suitable (device : Configuration) (candidates : List Candidate) : List Candidate :=
  candidates.filter fun c => c.configuration.suits device

/-- The best candidate for a device, whose density may be replaced. -/
def select? (candidates : List Candidate) (device : Configuration) (density : Option UInt16) :
    Option Candidate :=
  let device := device.withDensity density
  lastGreatest? (Candidate.compare device) (suitable device candidates)

/-! ## The way to a selection -/

/-- What a candidate was when its turn came. -/
inductive StepKind where
  | initial
  /-- Preferred to the best one before it. -/
  | better
  /-- Preferred, and meant for the same configuration. -/
  | overlaid
  | skipped
  deriving DecidableEq

/-- One candidate's turn. -/
structure Step where
  kind : StepKind
  source : String
  configuration : Configuration
  deriving DecidableEq

/-- What a candidate is when its turn comes. -/
def stepKind (device : Configuration) (best : Option Candidate) (c : Candidate) : StepKind :=
  match best with
  | none => .initial
  | some best =>
    if Candidate.compare device c best = .gt then
      if c.configuration = best.configuration then .overlaid else .better
    else .skipped

/-- The turns of candidates that suit a device, with the best one in the end. -/
def steps (device : Configuration) : (best : Option Candidate) → List Candidate → List Step × Option Candidate
  | best, [] => ([],best)
  | best, c :: rest =>
    let kind := stepKind device best c
    let (later,last) := steps device (if kind = .skipped then best else some c) rest
    (⟨kind,c.source,c.configuration⟩ :: later,last)

end AndroidResources
