/-!
# Pairs

Two values that are used together, each under a key of its own. With one key for both there is only one
value, which must not be taken for two.
-/
namespace AndroidResources

/-- The values under two keys. -/
inductive Pair (α : Type) where
  /-- Both keys are the same. -/
  | same (value : α)
  | distinct (first second : α)
  deriving DecidableEq

namespace Pair

variable {κ α : Type} [DecidableEq κ]

/-- The values under two keys, if both have one. -/
def of? (get? : κ → Option α) (first second : κ) : Option (Pair α) :=
  if first = second then (get? first).map same
  else
    match get? first, get? second with
    | some a, some b => some (distinct a b)
    | _, _ => none

/-- Both values; they may be one. -/
def both : Pair α → α × α
  | same value => (value,value)
  | distinct first second => (first,second)

theorem both_of? {get? : κ → Option α} {first second : κ} {a b : α} (isFirst : get? first = some a)
    (isSecond : get? second = some b) : ∃ pair, of? get? first second = some pair ∧ pair.both = (a,b) := by
  unfold of?
  by_cases oneKey : first = second
  · subst oneKey
    obtain rfl := Option.some.inj (isFirst.symm.trans isSecond)
    exact ⟨.same a,by rw [if_pos rfl,isFirst]; rfl,rfl⟩
  · exact ⟨.distinct a b,by rw [if_neg oneKey,isFirst,isSecond],rfl⟩

/-- Puts values under their keys. -/
def put {σ : Type} (keep : κ → α → σ → σ) (first second : κ) (values : σ) : Pair α → σ
  | same value => keep first value values
  | distinct a b => keep second b (keep first a values)

end Pair

end AndroidResources
