import AndroidResources.Registry.Lookup

/-!
# References

A reference is followed from resource to resource until something else is found. It leads nowhere when a
resource is missing, when it comes back to one that it went through, or when it is too long.
-/
namespace AndroidResources

/-- The number of steps after which a chain of references or attributes is given up. -/
def maxHops : Nat := 20

/-- Where a chain of references leads, and the resources that were looked up on the way. -/
structure Walk where
  result : Option Selected := none
  lookups : List ResourceId := []

/-- A resource behind a reference: the value varies with both. -/
def Selected.behind (next current : Selected) : Selected :=
  { next with changes := current.changes.union next.changes }

/-- A value without anything in it. -/
def Selected.cleared (s : Selected) : Selected :=
  { s with value := .undefined }

namespace Registry

/-- Follows a chain in at most `hops` steps, the last of which has to find the end. Bags end a chain, and
    so does the reference to no resource, which stands for an undefined value. -/
def walk (r : Registry) : (hops : Nat) → (visited : List ResourceId) → Selected → Walk
  | 0, _, _ => {}
  | hops + 1, visited, current =>
    if current.value.type ≠ .reference then { result := some current }
    else
      let id : ResourceId := current.value.data
      if id = 0 then { result := some current.cleared }
      else if id ∈ visited then {}
      else
        match r.selected? id none with
        | none => { lookups := [id] }
        | some (next,isBag) =>
          let next := next.behind current
          if isBag then { result := some next, lookups := [id] }
          else
            let later := r.walk hops (id :: visited) next
            { later with lookups := id :: later.lookups }

/-- The way of a value to what it stands for. -/
def follow (r : Registry) (s : Selected) : Walk :=
  r.walk maxHops [] s

/-- What a value stands for. -/
def resolve? (r : Registry) (s : Selected) : Option Selected :=
  (r.follow s).result

/-- What a value stands for, or the value itself when that leads nowhere. -/
def resolved (r : Registry) (s : Selected) : Selected :=
  (r.resolve? s).getD s

end Registry

end AndroidResources
