import AndroidResources.Bag

/-!
# Cached bags

Bags are kept once they are put together, each with the generation of the sources that it comes from. A
bag of an earlier generation is not used.
-/
namespace AndroidResources

/-- A bag with the generation of its sources. -/
structure CachedBag where
  generation : Nat
  bag : Bag

/-- The bags that are kept. -/
abbrev BagCache := OrderedMap ResourceId CachedBag

namespace BagCache

/-- The bag that is kept for a generation. -/
def bag? (c : BagCache) (generation : Nat) (id : ResourceId) : Option Bag :=
  match c.get? id with
  | some cached => if cached.generation = generation then some cached.bag else none
  | none => none

/-- The bags that do not vary over any of the dimensions. -/
def without (c : BagCache) (changes : Changes) : BagCache :=
  c.filter fun _ cached => !cached.bag.changes.intersects changes

/-- A bag, from the cache or put together in at most `fuel` steps; `chain` has the bags whose parents it
    is among. A bag is missing when it has no layers, when its parent is missing, or when it is its own
    ancestor. -/
def bagWithin? (r : Registry) (generation : Nat) :
    (fuel : Nat) → (chain : List ResourceId) → BagCache → ResourceId → Option Bag × BagCache
  | fuel, chain, c, id =>
    match c.bag? generation id with
    | some bag => (some bag,c)
    | none =>
      match fuel with
      | 0 => (none,c)
      | fuel + 1 =>
        if id ∈ chain then (none,c)
        else
          let layers := r.layers id
          match layers.getLast? with
          | none => (none,c)
          | some top =>
            let (parent,c) : Option (Option Bag) × BagCache :=
              if top.parent = 0 then (some none,c)
              else
                let (parent,c) := bagWithin? r generation fuel (id :: chain) c top.parent
                (parent.map some,c)
            match parent with
            | none => (none,c)
            | some parent =>
              let bag := Bag.compose id top layers parent
              (some bag,c.insert id ⟨generation,bag⟩)

/-- A bag, from the cache or put together. Only ids with layers take a step. -/
def getBag? (c : BagCache) (r : Registry) (generation : Nat) (id : ResourceId) : Option Bag × BagCache :=
  bagWithin? r generation (r.idCount + 1) [] c id

end BagCache

end AndroidResources
