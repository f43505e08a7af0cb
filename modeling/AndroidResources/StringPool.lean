/-!
# String pools

The strings of a table, each once, in the order of their first use. String values hold positions.
-/
namespace AndroidResources

/-- The strings in order. -/
structure StringPool where
  strings : List String := []
  deriving DecidableEq, Inhabited

namespace StringPool

/-- The position of a string, and the pool with the string at its end if it had none. -/
def intern (pool : StringPool) (s : String) : UInt32 × StringPool :=
  match pool.strings.idxOf? s with
  | some position => (.ofNat position,pool)
  | none => (.ofNat pool.strings.length,⟨pool.strings ++ [s]⟩)

/-- The positions of strings, and the pool after all of them. -/
def internAll (pool : StringPool) : List String → List UInt32 × StringPool
  | [] => ([],pool)
  | s :: rest =>
    let (position,pool) := pool.intern s
    let (positions,pool) := pool.internAll rest
    (position :: positions,pool)

/-- The string at a position. -/
def get? (pool : StringPool) (position : UInt32) : Option String :=
  pool.strings[position.toNat]?

/-- The number of strings. -/
def size (pool : StringPool) : Nat :=
  pool.strings.length

end StringPool

end AndroidResources
