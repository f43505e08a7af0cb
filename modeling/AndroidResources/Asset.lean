/-!
# Assets

An open asset is its bytes with a position to read from. The position may be moved past the end, where
there is nothing to read.
-/
namespace AndroidResources

/-- An open asset. -/
structure Asset where
  name : String
  data : List UInt8
  position : Nat := 0
  deriving DecidableEq, Inhabited

/-- What a position is counted from. -/
inductive Origin where
  | start
  | current
  | «end»
  deriving DecidableEq

namespace Asset

/-- The number of bytes. -/
def size (a : Asset) : Nat := a.data.length

/-- The number of bytes behind the position. -/
def remaining (a : Asset) : Nat := a.size - a.position

/-- At most `n` bytes from the position on, and the asset with the position behind them. -/
def read (a : Asset) (n : Nat) : List UInt8 × Asset :=
  let bytes := (a.data.drop a.position).take n
  (bytes,{ a with position := a.position + bytes.length })

/-- The next byte, if there is one. -/
def readByte (a : Asset) : Option UInt8 × Asset :=
  match a.read 1 with
  | ([byte],a) => (some byte,a)
  | (_,a) => (none,a)

/-- The position at an offset from an origin, unless it does not fit into 64 bits without a sign. -/
def target? (a : Asset) (origin : Origin) (offset : Int) : Option Nat :=
  let base : Nat := match origin with
    | .start => 0
    | .current => a.position
    | .end => a.size
  let position := base + offset
  if 0 ≤ position ∧ position < 0x10000000000000000 then some position.toNat else none

/-- Moves the position, and answers with it; without a target the asset stays as it is. -/
def seek (a : Asset) (origin : Origin) (offset : Int) : Option Nat × Asset :=
  match a.target? origin offset with
  | some position => (some position,{ a with position })
  | none => (none,a)

end Asset

end AndroidResources
