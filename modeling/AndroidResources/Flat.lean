import AndroidResources.Attribute.Retrieval

/-!
# Flat values

Outside the library a value is a record of signed integers, or a run of slots in a caller's memory. What
does not fit into that memory is refused and leaves it as it is.
-/
namespace AndroidResources

/-- A word as a signed integer. -/
def signed (n : UInt32) : Int := n.toInt32.toInt

theorem signed_ofNat (n : Nat) : signed (.ofNat n) = Int.bmod n 0x100000000 := by
  simp [signed]

/-- A number is kept where 31 bits hold it. -/
theorem signed_ofNat_eq_iff {n : Nat} : signed (.ofNat n) = n ↔ n < 0x80000000 := by
  rw [signed_ofNat,Int.bmod_def]
  omega

/-- A value outside the library. -/
structure FlatValue where
  type : Int
  data : Int
  /-- The cookie of the value's source, -1 if it has none. -/
  cookie : Int
  id : Int
  changes : Int
  density : Int
  /-- The text of a string. -/
  string : Option String
  deriving DecidableEq

/-- A value as it is outside the library. -/
def FlatValue.of (r : Registry) (s : Selected) : FlatValue where
  type := s.value.type.code.toNat
  data := signed s.value.data
  cookie := s.cookie.toExternal
  id := signed s.id
  changes := signed s.changes.bits
  density := s.configuration.density.toNat
  string := r.string? s

/-- The density that a number outside the library asks for, none if it is no density. -/
def densityOf? (n : Int) : Option UInt16 :=
  if 0 < n ∧ n < 0x10000 then some (.ofNat n.toNat) else none

/-! ## Slots -/

/-- The number of slots that a value takes. -/
def slotsPerValue : Nat := 7

/-- The slots of a value, the last one for the style or XML resource that it comes from. -/
def Selected.slots (s : Selected) (sourceId : ResourceId) : List Int :=
  [s.value.type.code.toNat,signed s.value.data,s.cookie.toExternal,signed s.id,signed s.changes.bits,
    s.configuration.density.toNat,signed sourceId]

def ResolvedAttribute.slots (a : ResolvedAttribute) : List Int :=
  a.value.slots a.sourceId

theorem ResolvedAttribute.length_slots (a : ResolvedAttribute) : a.slots.length = slotsPerValue := rfl

/-- The slots of an array's item; what refers to nothing is undefined and has no source. -/
def Selected.itemSlots (s : Selected) : List Int :=
  if s.value.isNullReference || s.value.isUndefined then
    slots { s with value := .undefined, cookie := .invalid } 0
  else s.slots 0

/-! ## Memory of a caller -/

/-- Where a caller wants answers. -/
structure Buffers where
  bytes : List UInt8 := []
  values : List Int := []
  /-- Room for the number and the positions of defined values, if they are asked for. -/
  indices : Option (List Int) := none
  deriving DecidableEq, Inhabited

namespace Buffers

/-- Writes over the front of a buffer, which has to be long enough. -/
def overwrite {α : Type} (front buffer : List α) : List α :=
  front ++ buffer.drop front.length

/-- What is missing for a number of values with their positions. -/
def shortage? (b : Buffers) (count : Nat) : Option ResourceError :=
  let needed := count * slotsPerValue
  if b.values.length < needed then some (.bufferTooSmall needed b.values.length)
  else
    match b.indices with
    | none => none
    | some indices =>
      if indices.length < count + 1 then some (.bufferTooSmall (count + 1) indices.length) else none

/-- Puts values into the runs of slots of a buffer, as long as there are values and full runs. -/
def fillValues : List ResolvedAttribute → List Int → List Int
  | [],slots => slots
  | a :: rest,slots =>
    if slots.length < slotsPerValue then slots else a.slots ++ fillValues rest (slots.drop slotsPerValue)

/-- Puts numbers into slots, as long as there are both. -/
def fillNumbers : List Nat → List Int → List Int
  | n :: rest,_ :: slots => signed (.ofNat n) :: fillNumbers rest slots
  | _,slots => slots

/-- Puts the number of positions into the first slot of a buffer, and the positions into the slots after it. -/
def fillPositions (positions : List Nat) : List Int → List Int
  | [] => []
  | _ :: slots => signed (.ofNat positions.length) :: fillNumbers positions slots

/-- Writes the values of attributes, with the number of defined ones and their positions if these are asked
    for, and answers with that number. -/
def writeResults (b : Buffers) (results : AttributeResults) : Except ResourceError Nat × Buffers :=
  match b.shortage? results.values.length with
  | some error => (.error error,b)
  | none =>
    (.ok results.indices.length,
      { b with
        values := fillValues results.values b.values
        indices := b.indices.map (fillPositions results.indices) })

/-- Writes the items of an array, and answers with their number. -/
def writeArray (b : Buffers) (items : List Selected) : Except ResourceError Nat × Buffers :=
  if b.values.length < items.length * slotsPerValue then
    (.error (.invalidArgument ("output of " ++ Nat.repr b.values.length ++ " entries can't hold " ++
      Nat.repr items.length ++ " elements")),b)
  else (.ok items.length,{ b with values := overwrite (items.flatMap Selected.itemSlots) b.values })

end Buffers

end AndroidResources
