/-!
# Handles

A handle table keeps values under handles that it chooses. A handle names its table, a slot and the
generation of that slot; taking the value out ends the generation, so that no handle to it ever reaches
what comes after. A slot whose generations are used up is not used again.
-/
namespace AndroidResources

/-- The name of a value in a table of its kind. -/
structure Handle where
  owner : UInt16
  generation : UInt16
  index : UInt32
  deriving DecidableEq, Inhabited

namespace Handle

/-- A handle as one word: its owner, generation and index from the highest bits down. -/
def word (h : Handle) : UInt64 :=
  .ofNat (h.owner.toNat * 0x1000000000000 + h.generation.toNat * 0x100000000 + h.index.toNat)

/-- The handle in a word. -/
def ofWord (n : UInt64) : Handle :=
  ⟨.ofNat (n.toNat / 0x1000000000000),.ofNat (n.toNat / 0x100000000),.ofNat n.toNat⟩

theorem ofWord_word (h : Handle) : ofWord h.word = h := by
  obtain ⟨owner,generation,index⟩ := h
  have := owner.toNat_lt
  have := generation.toNat_lt
  have := index.toNat_lt
  simp only [ofWord,word,Handle.mk.injEq,← UInt16.toNat_inj,← UInt32.toNat_inj,UInt16.toNat_ofNat',
    UInt32.toNat_ofNat',UInt64.toNat_ofNat']
  omega

theorem word_ofWord (n : UInt64) : (ofWord n).word = n := by
  have := n.toNat_lt
  simp only [ofWord,word,← UInt64.toNat_inj,UInt16.toNat_ofNat',UInt32.toNat_ofNat',UInt64.toNat_ofNat']
  omega

end Handle

/-- A place for a value, with the generation of the value that is or will be there. -/
structure Slot (α : Type) where
  generation : UInt16
  value : Option α

/-- Values under handles. -/
structure HandleTable (α : Type) where
  /-- What tells the handles of this table from those of others. -/
  owner : UInt16
  slots : List (Slot α) := []
  /-- The slots to use again, the next one first. -/
  free : List Nat := []
  /-- The number of slots that are not used again. -/
  retired : Nat := 0
  deriving Inhabited

namespace HandleTable

variable {α : Type}

/-- The last generation of a slot. -/
def lastGeneration : UInt16 := 0xffff

/-- The slot that a handle reaches. -/
def slot? (t : HandleTable α) (h : Handle) : Option (Slot α) :=
  if h.owner = t.owner then t.slots[h.index.toNat]?.filter fun slot => slot.generation = h.generation
  else none

/-- The value under a handle. -/
def get? (t : HandleTable α) (h : Handle) : Option α :=
  (t.slot? h).bind Slot.value

/-- Puts a value under a new handle. -/
def insert (t : HandleTable α) (value : α) : Handle × HandleTable α :=
  match t.free with
  | [] => (⟨t.owner,1,.ofNat t.slots.length⟩,{ t with slots := t.slots ++ [⟨1,some value⟩] })
  | index :: free =>
    let generation := (t.slots[index]?.map Slot.generation).getD 1
    (⟨t.owner,generation,.ofNat index⟩,{ t with slots := t.slots.set index ⟨generation,some value⟩, free })

/-- Replaces the value under a handle, if there is one. -/
def replace (t : HandleTable α) (h : Handle) (value : α) : HandleTable α :=
  match t.get? h with
  | some _ => { t with slots := t.slots.set h.index.toNat ⟨h.generation,some value⟩ }
  | none => t

/-- Takes the value under a handle out, if there is one. -/
def remove (t : HandleTable α) (h : Handle) : Option α × HandleTable α :=
  match t.get? h with
  | none => (none,t)
  | some value =>
    let index := h.index.toNat
    if h.generation = lastGeneration then
      (some value,{ t with slots := t.slots.set index ⟨h.generation,none⟩, retired := t.retired + 1 })
    else
      (some value,
        { t with slots := t.slots.set index ⟨h.generation + 1,none⟩, free := index :: t.free })

/-- The number of values. -/
def size (t : HandleTable α) : Nat :=
  t.slots.length - t.free.length - t.retired

end HandleTable

end AndroidResources
