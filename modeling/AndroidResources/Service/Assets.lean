import AndroidResources.Service.Basic

/-!
# Assets of a service

Positions are signed 64-bit integers outside the library, and -1 stands for the end of the data and for a
position that cannot be reached.
-/
namespace AndroidResources.Service

/-- Opens a file of the last source that has it. -/
def openAsset (manager : Handle) (name : String) : Operation (Option Handle) := do
  match ← askRegistry manager fun r => r.open? name with
  | none => pure none
  | some (_,asset) => some <$> addAsset asset

/-- Opens a file of one source. -/
def openAssetIn (manager : Handle) (cookie : Int) (name : String) : Operation (Option Handle) := do
  match ← askRegistry manager fun r => r.openIn? (.ofExternal cookie) name with
  | none => pure none
  | some asset => some <$> addAsset asset

/-- The names within a directory. -/
def listAssets (manager : Handle) (directory : String) : Operation (List String) :=
  askRegistry manager fun r => r.list directory

/-- Asks an asset, and keeps it as it is afterwards. -/
def askAsset {α : Type} (h : Handle) (question : Asset → α × Asset) : Operation α := do
  let (answer,a) := question (← assetUnder h)
  keepAsset h a
  pure answer

/-- The next byte. -/
def readByte (asset : Handle) : Operation Int := do
  match ← askAsset asset Asset.readByte with
  | some byte => pure byte.toNat
  | none => pure (-1)

/-- Reads into the caller's memory as much as fits, and answers with the number of bytes as a signed integer of
    32 bits. Nothing is asked of the asset when nothing fits. -/
def readBytes (asset : Handle) : Operation Int := do
  let room := (← get).buffers.bytes.length
  if room = 0 then pure 0
  else
    let bytes ← askAsset asset fun a => a.read room
    fill fun b => (.ok (),{ b with bytes := Buffers.overwrite bytes b.bytes })
    pure (if bytes = [] then -1 else signed (.ofNat bytes.length))

/-- The origin with a number. -/
def originOf? (whence : Int) : Option Origin :=
  if whence = 0 then some .start
  else if whence = 1 then some .current
  else if whence = 2 then some .end
  else none

/-- A position as a signed integer of 64 bits. -/
def signedPosition (position : Nat) : Int :=
  (UInt64.ofNat position).toInt64.toInt

/-- Moves the position, and answers with it. Nothing is asked of the asset for a negative position. -/
def seek (asset : Handle) (offset whence : Int) : Operation Int := do
  match originOf? whence with
  | none => throw (.invalidArgument ("unknown seek origin " ++ Text.signedDecimal whence))
  | some origin =>
    if origin = .start ∧ offset < 0 then pure (-1)
    else
      match ← askAsset asset fun a => a.seek origin offset with
      | some position => pure (signedPosition position)
      | none => pure (-1)

def assetSize (asset : Handle) : Operation Int := do
  pure (← assetUnder asset).size

def assetRemaining (asset : Handle) : Operation Int := do
  pure (← assetUnder asset).remaining

def closeAsset (asset : Handle) : Operation Unit := do
  let _ ← assetUnder asset
  modify fun s => { s with assets := (s.assets.remove asset).2 }

end AndroidResources.Service
