import AndroidResources.Proofs.HandleMisuse
import AndroidResources.Proofs.HandleSlots

/-!
# Reading assets

An open asset is read and moved by any calls in any order, and its position is where they have left it
(`Session.callAll_answers`). Numbers of bytes are answered in 32 signed bits and positions in 64, so that an answer is the
number or the position exactly if that fits (`AssetCall.promised_iff`): a position beyond the signed ones is reached, and is
answered as a negative number.
-/
namespace AndroidResources

/-- What is asked of an open asset: its next byte, as many bytes as some memory has room for, or to move its position. -/
inductive AssetCall where
  | readByte
  | readBytes (memory : List UInt8)
  | seek (offset : Int) (origin : Origin)

/-- The number of an origin. -/
def Origin.number : Origin → Int
  | start => 0
  | current => 1
  | «end» => 2

namespace Asset

/-- The place at an offset from an origin, which may be before the start. -/
def place (a : Asset) (origin : Origin) (offset : Int) : Int :=
  match origin with
  | .start => offset
  | .current => a.position + offset
  | .end => a.size + offset

/-- The number of bytes that are read where there is room for some. -/
def available (a : Asset) (room : Nat) : Nat := min room a.remaining

end Asset

namespace AssetCall

/-- The request of a call for an asset. -/
def request (h : Handle) : AssetCall → Request
  | readByte => .readByte h
  | readBytes _ => .readBytes h
  | seek offset origin => .seek h offset origin.number

/-- The memory that a call brings along. -/
def memory : AssetCall → List UInt8
  | readBytes memory => memory
  | _ => []

/-- What a call leaves in its memory: the bytes from the position on, and behind them what was there. -/
def written (a : Asset) (c : AssetCall) : List UInt8 :=
  (a.data.drop a.position).take c.memory.length ++ c.memory.drop (a.available c.memory.length)

/-- What a call answers, and where it leaves the position. -/
inductive Answers (a : Asset) : AssetCall → Int → Nat → Prop
  | byte {b : UInt8} : a.data[a.position]? = some b → Answers a .readByte b.toNat (a.position + 1)
  | noByte : a.size ≤ a.position → Answers a .readByte (-1) a.position
  | noRoom : Answers a (.readBytes []) 0 a.position
  | bytes {memory : List UInt8} : memory ≠ [] → a.position < a.size →
      Answers a (.readBytes memory) (signed (.ofNat (a.available memory.length)))
        (a.position + a.available memory.length)
  | noBytes {memory : List UInt8} : memory ≠ [] → a.size ≤ a.position → Answers a (.readBytes memory) (-1) a.position
  | moved {offset : Int} {origin : Origin} {p : Nat} : a.place origin offset = p → p < 0x10000000000000000 →
      Answers a (.seek offset origin) (Service.signedPosition p) p
  | unmoved {offset : Int} {origin : Origin} :
      a.place origin offset < 0 ∨ 0x10000000000000000 ≤ a.place origin offset →
      Answers a (.seek offset origin) (-1) a.position

/-- What a call is to answer: the number of bytes that it has read, and the position that it has moved to or else -1. -/
inductive Promised (a : Asset) : AssetCall → Int → Nat → Prop
  | byte {b : UInt8} : a.data[a.position]? = some b → Promised a .readByte b.toNat (a.position + 1)
  | noByte : a.size ≤ a.position → Promised a .readByte (-1) a.position
  | noRoom : Promised a (.readBytes []) 0 a.position
  | bytes {memory : List UInt8} : memory ≠ [] → a.position < a.size →
      Promised a (.readBytes memory) (a.available memory.length) (a.position + a.available memory.length)
  | noBytes {memory : List UInt8} : memory ≠ [] → a.size ≤ a.position → Promised a (.readBytes memory) (-1) a.position
  | moved {offset : Int} {origin : Origin} {p : Nat} : a.place origin offset = p → Promised a (.seek offset origin) p p
  | unmoved {offset : Int} {origin : Origin} : Promised a (.seek offset origin) (-1) a.position

/-- Whether the answer to a call is the number that it stands for: there are no more bytes than 31 bits can count, and no
    position beyond 63 bits is reached. The last position of 64 bits is answered as -1, which is right where nothing moves. -/
def Fits (a : Asset) : AssetCall → Prop
  | readByte => True
  | readBytes memory => a.available memory.length < 0x80000000
  | seek offset origin => a.place origin offset < 0x8000000000000000 ∨ 0x10000000000000000 ≤ a.place origin offset ∨
      a.place origin offset = 0xffffffffffffffff ∧ a.position = 0xffffffffffffffff

end AssetCall

/-! ## Signed numbers -/

theorem signedPosition_eq {p : Nat} (small : p < 0x10000000000000000) :
    Service.signedPosition p = if p < 0x8000000000000000 then (p : Int) else p - 0x10000000000000000 := by
  have wrapped : Service.signedPosition p = Int.bmod p 0x10000000000000000 := by simp [Service.signedPosition]
  rw [wrapped,Int.bmod_def]
  omega

namespace AssetCall
variable {a : Asset} {c : AssetCall} {answer : Int} {position : Nat}

/-- A call answers what it is to answer exactly if that fits. -/
theorem promised_iff (answers : c.Answers a answer position) : c.Promised a answer position ↔ c.Fits a := by
  cases answers with
  | byte here => exact iff_of_true (.byte here) trivial
  | noByte past => exact iff_of_true (.noByte past) trivial
  | noRoom => exact iff_of_true .noRoom (by simp [Fits,Asset.available])
  | noBytes room past => exact iff_of_true (.noBytes room past) (by simp [Fits,Asset.available,Asset.remaining]; omega)
  | @bytes memory room inside =>
    rw [Fits,← signed_ofNat_eq_iff]
    constructor
    · intro promised
      generalize answered : signed (.ofNat (a.available memory.length)) = answer at promised
      generalize a.position + a.available memory.length = position at promised
      cases promised with
      | noRoom => exact absurd rfl room
      | bytes => rfl
      | noBytes _ past => omega
    · intro same
      rw [same]
      exact .bytes room inside
  | moved here small =>
    rw [signedPosition_eq small,Fits,here]
    split
    · exact iff_of_true (.moved here) (by omega)
    · constructor
      · intro promised
        generalize answered : (position : Int) - 0x10000000000000000 = answer at promised
        cases promised <;> omega
      · intro fits
        obtain rfl : position = a.position := by omega
        have minusOne : (a.position : Int) - 0x10000000000000000 = -1 := by omega
        rw [minusOne]
        exact .unmoved
  | unmoved outside => exact iff_of_true .unmoved (by simp only [Fits]; omega)

/-- Positions stay within 64 bits. -/
theorem Answers.position_lt (answers : c.Answers a answer position) (size : a.size < 0x10000000000000000)
    (before : a.position < 0x10000000000000000) : position < 0x10000000000000000 := by
  cases answers with
  | byte here =>
    obtain ⟨inside,_⟩ := List.getElem?_eq_some_iff.1 here
    rw [Asset.size] at size
    omega
  | bytes room inside =>
    rw [Asset.available,Asset.remaining]
    omega
  | moved here small => exact small
  | noByte | noRoom | noBytes | unmoved => exact before

end AssetCall

/-! ## Reading and moving -/

namespace Asset
variable {a : Asset} {n : Nat}

theorem length_read (a : Asset) (n : Nat) : (a.read n).1.length = a.available n := by
  simp [read,available,remaining,size]

theorem readByte_of_some {b : UInt8} (here : a.data[a.position]? = some b) :
    a.readByte = (some b,{ a with position := a.position + 1 }) := by
  obtain ⟨inside,rfl⟩ := List.getElem?_eq_some_iff.1 here
  have next : (a.data.drop a.position).take 1 = [a.data[a.position]] := by
    rw [List.drop_eq_getElem_cons inside]
    rfl
  simp [readByte,read,next]

theorem readByte_of_le (past : a.size ≤ a.position) : a.readByte = (none,a) := by
  have nothing : a.data.drop a.position = [] := List.drop_eq_nil_iff.2 past
  simp [readByte,read,nothing]

theorem target?_eq (a : Asset) (origin : Origin) (offset : Int) : a.target? origin offset =
    if 0 ≤ a.place origin offset ∧ a.place origin offset < 0x10000000000000000 then some (a.place origin offset).toNat
    else none := by
  have start : ((0 : Nat) : Int) + offset = offset := Int.zero_add offset
  cases origin with
  | start => rw [target?,place,start]
  | current => rfl
  | «end» => rfl

end Asset

namespace HandleTable
variable {α : Type} {t : HandleTable α} {h : Handle} {v : α}

theorem get?_replace_self (found : t.get? h = some v) (v' : α) : (t.replace h v').get? h = some v' := by
  obtain ⟨owned,present⟩ := get?_eq_some_iff.1 found
  obtain ⟨inside,_⟩ := List.getElem?_eq_some_iff.1 present
  rw [get?_eq_some_iff,replace,found]
  simp [owned,inside]

end HandleTable

/-! ## Calls -/

namespace Session
variable {s : Session} {h : Handle} {a : Asset}

/-- The session for a caller with some memory for bytes. -/
def withMemory (s : Session) (bytes : List UInt8) : Session :=
  { s with buffers := { s.buffers with bytes } }

/-- The session after a call for an asset, with the answer. -/
def call (s : Session) (h : Handle) (c : AssetCall) : Except ResourceError Answer × Session :=
  (s.withMemory c.memory).serve (c.request h)

/-- The session after calls for an asset in order. -/
def callAll (s : Session) (h : Handle) (calls : List AssetCall) : Session :=
  calls.foldl (fun s c => (s.call h c).2) s

theorem run_askAsset {α : Type} (found : s.assets.get? h = some a) (question : Asset → α × Asset) :
    (Service.askAsset h question).run s =
      (.ok (question a).1,{ s with assets := s.assets.replace h (question a).2 }) := by
  rw [Service.askAsset,Service.run_bind,
    show (Service.assetUnder h).run s = (.ok a,s) from Service.run_under_ok_iff.2 ⟨found,rfl⟩]
  rfl

theorem serve_readByte (found : s.assets.get? h = some a) : s.serve (.readByte h) =
    (.ok (.number (a.readByte.1.elim (-1) fun byte => byte.toNat)),
      { s with assets := s.assets.replace h a.readByte.2 }) := by
  rw [serve,Request.perform,Service.run_bind,Service.readByte,Service.run_bind,run_askAsset found]
  cases a.readByte.1 <;> rfl

theorem serve_readBytes (found : s.assets.get? h = some a) (room : s.buffers.bytes ≠ []) :
    s.serve (.readBytes h) =
      (.ok (.number (if (a.read s.buffers.bytes.length).1 = [] then -1
        else signed (.ofNat (a.available s.buffers.bytes.length)))),
      { s with
        assets := s.assets.replace h (a.read s.buffers.bytes.length).2
        buffers := { s.buffers with
          bytes := Buffers.overwrite (a.read s.buffers.bytes.length).1 s.buffers.bytes } }) := by
  rw [serve,Request.perform,Service.run_bind,Service.readBytes,Service.run_bind,Service.run_get]
  simp only [List.length_eq_zero_iff,room,if_false]
  rw [Service.run_bind,run_askAsset found,← Asset.length_read]
  rfl

theorem serve_seek (found : s.assets.get? h = some a) (offset : Int) (origin : Origin)
    (onwards : ¬ (origin = .start ∧ offset < 0)) : s.serve (.seek h offset origin.number) =
      (.ok (.number ((a.seek origin offset).1.elim (-1) Service.signedPosition)),
        { s with assets := s.assets.replace h (a.seek origin offset).2 }) := by
  have isOrigin : Service.originOf? origin.number = some origin := by cases origin <;> rfl
  rw [serve,Request.perform,Service.run_bind,Service.seek,isOrigin]
  simp only [onwards,if_false]
  rw [Service.run_bind,run_askAsset found]
  cases (a.seek origin offset).1 <;> rfl

/-- A request for an asset is answered, and changes nothing of it but its position. -/
theorem serve_answers (found : s.assets.get? h = some a) {c : AssetCall} (memory : s.buffers.bytes = c.memory) :
    ∃ answer position, (s.serve (c.request h)).1 = .ok (.number answer) ∧
      (s.serve (c.request h)).2.assets.get? h = some { a with position } ∧
      (s.serve (c.request h)).2.buffers.bytes = c.written a ∧ c.Answers a answer position := by
  have kept (a' : Asset) := HandleTable.get?_replace_self found a'
  cases c with
  | readByte =>
    rw [AssetCall.request,serve_readByte found]
    by_cases inside : a.position < a.size
    · have here : a.data[a.position]? = some a.data[a.position] := List.getElem?_eq_getElem inside
      rw [Asset.readByte_of_some here]
      exact ⟨_,_,rfl,kept _,by simp [memory,AssetCall.written,AssetCall.memory],.byte here⟩
    · rw [Asset.readByte_of_le (by omega)]
      exact ⟨_,_,rfl,kept _,by simp [memory,AssetCall.written,AssetCall.memory],.noByte (by omega)⟩
  | readBytes bytes =>
    rw [AssetCall.memory] at memory
    by_cases room : bytes = []
    · subst room
      rw [AssetCall.request,Request.serve_readBytes_noRoom h memory]
      exact ⟨_,_,rfl,found,by simp [memory,AssetCall.written,AssetCall.memory],.noRoom⟩
    · have leaves : (a.read bytes.length).2 = { a with position := a.position + a.available bytes.length } := by
        rw [← Asset.length_read]
        rfl
      have written : Buffers.overwrite (a.read bytes.length).1 bytes = (AssetCall.readBytes bytes).written a := by
        rw [Buffers.overwrite,Asset.length_read]
        rfl
      have some_room : 0 < bytes.length := List.length_pos_iff.2 room
      rw [AssetCall.request,serve_readBytes found (memory ▸ room),memory,leaves,written]
      by_cases inside : a.position < a.size
      · have some_bytes : (a.read bytes.length).1 ≠ [] := by
          rw [← List.length_pos_iff,Asset.length_read,Asset.available,Asset.remaining]
          omega
        rw [if_neg some_bytes]
        exact ⟨_,_,rfl,kept _,rfl,.bytes room inside⟩
      · have nothing : a.available bytes.length = 0 := by
          rw [Asset.available,Asset.remaining]
          omega
        have no_bytes : (a.read bytes.length).1 = [] := by rw [← List.length_eq_zero_iff,Asset.length_read,nothing]
        rw [if_pos no_bytes,nothing]
        exact ⟨_,_,rfl,kept _,rfl,.noBytes room (by omega)⟩
  | seek offset origin =>
    have unwritten : s.buffers.bytes = (AssetCall.seek offset origin).written a := by
      simp [memory,AssetCall.written,AssetCall.memory]
    rw [AssetCall.request]
    by_cases early : origin = .start ∧ offset < 0
    · obtain ⟨rfl,negative⟩ := early
      rw [show Origin.number .start = 0 from rfl,Request.serve_seek_beforeStart h negative]
      exact ⟨_,_,rfl,found,unwritten,.unmoved (.inl negative)⟩
    · rw [serve_seek found offset origin early]
      by_cases inside : 0 ≤ a.place origin offset ∧ a.place origin offset < 0x10000000000000000
      · have moves : a.seek origin offset = (some (a.place origin offset).toNat,
            { a with position := (a.place origin offset).toNat }) := by
          rw [Asset.seek,Asset.target?_eq,if_pos inside]
        rw [moves]
        exact ⟨_,_,rfl,kept _,unwritten,.moved (by omega) (by omega)⟩
      · have stays : a.seek origin offset = (none,a) := by rw [Asset.seek,Asset.target?_eq,if_neg inside]
        rw [stays]
        exact ⟨_,_,rfl,kept _,unwritten,.unmoved (by omega)⟩

theorem call_answers (found : s.assets.get? h = some a) (c : AssetCall) : ∃ answer position,
    (s.call h c).1 = .ok (.number answer) ∧ (s.call h c).2.assets.get? h = some { a with position } ∧
      (s.call h c).2.buffers.bytes = c.written a ∧ c.Answers a answer position :=
  serve_answers (s := s.withMemory c.memory) found rfl

/-- Whatever is called, an asset stays open with its bytes, and its position within 64 bits. -/
theorem get?_callAll (found : s.assets.get? h = some a) (calls : List AssetCall) : ∃ position,
    (s.callAll h calls).assets.get? h = some { a with position } ∧
      (a.size < 0x10000000000000000 → a.position < 0x10000000000000000 → position < 0x10000000000000000) := by
  induction calls generalizing s a with
  | nil => exact ⟨a.position,found,fun _ => id⟩
  | cons c rest ih =>
    obtain ⟨answer,position,_,after,_,answers⟩ := call_answers found c
    obtain ⟨last,isLast,within⟩ := ih after
    exact ⟨last,isLast,fun size before => within size (answers.position_lt size before)⟩

theorem serve_assetRemaining (found : s.assets.get? h = some a) :
    s.serve (.assetRemaining h) = (.ok (.number a.remaining),s) := by
  rw [serve,Request.perform,Service.run_bind,Service.assetRemaining,Service.run_bind,
    show (Service.assetUnder h).run s = (.ok a,s) from Service.run_under_ok_iff.2 ⟨found,rfl⟩]
  rfl

/-- After any calls an asset has its bytes, and a position from which the next call is answered. That answer is the one
    that is promised exactly if it fits. What remains is the size without the position, or nothing past the end. -/
theorem callAll_answers (found : s.assets.get? h = some a) (calls : List AssetCall) : ∃ position,
    let a' := { a with position }
    let s' := s.callAll h calls
    s'.assets.get? h = some a' ∧
    (a.size < 0x10000000000000000 → a.position < 0x10000000000000000 → position < 0x10000000000000000) ∧
    (s'.serve (.assetRemaining h)).1 =
      .ok (.number (if position ≤ a.size then (a.size : Int) - position else 0)) ∧
    ∀ c, ∃ answer next, (s'.call h c).1 = .ok (.number answer) ∧
      (s'.call h c).2.assets.get? h = some { a with position := next } ∧
      (s'.call h c).2.buffers.bytes = c.written a' ∧ c.Answers a' answer next ∧
      (c.Promised a' answer next ↔ c.Fits a') := by
  obtain ⟨position,isLast,within⟩ := get?_callAll found calls
  refine ⟨position,isLast,within,?_,fun c => ?_⟩
  · have remains : ((a.size - position : Nat) : Int) = if position ≤ a.size then (a.size : Int) - position else 0 := by
      split <;> omega
    rw [serve_assetRemaining isLast,← remains]
    rfl
  · obtain ⟨answer,next,answered,after,written,answers⟩ := call_answers isLast c
    exact ⟨answer,next,answered,after,written,answers,AssetCall.promised_iff answers⟩

/-- Behind the first of three bytes, two are read where there is room for four. -/
theorem callAll_answers_short :
    let opened := ({ owner := 4 } : HandleTable Asset).insert { name := "f", data := [1,2,3] }
    let s := ({ assets := opened.2 } : Session).callAll opened.1 [.readByte]
    let c := AssetCall.readBytes [9,9,9,9]
    ∃ answer next, (s.call opened.1 c).1 = .ok (.number answer) ∧
      c.Promised { name := "f", data := [1,2,3], position := 1 } answer next ∧
      (s.call opened.1 c).2.buffers.bytes = [2,3,9,9] := by
  intro opened s c
  have found : ({ assets := opened.2 } : Session).assets.get? opened.1 = some { name := "f", data := [1,2,3] } := rfl
  obtain ⟨position,isLast,_,_,later⟩ := callAll_answers found [.readByte]
  obtain ⟨answer,next,answered,_,written,_,promised⟩ := later c
  have after : s.assets.get? opened.1 = some { name := "f", data := [1,2,3], position := 1 } := rfl
  obtain rfl : 1 = position := congrArg Asset.position (Option.some.inj (after.symm.trans isLast))
  have few : ({ name := "f", data := [1,2,3], position := 1 } : Asset).available 4 < 0x80000000 := by decide
  exact ⟨answer,next,answered,promised.2 few,written⟩

/-- Behind the greatest signed position there is another one, which is moved to and answered as a negative number. -/
theorem callAll_overflows :
    let opened := ({ owner := 4 } : HandleTable Asset).insert { name := "f", data := [1,2,3] }
    let s := ({ assets := opened.2 } : Session).callAll opened.1 [.seek 0x7fffffffffffffff .start]
    let c := AssetCall.seek 1 .current
    ∃ a next, s.assets.get? opened.1 = some a ∧ a.position = 0x7fffffffffffffff ∧
      (s.call opened.1 c).1 = .ok (.number (-0x8000000000000000)) ∧
      (s.call opened.1 c).2.assets.get? opened.1 = some { a with position := next } ∧
      ¬ c.Promised a (-0x8000000000000000) next := by
  intro opened s c
  have found : s.assets.get? opened.1 = some { name := "f", data := [1,2,3], position := 0x7fffffffffffffff } := rfl
  have answered : (s.call opened.1 c).1 = .ok (.number (-0x8000000000000000)) := rfl
  obtain ⟨answer,next,answered',after,_,answers⟩ := call_answers found c
  obtain rfl := Answer.number.inj (Except.ok.inj (answered.symm.trans answered'))
  refine ⟨_,next,found,rfl,answered,after,fun promised => ?_⟩
  have fits := (AssetCall.promised_iff answers).1 promised
  simp [AssetCall.Fits,Asset.place,c] at fits

end Session

end AndroidResources
