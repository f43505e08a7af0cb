import AndroidResources.Flat
import AndroidResources.Proofs.AttributeShape

/-!
# Slots of results

Results are written into a caller's memory only if all of them have room, the values as well as the positions if these are asked
for. Each value then has seven slots of its own, the positions stand behind their number in ascending order, and whatever else
was in the memory stays (`Buffers.writeResults_outcome`). Values and positions are filled in one by one, and each step keeps the
slots before and behind its own.
-/
namespace AndroidResources.Buffers
variable {b : Buffers} {values : List ResolvedAttribute} {a : ResolvedAttribute} {numbers positions : List Nat}
  {slots : List Int} {count i k n : Nat}

/-! ## Room -/

/-- Whether a caller's memory has too few slots for a number of values, or for their positions. -/
def Short (b : Buffers) (count : Nat) : Prop :=
  b.values.length < 7 * count ∨ ∃ slots ∈ b.indices, slots.length < count + 1

/-- What is missing: slots for the values, or else slots for the positions. -/
inductive Lacks (b : Buffers) (count : Nat) : Nat → Nat → Prop
  | values : b.values.length < 7 * count → Lacks b count (7 * count) b.values.length
  | positions {slots : List Int} : 7 * count ≤ b.values.length → b.indices = some slots → slots.length < count + 1 →
      Lacks b count (count + 1) slots.length

theorem shortage?_of_short (short : b.Short count) :
    ∃ needed got, b.Lacks count needed got ∧ b.shortage? count = some (.bufferTooSmall needed got) := by
  unfold shortage? slotsPerValue
  rw [Nat.mul_comm]
  by_cases few : b.values.length < 7 * count
  · exact ⟨_,_,.values few,if_pos few⟩
  · obtain ⟨slots,given,fewer⟩ := short.resolve_left few
    refine ⟨_,_,.positions (Nat.le_of_not_lt few) given fewer,?_⟩
    rw [if_neg few,Option.mem_def.1 given]
    exact if_pos fewer

theorem shortage?_of_not_short (enough : ¬ b.Short count) : b.shortage? count = none := by
  unfold Short at enough
  simp only [not_or,not_exists,not_and] at enough
  unfold shortage? slotsPerValue
  rw [Nat.mul_comm,if_neg enough.1]
  cases given : b.indices with
  | none => rfl
  | some slots => exact if_neg (enough.2 slots given)

/-! ## Values -/

theorem length_fillValues (values : List ResolvedAttribute) (slots : List Int) :
    (fillValues values slots).length = slots.length := by
  fun_induction fillValues values slots with
  | case1 slots => rfl
  | case2 a rest slots full => rfl
  | case3 a rest slots room ih =>
    rw [List.length_append,ResolvedAttribute.length_slots,ih,List.length_drop]
    omega

/-- Each value is in its own run of slots. -/
theorem run_fillValues (room : slotsPerValue * values.length ≤ slots.length) (at_i : values[i]? = some a) :
    ((fillValues values slots).drop (slotsPerValue * i)).take slotsPerValue = a.slots := by
  induction values generalizing slots i with
  | nil => cases at_i
  | cons first rest ih =>
    rw [List.length_cons,Nat.mul_succ] at room
    rw [fillValues,if_neg (by omega)]
    cases i with
    | zero =>
      obtain rfl : first = a := by simpa using at_i
      exact List.take_left' (ResolvedAttribute.length_slots first)
    | succ i =>
      rw [Nat.mul_succ,Nat.add_comm,← List.drop_drop,List.drop_left' (ResolvedAttribute.length_slots first)]
      exact ih (by rw [List.length_drop]; omega) (by simpa using at_i)

/-- Behind the runs of all values the slots stay. -/
theorem getElem?_fillValues_of_le (behind : slotsPerValue * values.length ≤ k) :
    (fillValues values slots)[k]? = slots[k]? := by
  fun_induction fillValues values slots generalizing k with
  | case1 slots => rfl
  | case2 a rest slots full => rfl
  | case3 a rest slots room ih =>
    rw [List.length_cons,Nat.mul_succ] at behind
    rw [List.getElem?_append_right (by rw [ResolvedAttribute.length_slots]; omega),ResolvedAttribute.length_slots,ih (by omega),List.getElem?_drop,
      Nat.add_sub_of_le (by omega)]

/-! ## Positions -/

theorem length_fillNumbers (numbers : List Nat) (slots : List Int) : (fillNumbers numbers slots).length = slots.length := by
  fun_induction fillNumbers numbers slots with
  | case1 n rest slot slots ih => rw [List.length_cons,List.length_cons,ih]
  | case2 => rfl

/-- Each number is in its own slot. -/
theorem getElem?_fillNumbers (room : numbers.length ≤ slots.length) (at_k : numbers[k]? = some n) :
    (fillNumbers numbers slots)[k]? = some (signed (.ofNat n)) := by
  induction numbers generalizing slots k with
  | nil => cases at_k
  | cons first rest ih =>
    cases slots with
    | nil => cases room
    | cons slot slots =>
      cases k with
      | zero =>
        obtain rfl : first = n := by simpa using at_k
        rfl
      | succ k => exact ih (by simpa using room) (by simpa using at_k)

/-- Behind the numbers the slots stay. -/
theorem getElem?_fillNumbers_of_le (behind : numbers.length ≤ k) : (fillNumbers numbers slots)[k]? = slots[k]? := by
  fun_induction fillNumbers numbers slots generalizing k with
  | case1 first rest slot slots ih =>
    cases k with
    | zero => cases behind
    | succ k => exact ih (Nat.le_of_succ_le_succ behind)
  | case2 => rfl

/-- Whether positions are in a caller's slots behind their number, and all slots behind them as before. -/
structure Listed (positions : List Nat) (before after : List Int) : Prop where
  length : after.length = before.length
  number : after[0]? = some (signed (.ofNat positions.length))
  position : ∀ k p, positions[k]? = some p → after[k + 1]? = some (signed (.ofNat p))
  rest : ∀ k, positions.length < k → after[k]? = before[k]?

theorem listed_fillPositions (room : positions.length < slots.length) :
    Listed positions slots (fillPositions positions slots) := by
  cases slots with
  | nil => cases room
  | cons slot slots =>
    have inner : positions.length ≤ slots.length := Nat.le_of_lt_succ room
    constructor
    · exact congrArg Nat.succ (length_fillNumbers positions slots)
    · rfl
    · exact fun k p at_k => getElem?_fillNumbers inner at_k
    · intro k behind
      cases k with
      | zero => cases behind
      | succ k => exact getElem?_fillNumbers_of_le (Nat.le_of_lt_succ behind)

/-! ## Results -/

/-- Whether results are in a caller's memory: seven slots of each value, the positions of those that are defined if there is
    memory for them, and everything else as before. -/
structure Delivered (results : AttributeResults) (positions : List Nat) (before after : Buffers) : Prop where
  bytes : after.bytes = before.bytes
  length : after.values.length = before.values.length
  value : ∀ i a, results.values[i]? = some a → (after.values.drop (7 * i)).take 7 =
    [a.value.value.type.code.toNat,signed a.value.value.data,a.value.cookie.toExternal,signed a.value.id,
      signed a.value.changes.bits,a.value.configuration.density.toNat,signed a.sourceId]
  rest : ∀ k, 7 * results.values.length ≤ k → after.values[k]? = before.values[k]?
  noPositions : before.indices = none → after.indices = none
  positions : ∀ slots, before.indices = some slots → ∃ slots', after.indices = some slots' ∧ Listed positions slots slots'

theorem length_indices_le (results : AttributeResults) : results.indices.length ≤ results.values.length := by
  rw [results.indices_eq,← List.length_zipIdx (l := results.values)]
  exact List.length_filterMap_le _ _

theorem delivered_of_not_short {results : AttributeResults} (enough : ¬ b.Short results.values.length) :
    Delivered results results.indices b { b with
      values := fillValues results.values b.values
      indices := b.indices.map (fillPositions results.indices) } := by
  unfold Short at enough
  simp only [not_or,not_exists,not_and,Nat.not_lt] at enough
  obtain ⟨room,roomBehind⟩ := enough
  constructor
  · rfl
  · exact length_fillValues results.values b.values
  · exact fun i a at_i => run_fillValues room at_i
  · exact fun k behind => getElem?_fillValues_of_le behind
  · intro none
    rw [none]
    rfl
  · intro slots given
    have longer : results.indices.length < slots.length :=
      Nat.lt_of_le_of_lt (length_indices_le results) (roomBehind slots given)
    exact ⟨fillPositions results.indices slots,by rw [given]; rfl,listed_fillPositions longer⟩

/-- Results are refused exactly if a caller's memory is too short, which then stays as it is. Otherwise all of them are written,
    and the answer is the number of those that are defined. A number is what is in its slot where 31 bits hold it. -/
theorem writeResults_outcome (b : Buffers) (results : AttributeResults) :
    (b.Short results.values.length → ∃ needed got, b.Lacks results.values.length needed got ∧
      b.writeResults results = (.error (.bufferTooSmall needed got),b)) ∧
    (¬ b.Short results.values.length → ∃ positions after, b.writeResults results = (.ok positions.length,after) ∧
      positions.Pairwise (· < ·) ∧ (∀ p, p ∈ positions ↔ ∃ a, results.values[p]? = some a ∧ a.isDefined) ∧
      Delivered results positions b after) ∧
    (∀ n, signed (.ofNat n) = n ↔ n < 0x80000000) := by
  refine ⟨fun short => ?_,fun enough => ?_,fun _ => signed_ofNat_eq_iff⟩
  · obtain ⟨needed,got,lacks,refused⟩ := shortage?_of_short short
    exact ⟨needed,got,lacks,by rw [writeResults,refused]⟩
  · refine ⟨results.indices,_,?_,AttributeResults.pairwise_indices _,fun _ => AttributeResults.mem_indices,
      delivered_of_not_short enough⟩
    rw [writeResults,shortage?_of_not_short enough]

/-- The second of two attributes has a value, and the memory is larger than need be. -/
example : writeResults { values := [9,9,9,9,9,9,9,9,9,9,9,9,9,9,9], indices := some [9,9,9,9] }
    (.ofValues [.missing 1,{ ResolvedAttribute.missing 2 with value := .detached ⟨.decimal,5⟩ }]) =
    (.ok 1,{ values := [0,0,-1,0,0,0,0,16,5,-1,0,0,0,0,9], indices := some [1,1,9,9] }) := rfl

end AndroidResources.Buffers
