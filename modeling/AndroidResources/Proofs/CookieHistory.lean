import Mathlib.Data.List.Induction
import AndroidResources.Proofs.CacheTransparency

/-!
# Cookies over a manager's life

Each list of sources is numbered behind all lists before it. As long as the numbers do not run out, a cookie names
one source of the list that it was given out for, and none of any later list (`Manager.operateAll_cookies`): the
numbers of the current list start where those given out before it end (`Registry.Numbers`).
-/
namespace AndroidResources

/-! ## Numbers -/

/-- The first number of the current list of sources, and the number behind its last one. -/
structure Numbering where
  start : Nat
  next : Nat
  ordered : start ≤ next

/-- Whether the sources of a registry have the numbers of a numbering, as far as cookies can tell. -/
structure Registry.Numbers (r : Registry) (n : Numbering) : Prop where
  base : r.base = .ofNat n.start
  next : n.start + r.sources.length = n.next

theorem Cookie.isValid_iff {c : Cookie} : c.isValid ↔ c.number.toNat ≠ 0xffffffff := by
  rcases c with ⟨number⟩
  simp [isValid,invalid,← UInt32.toNat_inj]

namespace Registry
variable {r : Registry} {n : Numbering} {i : Nat}

theorem Numbers.number_cookieAt (numbers : r.Numbers n) (room : n.next ≤ 0xffffffff) (inside : i < r.sources.length) :
    (r.cookieAt i).number.toNat = n.start + i := by
  have next := numbers.next
  have small : n.start + i < UInt32.size := by
    rw [UInt32.size]
    omega
  rw [cookieAt,numbers.base,← UInt32.ofNat_add,UInt32.toNat_ofNat_of_lt' small]

/-- A cookie names the source that has its number. -/
theorem Numbers.position?_eq_some_iff (numbers : r.Numbers n) (room : n.next < 0xffffffff) {c : Cookie} :
    r.position? c = some i ↔ i < r.sources.length ∧ c.number.toNat = n.start + i := by
  have next := numbers.next
  have below := c.number.toNat_lt
  have start : r.base.toNat = n.start := by
    rw [numbers.base,UInt32.toNat_ofNat_of_lt']
    rw [UInt32.size]
    omega
  have distance : (c.number - r.base).toNat = (0x100000000 - n.start + c.number.toNat) % 0x100000000 := by
    rw [UInt32.toNat_sub,start]
  simp only [position?,Cookie.isValid_iff,distance,Option.ite_none_right_eq_some,Option.some.injEq]
  omega

/-- A source is named by its own cookie. -/
theorem Numbers.position?_cookieAt (numbers : r.Numbers n) (room : n.next < 0xffffffff)
    (inside : i < r.sources.length) : r.position? (r.cookieAt i) = some i :=
  (numbers.position?_eq_some_iff room).2 ⟨inside,numbers.number_cookieAt (Nat.le_of_lt room) inside⟩

/-- A number from before the first one of the list names nothing. -/
theorem Numbers.position?_of_lt (numbers : r.Numbers n) (room : n.next < 0xffffffff) {c : Cookie}
    (before : c.number.toNat < n.start) : r.position? c = none := by
  cases found : r.position? c with
  | none => rfl
  | some i =>
    have number := ((numbers.position?_eq_some_iff room).1 found).2
    omega

theorem position?_invalid : r.position? .invalid = none := by
  simp [position?,Cookie.isValid]

theorem source?_of_position? {c : Cookie} (found : r.position? c = some i) : r.source? c = r.sources[i]? := by
  rw [source?,found,Option.bind_some]

theorem source?_of_no_position {c : Cookie} (missing : r.position? c = none) : r.source? c = none := by
  rw [source?,missing,Option.bind_none]

theorem isValid_of_position? {c : Cookie} (found : r.position? c = some i) : c.isValid := by
  simp only [position?,Option.ite_none_right_eq_some] at found
  exact found.1.1

end Registry

/-- A cookie after its way out of the library and back. -/
def Cookie.carried (c : Cookie) : Cookie :=
  .ofExternal c.toExternal

/-- Outside the library cookies are signed, and the upper half of the numbers has no form there. -/
theorem Cookie.carried_eq (c : Cookie) : c.carried = if c.number.toNat < 0x7fffffff then c else .invalid := by
  by_cases small : c.number.toNat < 0x7fffffff
  · have valid : c.isValid := isValid_iff.2 (by omega)
    have external : c.toExternal = c.number.toNat + 1 := by simp [toExternal,valid,small]
    rw [carried,external,ofExternal,if_pos (by omega),if_pos small]
    simp
  · have external : c.toExternal = -1 := by simp [toExternal,small]
    rw [carried,external,if_neg small]
    rfl

/-! ## Runs -/

/-- What can be done with a manager: an action, or a change of the devices that may keep some of what is kept. -/
inductive Manager.Operation where
  | act (action : Manager.Action)
  | setConfigurations (configurations : List Configuration) (refresh : Bool)

/-- The list of sources that an operation installs, if it does. -/
def Manager.Operation.installs? : Manager.Operation → Option (List Source)
  | .act (.setSources sources _) | .act (.presetSources sources) => some sources
  | _ => none

/-- The numbering after an operation: a list of sources is numbered behind all that were there before. -/
def Numbering.after (n : Numbering) (operation : Manager.Operation) : Numbering :=
  match operation.installs? with
  | some sources => ⟨n.next,n.next + sources.length,Nat.le_add_right _ _⟩
  | none => n

namespace Manager
variable {m : Manager} {n : Numbering}

/-- The manager after an operation. -/
def operate (m : Manager) : Operation → Manager
  | .act action => m.act action
  | .setConfigurations configurations refresh => m.orElse (m.setConfigurations configurations refresh)

/-- The manager after operations in order. -/
def operateAll (m : Manager) (operations : List Operation) : Manager :=
  operations.foldl operate m

/-- The number of sources that operations install, over all lists. -/
def installed (operations : List Operation) : Nat :=
  (operations.filterMap Operation.installs?).flatten.length

/-- The list of sources that operations install last. -/
def lastInstalled (operations : List Operation) : List Source :=
  ((operations.filterMap Operation.installs?).getLast?).getD []

/-- An operation that installs no sources leaves sources and cookies alone. -/
theorem operate_registry (m : Manager) {operation : Operation} (keeps : operation.installs? = none) :
    (m.operate operation).registry.sources = m.registry.sources ∧
      (m.operate operation).registry.base = m.registry.base := by
  cases operation with
  | setConfigurations configurations refresh =>
    cases configurations with
    | nil => exact ⟨rfl,rfl⟩
    | cons primary others => exact ⟨rfl,rfl⟩
  | act action =>
    cases action with
    | setSources sources invalidate => cases keeps
    | presetSources sources => cases keeps
    | setDefaultLocale locale => exact ⟨rfl,rfl⟩
    | refresh configurations =>
      cases configurations with
      | nil => exact ⟨rfl,rfl⟩
      | cons primary others => exact ⟨rfl,rfl⟩
    | setLogging logging => exact ⟨rfl,rfl⟩
    | ask question =>
      have same := (asked_question m question).registry
      exact ⟨congrArg Registry.sources same,congrArg Registry.base same⟩

/-- An operation that installs sources numbers them behind those that it replaces. -/
theorem operate_install (m : Manager) {operation : Operation} {sources : List Source}
    (installs : operation.installs? = some sources) :
    (m.operate operation).registry.sources = sources ∧
      (m.operate operation).registry.base = m.registry.base + .ofNat m.registry.sources.length := by
  cases operation with
  | setConfigurations configurations refresh => cases installs
  | act action =>
    cases action with
    | setSources list invalidate =>
      obtain rfl := Option.some.inj installs
      cases invalidate <;> exact ⟨rfl,rfl⟩
    | presetSources list =>
      obtain rfl := Option.some.inj installs
      exact ⟨rfl,rfl⟩
    | _ => cases installs

/-- After any operations the sources are those of the last list. -/
theorem operateAll_sources (tag : Nat) (operations : List Operation) :
    (operateAll { tag } operations).registry.sources = lastInstalled operations := by
  induction operations using List.reverseRecOn with
  | nil => rfl
  | append_singleton operations operation ih =>
    have last : operateAll { tag } (operations ++ [operation]) = (operateAll { tag } operations).operate operation :=
      List.foldl_append
    rw [last]
    cases installs : operation.installs? with
    | none =>
      rw [(operate_registry _ installs).1,ih]
      simp [lastInstalled,installs]
    | some sources =>
      rw [(operate_install _ installs).1]
      simp [lastInstalled,installs]

theorem operate_numbers (numbers : m.registry.Numbers n) (operation : Operation) :
    (m.operate operation).registry.Numbers (n.after operation) := by
  unfold Numbering.after
  cases installs : operation.installs? with
  | none =>
    obtain ⟨sources,base⟩ := operate_registry m installs
    exact ⟨base.trans numbers.base,by rw [sources,numbers.next]⟩
  | some list =>
    obtain ⟨sources,base⟩ := operate_install m installs
    refine ⟨?_,by rw [sources]⟩
    rw [base,numbers.base,← UInt32.ofNat_add,numbers.next]

/-- After any operations the sources are numbered as the operations tell. -/
theorem operateAll_numbers (numbers : m.registry.Numbers n) (operations : List Operation) :
    (m.operateAll operations).registry.Numbers (operations.foldl Numbering.after n) := by
  induction operations generalizing m n with
  | nil => exact numbers
  | cons operation rest ih => exact ih (operate_numbers numbers operation)

/-- The next number counts the sources that were installed. -/
theorem next_foldl_after (operations : List Operation) :
    (operations.foldl Numbering.after n).next = n.next + installed operations := by
  induction operations generalizing n with
  | nil => rfl
  | cons operation rest ih =>
    rw [List.foldl_cons,ih]
    cases installs : operation.installs? with
    | none => simp [Numbering.after,installed,installs]
    | some sources => simp [Numbering.after,installed,installs,Nat.add_assoc]

/-- A numbering never starts before an earlier one. -/
theorem start_le_after (n : Numbering) (operation : Operation) : n.start ≤ (n.after operation).start := by
  unfold Numbering.after
  split
  · exact n.ordered
  · exact Nat.le_refl _

theorem start_le_foldl_after (operations : List Operation) :
    n.start ≤ (operations.foldl Numbering.after n).start := by
  induction operations generalizing n with
  | nil => exact Nat.le_refl n.start
  | cons operation rest ih => exact Nat.le_trans (start_le_after n operation) ih

/-- The numbering after operations on a new manager. -/
def numbering (operations : List Operation) : Numbering :=
  operations.foldl Numbering.after ⟨0,0,Nat.le_refl 0⟩

theorem numbers_numbering (tag : Nat) (operations : List Operation) :
    (operateAll { tag } operations).registry.Numbers (numbering operations) :=
  operateAll_numbers (m := { tag }) ⟨rfl,rfl⟩ operations

theorem next_numbering (operations : List Operation) : (numbering operations).next = installed operations := by
  rw [numbering,next_foldl_after,Nat.zero_add]

/-- Once sources are installed, the numbers start behind all that were given out before. -/
theorem next_le_start {before after : List Operation} {operation : Operation} (installs : operation.installs?.isSome) :
    (numbering before).next ≤ (numbering (before ++ operation :: after)).start := by
  obtain ⟨sources,installs⟩ := Option.isSome_iff_exists.1 installs
  have behind : ((numbering before).after operation).start = (numbering before).next := by
    simp [Numbering.after,installs]
  have split_at : numbering (before ++ operation :: after) =
      after.foldl Numbering.after ((numbering before).after operation) := List.foldl_append
  rw [split_at,← behind]
  exact start_le_foldl_after after

/-- While fewer than 2³² - 1 sources are installed over all lists, each source of the last list is named by its own
    cookie, and by no other one of the list; cookies of earlier lists and the invalid one name nothing. Out of the
    library and back, a cookie either stays as it is or names nothing. -/
theorem operateAll_cookies (tag : Nat) (operations : List Operation) (room : installed operations < 0xffffffff) :
    let r := (operateAll { tag } operations).registry
    r.sources = lastInstalled operations ∧
    (∀ i < r.sources.length, (r.cookieAt i).isValid ∧ r.position? (r.cookieAt i) = some i ∧
      r.source? (r.cookieAt i) = r.sources[i]?) ∧
    (∀ i < r.sources.length, ∀ j < r.sources.length, r.cookieAt i = r.cookieAt j → i = j) ∧
    (∀ before operation after, operations = before ++ operation :: after → operation.installs?.isSome →
      let earlier := (operateAll { tag } before).registry
      ∀ i < earlier.sources.length, r.source? (earlier.cookieAt i) = none ∧
        r.source? (earlier.cookieAt i).carried = none) ∧
    r.source? .invalid = none ∧
    (∀ c : Cookie, (c.carried = c ∨ c.carried = .invalid) ∧ (c.number.toNat < 0x7fffffff → c.carried = c)) := by
  intro r
  have numbers : r.Numbers (numbering operations) := numbers_numbering tag operations
  have room : (numbering operations).next < 0xffffffff := by rwa [next_numbering]
  have invalid : r.source? .invalid = none := Registry.source?_of_no_position Registry.position?_invalid
  have carried (c : Cookie) : c.carried = c ∨ c.carried = .invalid := by
    rw [Cookie.carried_eq]
    split
    · exact .inl rfl
    · exact .inr rfl
  refine ⟨operateAll_sources tag operations,fun i inside => ?_,fun i i_inside j j_inside same => ?_,?_,invalid,
    fun c => ⟨carried c,fun small => ?_⟩⟩
  · have found := numbers.position?_cookieAt room inside
    exact ⟨Registry.isValid_of_position? found,found,Registry.source?_of_position? found⟩
  · have found := numbers.position?_cookieAt room i_inside
    rw [same,numbers.position?_cookieAt room j_inside] at found
    exact (Option.some.inj found).symm
  · rintro before operation after split_at installs earlier i inside
    subst split_at
    have behind : (numbering before).next ≤ (numbering (before ++ operation :: after)).start := next_le_start installs
    have ordered := (numbering (before ++ operation :: after)).ordered
    have earlier_numbers : earlier.Numbers (numbering before) := numbers_numbering tag before
    have number := earlier_numbers.number_cookieAt (by omega) inside
    have stale : r.source? (earlier.cookieAt i) = none := by
      have next := earlier_numbers.next
      exact Registry.source?_of_no_position (numbers.position?_of_lt room (by omega))
    rcases carried (earlier.cookieAt i) with same | lost
    · exact ⟨stale,by rw [same]; exact stale⟩
    · exact ⟨stale,by rw [lost]; exact invalid⟩
  · rw [Cookie.carried_eq,if_pos small]

/-- Of two lists one after the other, the second one has the cookies behind those of the first one. -/
theorem operateAll_cookies_replaced :
    let first : Operation := .act (.setSources [{ path := "a" },{ path := "b" }] true)
    let second : Operation := .act (.presetSources [{ path := "c" }])
    let r := (operateAll {} [first,second]).registry
    installed [first,second] < 0xffffffff ∧ (operateAll {} [first]).registry.cookieAt 1 = ⟨1⟩ ∧
      r.source? ⟨1⟩ = none ∧ r.cookieAt 0 = ⟨2⟩ ∧ (r.source? ⟨2⟩).map Source.path = some "c" := by
  intro first second r
  have room : installed [first,second] < 0xffffffff := by decide
  obtain ⟨_,own,_,stale,_⟩ := operateAll_cookies 0 [first,second] room
  have named : r.source? (r.cookieAt 0) = r.sources[0]? := (own 0 (by decide)).2.2
  have unnamed := (stale [first] second [] rfl rfl 1 (by decide)).1
  refine ⟨room,rfl,unnamed,rfl,?_⟩
  exact congrArg (Option.map Source.path) named

end Manager

end AndroidResources
