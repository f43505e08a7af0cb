import Mathlib.Data.List.Basic
import Mathlib.Data.List.Induction
import AndroidResources.Proofs.HandleSlots

/-!
# What handles stand for

Tables of different owners are used in any order, with handles from anywhere. What was done to a table says what
each word stands for in it (`HandleTable.valueAfter`): the value that was put in under that word, as it was changed
since, until it is taken out. A table answers accordingly after any run (`HandleTable.run_answers`), as each step
keeps that it represents what was done to it (`HandleTable.Represents`).
-/
namespace AndroidResources

theorem Handle.ofWord_eq_iff {word : UInt64} {h : Handle} : Handle.ofWord word = h ↔ word = h.word := by
  constructor
  · rintro rfl
    exact (word_ofWord word).symm
  · rintro rfl
    exact ofWord_word h

namespace HandleTable
variable {α : Type}

/-! ## Actions and events -/

/-- What can be done to a table. Handles are words from anywhere. -/
inductive Action (α : Type) where
  | insert (value : α)
  | get (word : UInt64)
  | change (word : UInt64) (f : α → α)
  | remove (word : UInt64)

/-- What was done to a table: the word that was given out, or what was found under a word. -/
inductive Event (α : Type) where
  | inserted (word : UInt64) (value : α)
  | got (word : UInt64) (found : Option α)
  | changed (word : UInt64) (f : α → α) (found : Option α)
  | removed (word : UInt64) (found : Option α)

/-- Changes the value under a handle, if there is one. -/
def change (t : HandleTable α) (h : Handle) (f : α → α) : HandleTable α :=
  match t.get? h with
  | some v => t.replace h (f v)
  | none => t

/-- Does something to a table. -/
def perform (t : HandleTable α) : Action α → Event α × HandleTable α
  | .insert v => (.inserted (t.insert v).1.word v,(t.insert v).2)
  | .get word => (.got word (t.get? (.ofWord word)),t)
  | .change word f => (.changed word f (t.get? (.ofWord word)),t.change (.ofWord word) f)
  | .remove word => (.removed word (t.remove (.ofWord word)).1,(t.remove (.ofWord word)).2)

namespace Event

/-- The word that was given out. -/
def issued? : Event α → Option UInt64
  | inserted word _ => some word
  | got _ _ | changed _ _ _ | removed _ _ => none

/-- What was found under a word, if one was given. -/
def found? : Event α → Option (Option α)
  | inserted _ _ => none
  | got _ found | changed _ _ found | removed _ found => some found

/-- What a word stands for after an event. -/
def note (word : UInt64) (current : Option α) : Event α → Option α
  | inserted w v => if w = word then some v else current
  | got _ _ => current
  | changed w f _ => if w = word then current.map f else current
  | removed w _ => if w = word then none else current

end Event

/-- What a word stands for after events: the value put in under it, as changed since, until it is taken out. -/
def valueAfter (word : UInt64) (log : List (Event α)) : Option α :=
  log.foldl (Event.note word) none

/-- The words that were given out. -/
def issued (log : List (Event α)) : List UInt64 :=
  log.filterMap Event.issued?

def live (log : List (Event α)) : List UInt64 :=
  (issued log).filter fun word => (valueAfter word log).isSome

section
variable {log : List (Event α)} {e : Event α} {word : UInt64}

theorem valueAfter_concat : valueAfter word (log ++ [e]) = e.note word (valueAfter word log) :=
  List.foldl_concat _ _ _ _

theorem issued_concat : issued (log ++ [e]) = issued log ++ e.issued?.toList := by
  unfold issued
  rw [List.filterMap_append]
  cases e <;> rfl

/-- Only a word that was given out stands for a value. -/
theorem mem_issued_of_valueAfter (stands : (valueAfter word log).isSome) : word ∈ issued log := by
  induction log using List.reverseRecOn with
  | nil => cases stands
  | append_singleton log e ih =>
    rw [valueAfter_concat] at stands
    rw [issued_concat,List.mem_append]
    cases e with
    | inserted w v =>
      by_cases same : w = word
      · exact .inr (by simp [Event.issued?,same])
      · exact .inl (ih (by simpa [Event.note,same] using stands))
    | got w found => exact .inl (ih stands)
    | changed w f found =>
      refine .inl (ih ?_)
      by_cases same : w = word
      · simpa [Event.note,same] using stands
      · simpa [Event.note,same] using stands
    | removed w found =>
      refine .inl (ih ?_)
      by_cases same : w = word
      · simp [Event.note,same] at stands
      · simpa [Event.note,same] using stands

theorem mem_live : word ∈ live log ↔ (valueAfter word log).isSome := by
  unfold live
  rw [List.mem_filter]
  exact ⟨And.right,fun stands => ⟨mem_issued_of_valueAfter stands,stands⟩⟩

/-- Events that neither give a word out nor take a value out leave as many values. -/
theorem live_concat (noIssue : e.issued? = none)
    (same : ∀ word, (e.note word (valueAfter word log)).isSome = (valueAfter word log).isSome) :
    live (log ++ [e]) = live log := by
  unfold live
  rw [issued_concat,noIssue]
  simp [valueAfter_concat,same]

theorem length_live_inserted {v : α} (fresh : word ∉ issued log) :
    (live (log ++ [.inserted word v])).length = (live log).length + 1 := by
  have before : (issued log).filter (fun w => (valueAfter w (log ++ [.inserted word v])).isSome) = live log := by
    refine List.filter_congr fun w mem => ?_
    have differ : word ≠ w := fun same => fresh (same ▸ mem)
    simp [valueAfter_concat,Event.note,differ]
  have new : (valueAfter word (log ++ [.inserted word v])).isSome := by
    simp [valueAfter_concat,Event.note]
  conv_lhs => unfold live
  rw [issued_concat,List.filter_append,before]
  simp [Event.issued?,new]

theorem length_live_removed {found : Option α} (distinct : (issued log).Nodup) (stands : (valueAfter word log).isSome) :
    (live (log ++ [.removed word found])).length + 1 = (live log).length := by
  have rest : live (log ++ [.removed word found]) = (live log).erase word := by
    have distinct : (live log).Nodup := distinct.filter _
    rw [List.Nodup.erase_eq_filter distinct]
    unfold live
    rw [issued_concat,List.filter_filter]
    simp only [Event.issued?,Option.toList_none,List.append_nil]
    refine List.filter_congr fun w _ => ?_
    by_cases same : word = w
    · simp [valueAfter_concat,Event.note,same]
    · simp [valueAfter_concat,Event.note,same,Ne.symm same]
  have mem := mem_live.2 stands
  have positive := List.length_pos_of_mem mem
  rw [rest,List.length_erase_of_mem mem]
  omega

end

/-! ## Steps -/

/-- Whether a table holds what was done to it: a used handle for each word that was given out, under each word what
    it stands for, and each slot for one of the values, to use again, or for nothing any more. -/
structure Represents (t : HandleTable α) (log : List (Event α)) : Prop where
  wellFormed : t.WellFormed
  used : ∀ word ∈ issued log, t.Used (.ofWord word)
  distinct : (issued log).Nodup
  value : ∀ word, t.get? (.ofWord word) = valueAfter word log
  balance : t.slots.length = (live log).length + t.free.length + t.retired

variable {t t' : HandleTable α} {log : List (Event α)} {h : Handle}

theorem represents_nil (owner : UInt16) : Represents ({ owner } : HandleTable α) [] := by
  refine ⟨⟨by simp,.nil⟩,by simp [issued],.nil,fun word => ?_,rfl⟩
  simp [get?,slot?,valueAfter]

theorem Represents.not_issued (represents : t.Represents log) (fresh : ¬ t.Used h) : h.word ∉ issued log := by
  intro before
  have used := represents.used _ before
  rw [Handle.ofWord_word] at used
  exact fresh used

/-- What does nothing to a table is told by an event that changes nothing. -/
theorem Represents.idle (represents : t.Represents log) {e : Event α} (noIssue : e.issued? = none)
    (same : ∀ word, e.note word (valueAfter word log) = valueAfter word log) : t.Represents (log ++ [e]) := by
  have issued_eq : issued (log ++ [e]) = issued log := by simp [issued_concat,noIssue]
  refine ⟨represents.wellFormed,?_,?_,fun word => ?_,?_⟩
  · rw [issued_eq]
    exact represents.used
  · rw [issued_eq]
    exact represents.distinct
  · rw [valueAfter_concat,same,represents.value]
  · rw [live_concat noIssue fun word => by rw [same],represents.balance]

/-- Setting the value under a handle is told by an event that sets what its word stands for. -/
theorem Represents.sets (represents : t.Represents log) {value : Option α} (sets : Sets t t' h value) {e : Event α}
    (issue : ∀ word, e.issued? = some word → word = h.word ∧ ¬ t.Used h)
    (value_eq : ∀ word, e.note word (valueAfter word log) = if word = h.word then value else valueAfter word log)
    (balance : t'.slots.length = (live (log ++ [e])).length + t'.free.length + t'.retired) :
    t'.Represents (log ++ [e]) := by
  refine ⟨sets.wellFormed represents.wellFormed,?_,?_,fun word => ?_,balance⟩
  · intro word mem
    rw [issued_concat,List.mem_append,Option.mem_toList] at mem
    rcases mem with before | now
    · exact sets.used (represents.used word before)
    · rw [(issue word now).1,Handle.ofWord_word]
      exact sets.used_self
  · rw [issued_concat,List.nodup_append]
    refine ⟨represents.distinct,by cases e.issued? <;> simp,?_⟩
    rintro word before _ now rfl
    obtain ⟨rfl,fresh⟩ := issue word (Option.mem_toList.1 now)
    exact represents.not_issued fresh before
  · rw [valueAfter_concat,value_eq,sets.get?_eq,represents.value]
    simp only [Handle.ofWord_eq_iff]

theorem Represents.inserted (represents : t.Represents log) (room : t.slots.length < UInt32.size) (v : α) :
    (t.insert v).2.Represents (log ++ [.inserted (t.insert v).1.word v]) := by
  have wellFormed := represents.wellFormed
  have fresh := insert_not_used wellFormed room v
  refine represents.sets (insert_sets wellFormed room v) (fun word now => ⟨(Option.some.inj now).symm,fresh⟩)
    (fun word => by simp [Event.note,eq_comm]) ?_
  obtain ⟨retired,balance⟩ := insert_balance wellFormed room v
  have before := represents.balance
  rw [length_live_inserted (represents.not_issued fresh),retired]
  omega

theorem Represents.changed (represents : t.Represents log) (word : UInt64) (f : α → α) :
    (t.change (.ofWord word) f).Represents (log ++ [.changed word f (t.get? (.ofWord word))]) := by
  have note_eq (w : UInt64) : (Event.changed word f (t.get? (.ofWord word))).note w (valueAfter w log) =
      if w = word then (valueAfter word log).map f else valueAfter w log := by
    by_cases same : word = w
    · subst same
      rfl
    · simp [Event.note,same,Ne.symm same]
  rw [← represents.value] at note_eq
  cases found : t.get? (.ofWord word) with
  | none =>
    rw [found] at note_eq
    simp only [change,found]
    refine represents.idle rfl fun w => ?_
    rw [note_eq]
    split
    next same => rw [same,← represents.value,found,Option.map_none]
    next => rfl
  | some v =>
    rw [found] at note_eq
    simp only [change,found]
    refine represents.sets (replace_sets represents.wellFormed found (f v)) (by simp [Event.issued?])
      (fun w => by rw [note_eq,Handle.word_ofWord,Option.map_some]) ?_
    -- A value that is changed stays one.
    have asMany : live (log ++ [.changed word f (some v)]) = live log := by
      refine live_concat rfl fun w => ?_
      rw [note_eq]
      split
      next same => rw [same,← represents.value,found,Option.map_some,Option.isSome_some,Option.isSome_some]
      next => rfl
    rw [asMany]
    simpa [replace,found] using represents.balance

theorem Represents.removed (represents : t.Represents log) (word : UInt64) :
    (t.remove (.ofWord word)).2.Represents (log ++ [.removed word (t.remove (.ofWord word)).1]) := by
  have note_eq (found : Option α) (w : UInt64) : (Event.removed word found).note w (valueAfter w log) =
      if w = word then none else valueAfter w log := by
    simp only [Event.note,eq_comm]
  cases found : t.get? (.ofWord word) with
  | none =>
    have same : t.remove (.ofWord word) = (none,t) := by simp only [remove,found]
    rw [same]
    refine represents.idle rfl fun w => ?_
    rw [note_eq]
    split
    next same => rw [same,← represents.value,found]
    next => rfl
  | some v =>
    refine represents.sets (remove_sets represents.wellFormed found) (by simp [Event.issued?])
      (fun w => by rw [note_eq,Handle.word_ofWord]) ?_
    have stands : (valueAfter word log).isSome := by rw [← represents.value,found,Option.isSome_some]
    have less : (live (log ++ [.removed word (t.remove (.ofWord word)).1])).length + 1 = (live log).length :=
      length_live_removed represents.distinct stands
    obtain ⟨slots,balance⟩ := remove_balance found
    have before := represents.balance
    omega

theorem Represents.perform (represents : t.Represents log) (room : t.slots.length < UInt32.size) (a : Action α) :
    (t.perform a).2.Represents (log ++ [(t.perform a).1]) := by
  cases a with
  | insert v => exact represents.inserted room v
  | get word => exact represents.idle rfl fun _ => rfl
  | change word f => exact represents.changed word f
  | remove word => exact represents.removed word

/-! ## Any table -/

/-- A removal finds what a look-up finds. -/
theorem remove_found (t : HandleTable α) (h : Handle) : (t.remove h).1 = t.get? h := by
  unfold remove
  split
  next missing => exact missing.symm
  next v found =>
    dsimp only
    split <;> exact found.symm

/-- What finds nothing leaves a table as it is. -/
theorem perform_of_nothing (t : HandleTable α) (a : Action α) (nothing : (t.perform a).1.found? = some none) :
    (t.perform a).2 = t := by
  cases a with
  | insert v => cases nothing
  | get word => rfl
  | change word f =>
    have missing : t.get? (.ofWord word) = none := Option.some.inj nothing
    simp only [perform,change,missing]
  | remove word =>
    have missing : t.get? (.ofWord word) = none := (remove_found t _).symm.trans (Option.some.inj nothing)
    simp only [perform,remove,missing]

theorem owner_perform (t : HandleTable α) (a : Action α) : (t.perform a).2.owner = t.owner := by
  cases a with
  | insert v =>
    simp only [perform,insert]
    split <;> rfl
  | get word => rfl
  | change word f =>
    simp only [perform,change,replace]
    split
    · split <;> rfl
    · rfl
  | remove word =>
    simp only [perform,remove]
    split
    · rfl
    · split <;> rfl

/-- Slots are never taken away, and come one at a time. -/
theorem slots_perform (t : HandleTable α) (a : Action α) :
    t.slots.length ≤ (t.perform a).2.slots.length ∧ (t.perform a).2.slots.length ≤ t.slots.length + 1 := by
  cases a with
  | insert v =>
    simp only [perform,insert]
    split <;> simp
  | get word => simp [perform]
  | change word f =>
    simp only [perform,change,replace]
    split
    · split <;> simp
    · simp
  | remove word =>
    simp only [perform,remove]
    split
    · simp
    · split <;> simp

/-! ## Tables side by side -/

/-- Tables, one for each owner, and all that was done to them. -/
structure Tables (α : Type) where
  table : UInt16 → HandleTable α
  log : List (UInt16 × Event α)

namespace Tables

def new : Tables α :=
  ⟨fun owner => { owner },[]⟩

def act (s : Tables α) (owner : UInt16) (a : Action α) : Tables α where
  table other := if other = owner then ((s.table owner).perform a).2 else s.table other
  log := s.log ++ [(owner,((s.table owner).perform a).1)]

def run (actions : List (UInt16 × Action α)) : Tables α :=
  actions.foldl (fun s (owner,a) => s.act owner a) new

def logOf (s : Tables α) (owner : UInt16) : List (Event α) :=
  s.log.filterMap fun (other,e) => if other = owner then some e else none

/-- Whether an event of a table answers to what was done before: a word that is given out was not given out by any
    table, and what is found under a word is what it stands for in this table. -/
def Answers (s : Tables α) (owner : UInt16) : Event α → Prop
  | .inserted word _ => ∀ other e, (other,e) ∈ s.log → e.issued? ≠ some word
  | .got word found | .changed word _ found | .removed word found => found = valueAfter word (s.logOf owner)

/-- Whether each table is its owner's and holds what was done to it. -/
def Sound (s : Tables α) : Prop :=
  ∀ owner, (s.table owner).owner = owner ∧ (s.table owner).Represents (s.logOf owner)

variable {s : Tables α}

theorem run_concat (actions : List (UInt16 × Action α)) (owner : UInt16) (a : Action α) :
    run (actions ++ [(owner,a)]) = (run actions).act owner a :=
  List.foldl_concat _ _ _ _

theorem logOf_act (s : Tables α) (owner other : UInt16) (a : Action α) : (s.act owner a).logOf other =
    if other = owner then s.logOf owner ++ [((s.table owner).perform a).1] else s.logOf other := by
  unfold logOf act
  rw [List.filterMap_append]
  by_cases same : other = owner
  · simp [same]
  · simp [same,Ne.symm same]

theorem slots_act (s : Tables α) (owner : UInt16) (a : Action α) (other : UInt16) :
    (s.table other).slots.length ≤ ((s.act owner a).table other).slots.length ∧
      ((s.act owner a).table other).slots.length ≤ (s.table other).slots.length + 1 := by
  simp only [act]
  split
  next same => exact same ▸ slots_perform _ a
  next => simp

theorem slots_run (actions : List (UInt16 × Action α)) (owner : UInt16) :
    ((run actions).table owner).slots.length ≤ actions.length := by
  induction actions using List.reverseRecOn with
  | nil => exact Nat.le_refl 0
  | append_singleton actions action ih =>
    have last := (slots_act (run actions) action.1 action.2 owner).2
    rw [run_concat,List.length_append,List.length_singleton]
    omega

theorem Sound.act (sound : s.Sound) (owner : UInt16) (room : (s.table owner).slots.length < UInt32.size) (a : Action α) :
    (s.act owner a).Sound := by
  intro other
  obtain ⟨owned,represents⟩ := sound other
  rw [logOf_act]
  by_cases same : other = owner
  · subst same
    simp only [Tables.act,if_true]
    exact ⟨(owner_perform _ a).trans owned,represents.perform room a⟩
  · simp only [Tables.act,if_neg same]
    exact ⟨owned,represents⟩

theorem sound_run (actions : List (UInt16 × Action α))
    (room : ∀ owner, ((run actions).table owner).slots.length < UInt32.size) : (run actions).Sound := by
  induction actions using List.reverseRecOn with
  | nil => exact fun owner => ⟨rfl,represents_nil owner⟩
  | append_singleton actions action ih =>
    obtain ⟨owner,a⟩ := action
    rw [run_concat] at room ⊢
    -- Slots are never taken away, so that there was room before the last action too.
    have before : ∀ other, ((run actions).table other).slots.length < UInt32.size := fun other =>
      Nat.lt_of_le_of_lt (slots_act (run actions) owner a other).1 (room other)
    exact (ih before).act owner (before owner) a

/-- A word that was given out by a table names it. -/
theorem Sound.owner_of_issued (sound : s.Sound) {owner : UInt16} {e : Event α} {word : UInt64}
    (mem : (owner,e) ∈ s.log) (issue : e.issued? = some word) :
    word ∈ issued (s.logOf owner) ∧ (Handle.ofWord word).owner = owner := by
  obtain ⟨owned,represents⟩ := sound owner
  have inLog : e ∈ s.logOf owner := List.mem_filterMap.2 ⟨(owner,e),mem,by simp⟩
  have isIssued : word ∈ issued (s.logOf owner) := List.mem_filterMap.2 ⟨e,inLog,issue⟩
  exact ⟨isIssued,(represents.used word isIssued).1.trans owned⟩

theorem Sound.answers (sound : s.Sound) (owner : UInt16) (room : (s.table owner).slots.length < UInt32.size)
    (a : Action α) : s.Answers owner ((s.table owner).perform a).1 := by
  obtain ⟨owned,represents⟩ := sound owner
  cases a with
  | insert v =>
    intro other e mem issue
    obtain ⟨isIssued,names⟩ := sound.owner_of_issued mem issue
    -- The new word names this table, so that any table that gave it out is this one, where it was used then.
    have here := (insert_sets represents.wellFormed room v).owned
    rw [Handle.ofWord_word,here,owned] at names
    subst names
    exact represents.not_issued (insert_not_used represents.wellFormed room v) isIssued
  | get word => exact represents.value word
  | change word f => exact represents.value word
  | remove word => exact (remove_found _ _).trans (represents.value word)

end Tables

/-- After any run, tables answer to what was done to them: no word is given out twice, and a word reaches a value in
    a table exactly while it stands for one there. What finds nothing changes nothing, and the size of a table, whose
    slots are enough for the subtractions, is the number of words that reach a value. -/
theorem run_answers (actions : List (UInt16 × Action α))
    (room : ∀ owner, ((Tables.run actions).table owner).slots.length < UInt32.size) (owner : UInt16) :
    let s := Tables.run actions
    let t := s.table owner
    (∀ a, s.Answers owner (t.perform a).1) ∧
      (∀ a, (t.perform a).1.found? = some none → (t.perform a).2 = t) ∧
      t.free.length + t.retired ≤ t.slots.length ∧
      ∃ words : List UInt64, words.Nodup ∧ (∀ word, word ∈ words ↔ (t.get? (.ofWord word)).isSome) ∧
        t.size = words.length := by
  intro s t
  have sound : s.Sound := Tables.sound_run actions room
  have represents : t.Represents (s.logOf owner) := (sound owner).2
  have balance := represents.balance
  refine ⟨sound.answers owner (room owner),perform_of_nothing t,by omega,live (s.logOf owner),
    represents.distinct.filter _,fun word => ?_,?_⟩
  · rw [mem_live,represents.value]
  · unfold size
    omega

/-- A slot is used again under another word, and the word of the value that was taken out reaches nothing. -/
theorem run_answers_reused :
    let actions : List (UInt16 × Action Nat) := [(1,.insert 5),(1,.remove 0x1000100000000),(1,.insert 7)]
    let s := Tables.run actions
    (∀ owner, (s.table owner).slots.length < UInt32.size) ∧
      (s.log.map fun e => e.2.issued?) = [some 0x1000100000000,none,some 0x1000200000000] ∧
      (s.table 1).get? (.ofWord 0x1000100000000) = none ∧ (s.table 1).get? (.ofWord 0x1000200000000) = some 7 := by
  intro actions s
  have room : ∀ owner, (s.table owner).slots.length < UInt32.size := fun owner =>
    Nat.lt_of_le_of_lt (Tables.slots_run actions owner) (by decide)
  obtain ⟨answers,_⟩ := run_answers actions room 1
  have removed : (s.table 1).get? (.ofWord 0x1000100000000) = valueAfter 0x1000100000000 (s.logOf 1) :=
    answers (.get 0x1000100000000)
  have there : (s.table 1).get? (.ofWord 0x1000200000000) = valueAfter 0x1000200000000 (s.logOf 1) :=
    answers (.get 0x1000200000000)
  exact ⟨room,by decide +kernel,removed.trans (by decide +kernel),there.trans (by decide +kernel)⟩

end HandleTable

end AndroidResources
