import Mathlib.Logic.Function.Basic
import AndroidResources.Proofs.ThemeSources

/-!
# Themes among several managers

While managers replace their sources, themes are made, styled, rebased, cleared and copied from one another. Each value
of a theme stems from the source that its style had it from (`World.Stems`), and its cookie is one that the theme's
manager gave out, or none. Where that manager still knows the cookie, it names the very source that the value stems
from, or in the case of a copy for another manager, one with the same path (`World.run_traced`).
-/
namespace AndroidResources

/-- Managers and themes by numbers. The number of a manager is its tag. -/
structure World where
  managers : Nat → Manager := fun tag => { tag }
  themes : Nat → Option Theme := fun _ => none

/-- What can be done with managers and themes. -/
inductive World.Event where
  | operate (n : Nat) (operation : Manager.Operation)
  | newTheme (i n : Nat)
  | apply (i n : Nat) (applied : AppliedStyle)
  | rebase (i n : Nat) (stack : Option (List AppliedStyle))
  /-- Makes the theme `i` of the manager `n` a copy of the theme `j` of the manager `k`. -/
  | setTo (i n j k : Nat)
  | clear (i : Nat)

namespace World
variable {w : World} {events : List Event} {event : Event} {i n : Nat} {attr : ResourceId} {e : ThemeEntry}

def withManager (w : World) (n : Nat) (m : Manager) : World :=
  { w with managers := Function.update w.managers n m }

def withTheme (w : World) (i : Nat) (t : Theme) : World :=
  { w with themes := Function.update w.themes i (some t) }

/-- The world after an event. What is refused, or done with a theme that there is not, changes nothing. -/
def perform (w : World) : Event → World
  | .operate n operation => w.withManager n ((w.managers n).operate operation)
  | .newTheme i n => w.withTheme i (.new (w.managers n))
  | .apply i n applied =>
    match w.themes i with
    | none => w
    | some t =>
      match t.apply (w.managers n) applied with
      | .error _ => w
      | .ok (_,t,m) => (w.withTheme i t).withManager n m
  | .rebase i n stack =>
    match w.themes i with
    | none => w
    | some t =>
      let (t,m) := t.rebase (w.managers n) stack
      (w.withTheme i t).withManager n m
  | .setTo i n j k =>
    match w.themes i,w.themes j with
    | some t,some other =>
      match t.setTo (w.managers n) other (w.managers k) with
      | .error _ => w
      | .ok t => w.withTheme i t
    | _,_ => w
  | .clear i =>
    match w.themes i with
    | none => w
    | some t => w.withTheme i t.clear

/-- The world after events in order. -/
def run (events : List Event) : World :=
  events.foldl perform {}

theorem run_concat : run (events ++ [event]) = (run events).perform event :=
  List.foldl_concat ..

/-- The value of an attribute in a theme. -/
def value? (w : World) (i : Nat) (attr : ResourceId) : Option ThemeEntry :=
  (w.themes i).bind fun t => t.entries.get? attr

/-! ## Where values stem from -/

/-- The source that a value stems from, and whether it was copied from a theme of another manager since. -/
structure Origin where
  source : Source
  copied : Bool

/-- The theme that an event lets have styles, and the manager that has them. -/
def Event.styles? : Event → Option (Nat × Nat)
  | .apply i n _ | .rebase i n _ => some (i,n)
  | _ => none

/-- Where the value of an attribute in a theme stems from after events: from the source that the manager had for its
    cookie when a style brought it, and from there on along with the theme and its copies. -/
inductive Stems : List Event → Nat → ResourceId → ThemeEntry → Origin → Prop
  | given {events : List Event} {event : Event} {i n : Nat} {attr : ResourceId} {e : ThemeEntry} {s : Source} :
      event.styles? = some (i,n) → (run (events ++ [event])).value? i attr = some e →
      ((run events).managers n).registry.source? e.cookie = some s → s.Sets e.style attr e.value →
      Stems (events ++ [event]) i attr e ⟨s,false⟩
  | unchanged {events : List Event} {event : Event} {i : Nat} {attr : ResourceId} {e : ThemeEntry} {o : Origin} :
      Stems events i attr e o → (run (events ++ [event])).themes i = (run events).themes i →
      Stems (events ++ [event]) i attr e o
  | left {events : List Event} {i n : Nat} {applied : AppliedStyle} {attr : ResourceId} {e : ThemeEntry} {o : Origin} :
      Stems events i attr e o → (run (events ++ [.apply i n applied])).value? i attr = some e →
      Stems (events ++ [.apply i n applied]) i attr e o
  | shared {events : List Event} {i j n : Nat} {attr : ResourceId} {e : ThemeEntry} {o : Origin} :
      Stems events j attr e o → (run (events ++ [.setTo i n j n])).value? i attr = some e →
      Stems (events ++ [.setTo i n j n]) i attr e o
  | transferred {events : List Event} {i n j k : Nat} {attr : ResourceId} {old e : ThemeEntry} {o : Origin} :
      n ≠ k → Stems events j attr old o → (run (events ++ [.setTo i n j k])).value? i attr = some e →
      e = Theme.moved ((run events).managers n).registry ((run events).managers k).registry old →
      Stems (events ++ [.setTo i n j k]) i attr e ⟨o.source,true⟩

/-- A value stems from a source that sets it in the style that it is noted with. -/
theorem Stems.sets {o : Origin} (stems : Stems events i attr e o) : o.source.Sets e.style attr e.value := by
  induction stems with
  | given _ _ _ sets => exact sets
  | unchanged _ _ ih => exact ih
  | left _ _ ih => exact ih
  | shared _ _ ih => exact ih
  | transferred _ _ _ same ih => exact same ▸ ih

/-- Whether a manager had a cookie for a source at some time. -/
def Issued (events : List Event) (n : Nat) (c : Cookie) (s : Source) : Prop :=
  ∃ before, before <+: events ∧ ((run before).managers n).registry.source? c = some s

theorem Issued.concat {c : Cookie} {s : Source} (issued : Issued events n c s) :
    Issued (events ++ [event]) n c s := by
  obtain ⟨before,earlier,named⟩ := issued
  exact ⟨before,earlier.trans (List.prefix_append _ _),named⟩

/-! ## Managers -/

/-- The operation that an event does on a manager. -/
def Event.operation? (n : Nat) : Event → Option Manager.Operation
  | .operate k operation => if k = n then some operation else none
  | _ => none

/-- The operations that events do on a manager. -/
def operationsOn (n : Nat) (events : List Event) : List Manager.Operation :=
  events.filterMap (Event.operation? n)

theorem withManager_asked {k : Nat} {m : Manager} (asked : (w.managers k).Asked m) (n : Nat) :
    (w.managers n).Asked ((w.withManager k m).managers n) := by
  by_cases same : n = k
  · subst same
    simpa [withManager] using asked
  · simpa [withManager,same] using Manager.Asked.refl (w.managers n)

/-- A manager is but asked by what happens to themes and to other managers. -/
theorem perform_asked (w : World) (noOperation : event.operation? n = none) :
    (w.managers n).Asked ((w.perform event).managers n) := by
  cases event with
  | operate k operation =>
    have other : n ≠ k := by
      rintro rfl
      simp [Event.operation?] at noOperation
    simpa [perform,withManager,other] using Manager.Asked.refl (w.managers n)
  | newTheme i k => exact .refl _
  | apply i k applied =>
    simp only [perform]
    split
    · exact .refl _
    · split
      · exact .refl _
      next applies => exact withManager_asked (w := w.withTheme _ _) (Theme.apply_ok (.refl _) applies).2.2 n
  | rebase i k stack =>
    simp only [perform]
    split
    · exact .refl _
    next t _ => exact withManager_asked (w := w.withTheme _ _) (.rebase t (w.managers k) stack) n
  | setTo i k j l =>
    simp only [perform]
    split
    · split <;> exact .refl _
    · exact .refl _
  | clear i =>
    simp only [perform]
    split <;> exact .refl _

theorem perform_operated (w : World) {operation : Manager.Operation} (operates : event.operation? n = some operation) :
    (w.perform event).managers n = (w.managers n).operate operation := by
  cases event with
  | operate k other =>
    simp only [Event.operation?,Option.ite_none_right_eq_some,Option.some.injEq] at operates
    obtain ⟨rfl,rfl⟩ := operates
    simp [perform,withManager]
  | _ => cases operates

theorem operationsOn_concat (n : Nat) (events : List Event) (event : Event) :
    operationsOn n (events ++ [event]) = operationsOn n events ++ (event.operation? n).toList := by
  cases found : event.operation? n <;> simp [operationsOn,found]

/-- What an operation on a manager preserves, and what questions preserve, holds of the manager after any events. -/
theorem run_manager {p : Manager → Prop} (start : p { tag := n })
    (operate : ∀ m operation, p m → p (m.operate operation)) (ask : ∀ m m', m.Asked m' → p m → p m')
    (events : List Event) : p ((run events).managers n) := by
  induction events using List.reverseRecOn with
  | nil => exact start
  | append_singleton events event ih =>
    rw [run_concat]
    cases operates : event.operation? n with
    | none => exact ask _ _ (perform_asked _ operates) ih
    | some operation =>
      rw [perform_operated _ operates]
      exact operate _ operation ih

theorem run_sourced (events : List Event) (n : Nat) : ((run events).managers n).Sourced :=
  run_manager (Manager.sourced_of_empty rfl) (fun _ operation sourced => sourced.operate operation)
    (fun _ _ asked sourced => asked.sourced sourced) events

theorem run_tag (events : List Event) (n : Nat) : ((run events).managers n).tag = n :=
  run_manager (p := fun m => m.tag = n) rfl (fun m operation same => (m.operate_tag operation).trans same)
    (fun _ _ asked same => asked.tag.trans same) events

/-! ## Cookies -/

theorem run_numbers (events : List Event) (n : Nat) :
    ((run events).managers n).registry.Numbers (Manager.numbering (operationsOn n events)) := by
  induction events using List.reverseRecOn with
  | nil => exact ⟨rfl,rfl⟩
  | append_singleton events event ih =>
    rw [run_concat,operationsOn_concat]
    cases operates : event.operation? n with
    | none =>
      rw [(perform_asked _ operates).registry,Option.toList_none,List.append_nil]
      exact ih
    | some operation =>
      rw [perform_operated _ operates,Option.toList_some,Manager.numbering,List.foldl_concat]
      exact Manager.operate_numbers ih operation

/-- Whether there are numbers enough for the sources that each manager is given over all events. -/
def Room (events : List Event) : Prop :=
  ∀ n, Manager.installed (operationsOn n events) < 0xffffffff

theorem Room.next (room : Room events) (n : Nat) : (Manager.numbering (operationsOn n events)).next < 0xffffffff := by
  rw [Manager.next_numbering]
  exact room n

theorem installed_le_concat (n : Nat) (events : List Event) (event : Event) :
    Manager.installed (operationsOn n events) ≤ Manager.installed (operationsOn n (events ++ [event])) := by
  rw [operationsOn_concat]
  simp [Manager.installed]

theorem Room.of_concat (room : Room (events ++ [event])) : Room events :=
  fun n => Nat.lt_of_le_of_lt (installed_le_concat n events event) (room n)

/-- After further events a manager has its sources under the same cookies, or cookies behind those. -/
theorem sources_later (before after : List Event) (n : Nat) :
    (((run (before ++ after)).managers n).registry.sources = ((run before).managers n).registry.sources ∧
      ((run (before ++ after)).managers n).registry.base = ((run before).managers n).registry.base ∧
      Manager.numbering (operationsOn n (before ++ after)) = Manager.numbering (operationsOn n before)) ∨
    (Manager.numbering (operationsOn n before)).next ≤ (Manager.numbering (operationsOn n (before ++ after))).start := by
  induction after using List.reverseRecOn with
  | nil => exact .inl (by simp)
  | append_singleton after event ih =>
    rw [← List.append_assoc,run_concat,operationsOn_concat]
    cases operates : event.operation? n with
    | none =>
      rw [(perform_asked _ operates).registry,Option.toList_none,List.append_nil]
      exact ih
    | some operation =>
      have numbered : Manager.numbering (operationsOn n (before ++ after) ++ [operation]) =
          (Manager.numbering (operationsOn n (before ++ after))).after operation := List.foldl_concat ..
      rw [perform_operated _ operates,Option.toList_some,numbered]
      cases installs : operation.installs? with
      | none =>
        obtain ⟨sources,base⟩ := Manager.operate_registry ((run (before ++ after)).managers n) installs
        have same (n : Numbering) : n.after operation = n := by simp [Numbering.after,installs]
        rw [sources,base,same]
        exact ih
      | some sources =>
        have behind (n : Numbering) : (n.after operation).start = n.next := by simp [Numbering.after,installs]
        rw [behind]
        rcases ih with ⟨_,_,same⟩ | later
        · exact .inr (Nat.le_of_eq (congrArg Numbering.next same.symm))
        · exact .inr (Nat.le_trans later (Numbering.ordered _))

/-- A cookie that a manager gave out for a source never names another one. -/
theorem Issued.unique {c : Cookie} {s s' : Source} (issued : Issued events n c s) (room : Room events)
    (named : ((run events).managers n).registry.source? c = some s') : s' = s := by
  obtain ⟨before,⟨after,rfl⟩,named_before⟩ := issued
  rcases sources_later before after n with ⟨sources,base,_⟩ | behind
  · have same : ((run (before ++ after)).managers n).registry.source? c =
        ((run before).managers n).registry.source? c := by
      simp only [Registry.source?,Registry.position?,sources,base]
    exact Option.some.inj ((named.symm.trans same).trans named_before)
  · -- The number of the cookie lies before those of the current list.
    have later := run_numbers (before ++ after) n
    have ordered := (Manager.numbering (operationsOn n (before ++ after))).ordered
    have earlier := run_numbers before n
    have room := room.next n
    obtain ⟨position,found,_⟩ := Option.bind_eq_some_iff.1 named_before
    obtain ⟨inside,number⟩ := (earlier.position?_eq_some_iff (by omega)).1 found
    have next := earlier.next
    have stale := later.position?_of_lt room (c := c) (by omega)
    rw [Registry.source?_of_no_position stale] at named
    cases named

theorem source?_cookieAt (room : Room events) (n : Nat) {position : Nat} {s : Source}
    (isSource : ((run events).managers n).registry.sources[position]? = some s) :
    ((run events).managers n).registry.source? (((run events).managers n).registry.cookieAt position) = some s := by
  obtain ⟨inside,_⟩ := List.getElem?_eq_some_iff.1 isSource
  rw [Registry.source?_of_position? ((run_numbers events n).position?_cookieAt (room.next n) inside),isSource]

/-! ## Themes -/

/-- What an event makes of a theme. -/
inductive Becomes (w : World) (i : Nat) : Event → Theme → Prop
  | unchanged {event : Event} {t : Theme} : w.themes i = some t → (w.perform event).themes i = w.themes i →
      Becomes w i event t
  | new {n : Nat} : Becomes w i (.newTheme i n) (.new (w.managers n))
  | applied {n : Nat} {applied : AppliedStyle} {t t' : Theme} {found : Bool} {m : Manager} : w.themes i = some t →
      t.apply (w.managers n) applied = .ok (found,t',m) → Becomes w i (.apply i n applied) t'
  | rebased {n : Nat} {stack : Option (List AppliedStyle)} {t : Theme} : w.themes i = some t →
      Becomes w i (.rebase i n stack) (t.rebase (w.managers n) stack).1
  | copied {n j k : Nat} {t other t' : Theme} : w.themes i = some t → w.themes j = some other →
      t.setTo (w.managers n) other (w.managers k) = .ok t' → Becomes w i (.setTo i n j k) t'
  | cleared {t : Theme} : w.themes i = some t → Becomes w i (.clear i) t.clear

theorem becomes_of_same {t : Theme} (same : (w.perform event).themes = w.themes)
    (isTheme : (w.perform event).themes i = some t) : w.Becomes i event t :=
  .unchanged (same ▸ isTheme) (congrFun same i)

theorem becomes_of_update {k : Nat} {new t : Theme} (becomes : w.Becomes k event new)
    (update : (w.perform event).themes = Function.update w.themes k (some new))
    (isTheme : (w.perform event).themes i = some t) : w.Becomes i event t := by
  by_cases same : i = k
  · subst same
    rw [update,Function.update_self] at isTheme
    obtain rfl := Option.some.inj isTheme
    exact becomes
  · have kept : (w.perform event).themes i = w.themes i := by rw [update,Function.update_of_ne same]
    exact .unchanged (kept ▸ isTheme) kept

theorem perform_becomes {t : Theme} (isTheme : (w.perform event).themes i = some t) : w.Becomes i event t := by
  cases event with
  | operate n operation => exact becomes_of_same rfl isTheme
  | newTheme k n => exact becomes_of_update .new rfl isTheme
  | apply k n applied =>
    cases before : w.themes k with
    | none => exact becomes_of_same (by simp only [perform,before]) isTheme
    | some old =>
      cases applies : old.apply (w.managers n) applied with
      | error _ => exact becomes_of_same (by simp only [perform,before,applies]) isTheme
      | ok result =>
        exact becomes_of_update (.applied before applies)
          (by simp only [perform,before,applies,withManager,withTheme]) isTheme
  | rebase k n stack =>
    cases before : w.themes k with
    | none => exact becomes_of_same (by simp only [perform,before]) isTheme
    | some old =>
      exact becomes_of_update (.rebased before) (by simp only [perform,before,withManager,withTheme]) isTheme
  | setTo k n j l =>
    cases before : w.themes k with
    | none => exact becomes_of_same (by simp only [perform,before]) isTheme
    | some old =>
      cases isOther : w.themes j with
      | none => exact becomes_of_same (by simp only [perform,before,isOther]) isTheme
      | some other =>
        cases copies : old.setTo (w.managers n) other (w.managers l) with
        | error _ => exact becomes_of_same (by simp only [perform,before,isOther,copies]) isTheme
        | ok copy =>
          exact becomes_of_update (.copied before isOther copies)
            (by simp only [perform,before,isOther,copies,withTheme]) isTheme
  | clear k =>
    cases before : w.themes k with
    | none => exact becomes_of_same (by simp only [perform,before]) isTheme
    | some old => exact becomes_of_update (.cleared before) (by simp only [perform,before,withTheme]) isTheme

/-- The themes of a world come about by the operations on themes. -/
theorem run_reached {t : Theme} (isTheme : (run events).themes i = some t) : t.Reached := by
  induction events using List.reverseRecOn generalizing i t with
  | nil => cases isTheme
  | append_singleton events event ih =>
    rw [run_concat] at isTheme
    cases perform_becomes isTheme with
    | unchanged before => exact ih before
    | new => exact .new _
    | applied before applies => exact .apply (ih before) applies
    | rebased before => exact .rebase _ _ (ih before)
    | copied before other copies => exact .setTo (ih before) (ih other) copies
    | cleared before => exact .clear (ih before)

/-- Whether a value of a theme stems from a source and has a cookie that a manager gave out for it, or for one with its
    path if the value was copied, or none if it is no string. -/
structure Held (events : List Event) (i owner : Nat) (attr : ResourceId) (e : ThemeEntry) : Prop where
  stems : ∃ o, Stems events i attr e o ∧ (e.cookie = .invalid ∨
    ∃ s, Issued events owner e.cookie s ∧ s.path = o.source.path ∧ (o.copied = false → s = o.source))
  string : e.value.type = .string → e.cookie.isValid

theorem Held.concat {j owner : Nat} (held : Held events j owner attr e)
    (along : ∀ o, Stems events j attr e o → Stems (events ++ [event]) i attr e o) :
    Held (events ++ [event]) i owner attr e := by
  obtain ⟨⟨o,stems,cookie⟩,string⟩ := held
  refine ⟨⟨o,along o stems,?_⟩,string⟩
  rcases cookie with invalid | ⟨s,issued,named⟩
  · exact .inl invalid
  · exact .inr ⟨s,issued.concat,named⟩

theorem held_of_given (room : Room events) (styles : event.styles? = some (i,n))
    (present : (run (events ++ [event])).value? i attr = some e)
    (given : Theme.Given ((run events).managers n).registry attr e) : Held (events ++ [event]) i n attr e := by
  obtain ⟨position,s,isSource,cookie,sets⟩ := given
  have named := source?_cookieAt room n isSource
  rw [← cookie] at named
  have issued : Issued (events ++ [event]) n e.cookie s := ⟨events,List.prefix_append _ _,named⟩
  refine ⟨⟨⟨s,false⟩,.given styles present named sets,.inr ⟨s,issued,rfl,fun _ => rfl⟩⟩,fun _ => ?_⟩
  obtain ⟨position,found,_⟩ := Option.bind_eq_some_iff.1 named
  exact Registry.isValid_of_position? found

theorem Held.transferred {j k : Nat} {old : ThemeEntry} (room : Room events) (differ : n ≠ k)
    (held : Held events j k attr old) (present : (run (events ++ [.setTo i n j k])).value? i attr = some e)
    (same : e = Theme.moved ((run events).managers n).registry ((run events).managers k).registry old)
    (string : e.value.type = .string → e.cookie.isValid) : Held (events ++ [.setTo i n j k]) i n attr e := by
  obtain ⟨⟨o,stems,cookie⟩,_⟩ := held
  refine ⟨⟨⟨o.source,true⟩,.transferred differ stems present same,?_⟩,string⟩
  have moved : e.cookie = Theme.counterpart ((run events).managers n).registry ((run events).managers k).registry
      old.cookie := congrArg ThemeEntry.cookie same
  rw [moved]
  rcases Theme.counterpart_eq ((run events).managers n).registry ((run events).managers k).registry old.cookie with
    invalid | ⟨s,position,s',named,isSource,path,cookieAt⟩
  · exact .inl invalid
  · rcases cookie with invalid | ⟨source,issued,samePath,_⟩
    · rw [invalid,Registry.source?_of_no_position Registry.position?_invalid] at named
      cases named
    · obtain rfl := issued.unique room named
      have named' := source?_cookieAt room n isSource
      rw [← cookieAt] at named'
      exact .inr ⟨s',⟨events,List.prefix_append _ _,named'⟩,path.trans samePath,fun own => nomatch own⟩

/-- Each value of a theme is held for the theme's manager. -/
theorem run_held (room : Room events) {t : Theme} (isTheme : (run events).themes i = some t)
    (isEntry : t.entries.get? attr = some e) : Held events i t.owner attr e := by
  -- From the end, as the last event tells where the value was before it: here, in another theme, or in a style.
  induction events using List.reverseRecOn generalizing i t e with
  | nil => cases isTheme
  | append_singleton events event ih =>
    replace room := room.of_concat
    have present : (run (events ++ [event])).value? i attr = some e := by
      rw [value?,isTheme,Option.bind_some,isEntry]
    rw [run_concat] at isTheme
    cases perform_becomes isTheme with
    | unchanged before same =>
      exact (ih room before isEntry).concat fun _ stems => .unchanged stems (by rw [run_concat,same])
    | new => simp [Theme.new] at isEntry
    | @applied n applied old _ _ _ before applies =>
      obtain ⟨owned,rfl,_⟩ := Theme.apply_ok (.refl _) applies
      have owner : old.owner = n := owned.trans (run_tag events n)
      show Held _ i (Theme.add _ old applied).owner attr e
      rw [Theme.add_owner]
      -- Invariants of the manager alone say where the entries of its bags come from.
      rcases Theme.given_of_add (run_sourced events n) isEntry with entry | given
      · exact (ih room before entry).concat fun _ stems => .left stems present
      · rw [owner]
        exact held_of_given room rfl present given
    | @rebased n stack old before =>
      have given := Theme.given_of_rebase (run_sourced events n) isEntry
      rw [Theme.rebase_owner,run_tag]
      exact held_of_given room rfl present given
    | @copied n j k old other copy before isOther copies =>
      obtain ⟨owned,other_owned,rfl⟩ := Theme.setTo_ok copies
      rw [run_tag] at owned other_owned
      simp only at isEntry
      split at isEntry
      next same =>
        have sameManager : k = n := by rw [← other_owned,← same,owned]
        subst sameManager
        rw [same]
        exact (ih room isOther isEntry).concat fun _ stems => .shared stems present
      next differ =>
        rw [owned,other_owned] at differ
        obtain ⟨entry,found,moved,string⟩ := Theme.mem_transferAll isEntry
        have held := ih room isOther found
        rw [other_owned] at held
        rw [owned]
        exact held.transferred room differ present moved string
    | cleared before => simp [Theme.clear] at isEntry

/-- What is known of a value of a theme: there is one manager with the tag that the theme records, and the cookie is
    invalid or one that it gave out; a string has a valid cookie; the value is not undefined; it stems from a source
    that sets it; and as long as the manager knows the cookie, it names that source, or one with its path if the value
    was copied from a theme of another manager. -/
structure Traced (events : List Event) (i : Nat) (t : Theme) (attr : ResourceId) (e : ThemeEntry) : Prop where
  owner : ∀ n, ((run events).managers n).tag = t.owner ↔ n = t.owner
  issued : e.cookie = .invalid ∨ ∃ s, Issued events t.owner e.cookie s
  string : e.value.type = .string → e.cookie.isValid
  defined : ¬ e.value.isUndefined
  stems : ∃ o, Stems events i attr e o ∧ o.source.Sets e.style attr e.value ∧
    ∀ s, ((run events).managers t.owner).registry.source? e.cookie = some s →
      s.path = o.source.path ∧ (o.copied = false → s = o.source)

/-- Each value of each theme can be traced. -/
theorem run_traced (events : List Event) (room : Room events) (i : Nat) (t : Theme)
    (isTheme : (run events).themes i = some t) (attr : ResourceId) (e : ThemeEntry)
    (isEntry : t.entries.get? attr = some e) : Traced events i t attr e := by
  obtain ⟨⟨o,stems,cookie⟩,string⟩ := run_held room isTheme isEntry
  have defined := (run_reached isTheme).defined attr e isEntry
  refine ⟨fun n => by rw [run_tag],?_,string,defined,o,stems,stems.sets,fun s named => ?_⟩
  · rcases cookie with invalid | ⟨s,issued,_⟩
    · exact .inl invalid
    · exact .inr ⟨s,issued⟩
  · rcases cookie with invalid | ⟨source,issued,path,own⟩
    · rw [invalid,Registry.source?_of_no_position Registry.position?_invalid] at named
      cases named
    · obtain rfl := issued.unique room named
      exact ⟨path,own⟩

/-- A string that one manager has from its only source, in the copy of its theme for a manager with that source in the
    second place. -/
theorem run_traced_copied :
    let style : Entry := ⟨⟨"app","style","Main"⟩,[⟨{},.bag 0 [(0x7f010001,⟨.string,0⟩)]⟩]⟩
    let main : Source :=
      { path := "main"
        table := { packages := .ofList [(0x7f,"app")], entries := .ofList [(0x7f020000,style)] } }
    let events : List Event := [.operate 0 (.act (.setSources [main] true)),
      .operate 1 (.act (.presetSources [{ path := "base" },main])),.newTheme 0 0,.newTheme 1 1,
      .apply 0 0 ⟨0x7f020000,true⟩,.setTo 1 1 0 0]
    Room events ∧ ∃ t e, (run events).themes 1 = some t ∧ t.entries.get? 0x7f010001 = some e ∧
      Traced events 1 t 0x7f010001 e ∧ e.value.type = .string ∧ e.cookie = ⟨1⟩ ∧
      (((run events).managers 1).registry.source? ⟨1⟩).map Source.path = some "main" := by
  intro style main events
  have room : Room events := by
    intro n
    match n with
    | 0 => decide
    | 1 => decide
    | n + 2 =>
      have others : operationsOn (n + 2) events = [] := rfl
      rw [others]
      decide
  have value : ((run events).value? 1 0x7f010001).map (fun e => (e.value.type,e.cookie)) = some (.string,⟨1⟩) := by
    decide +kernel
  obtain ⟨e,present,same⟩ := Option.map_eq_some_iff.1 value
  obtain ⟨t,isTheme,isEntry⟩ := Option.bind_eq_some_iff.1 present
  obtain ⟨string,cookie⟩ := Prod.mk.inj same
  exact ⟨room,t,e,isTheme,isEntry,run_traced events room 1 t isTheme 0x7f010001 e isEntry,string,cookie,
    by decide +kernel⟩

end World

end AndroidResources
