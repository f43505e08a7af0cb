import AndroidResources.Manager

/-!
# Themes

A theme is a stack of styles and the values of attributes that they leave. A style is applied by force,
taking the place of what is there, or gently, filling gaps. A theme belongs to one manager.
-/
namespace AndroidResources

/-- The value of an attribute, with the style that it comes from. -/
structure ThemeEntry where
  cookie : Cookie
  changes : Changes
  value : Value
  style : ResourceId

/-- A style that was applied. -/
structure AppliedStyle where
  style : ResourceId
  force : Bool
  deriving DecidableEq

/-- A stack of styles and what they leave. -/
structure Theme where
  /-- The tag of the manager that the theme belongs to. -/
  owner : Nat
  entries : OrderedMap ResourceId ThemeEntry := {}
  stack : List AppliedStyle := []
  /-- The dimensions over which the styles vary. -/
  changes : Changes := .none
  deriving Inhabited

/-- An attribute's value as a value that comes from no resource of its own. -/
def ThemeEntry.selected (e : ThemeEntry) : Selected :=
  ⟨e.cookie,e.value,0,e.changes,{}⟩

namespace Theme

/-- A theme without styles. -/
def new (m : Manager) : Theme :=
  { owner := m.tag }

/-- Refuses a manager that the theme does not belong to. -/
def check (t : Theme) (m : Manager) : Except ResourceError Unit :=
  if t.owner = m.tag then .ok () else .error .wrongRegistry

theorem check_eq_ok_iff {t : Theme} {m : Manager} : t.check m = .ok () ↔ t.owner = m.tag := by
  simp [check]

/-! ## Applying styles -/

/-- What an entry of a style does to the value of its attribute. An undefined value by force takes the
    value away, and gently does nothing. -/
def overlay (force : Bool) (current : Option ThemeEntry) (new : ThemeEntry) : Option ThemeEntry :=
  if force then if new.value.isUndefined then none else some new
  else if new.value.isUndefined then current
  else
    match current with
    | none => some new
    | some old => if old.value.isUndefined then some new else some old

/-- Sets or removes the value of an attribute. -/
def update (entries : OrderedMap ResourceId ThemeEntry) (attr : ResourceId) (entry : Option ThemeEntry) :
    OrderedMap ResourceId ThemeEntry :=
  match entry with
  | some entry => entries.insert attr entry
  | none => entries.erase attr

/-- The values after an entry of a style, whose key must be an attribute. -/
def mergeEntry (bag : Bag) (force : Bool) (entries : OrderedMap ResourceId ThemeEntry) (e : BagEntry) :
    OrderedMap ResourceId ThemeEntry :=
  let key : ResourceId := e.key
  if key.isValid then update entries key (overlay force (entries.get? key) ⟨e.cookie,bag.changes,e.value,e.style⟩)
  else entries

/-- The values after a style. -/
def merge (t : Theme) (bag : Bag) (force : Bool) : Theme :=
  { t with
    entries := bag.entries.foldl (mergeEntry bag force) t.entries
    changes := t.changes.union bag.changes }

/-- Merges a style if there is one, and tells whether. -/
def mergeStyle (t : Theme) (m : Manager) (applied : AppliedStyle) : Bool × Theme × Manager :=
  match m.bag? applied.style with
  | (none,m) => (false,t,m)
  | (some bag,m) => (true,t.merge bag applied.force,m)

/-- Applies a style. It goes onto the stack even if it is missing. -/
def apply (t : Theme) (m : Manager) (applied : AppliedStyle) :
    Except ResourceError (Bool × Theme × Manager) := do
  t.check m
  pure ({ t with stack := t.stack ++ [applied] }.mergeStyle m applied)

/-- Merges styles in order. -/
def replay (t : Theme) (m : Manager) (stack : List AppliedStyle) : Theme × Manager :=
  stack.foldl (fun (t,m) applied => (t.mergeStyle m applied).2) (t,m)

/-- Makes the theme one of another manager, or of the same one as it is now: its styles, or others, are
    applied afresh. -/
def rebase (t : Theme) (m : Manager) (stack : Option (List AppliedStyle)) : Theme × Manager :=
  let stack := stack.getD t.stack
  replay { owner := m.tag, stack } m stack

/-- The theme without styles. -/
def clear (t : Theme) : Theme :=
  { owner := t.owner }

/-! ## Copying -/

/-- The cookie of the first source with the path of a source elsewhere. -/
def counterpart (r other : Registry) (c : Cookie) : Cookie :=
  let position := (other.source? c).bind fun s => r.sources.findIdx? fun t => t.path = s.path
  (position.map r.cookieAt).getD .invalid

/-- A value as it stands in another registry. A string that has no source there is lost. -/
def transfer? (r other : Registry) (e : ThemeEntry) : Option ThemeEntry :=
  let cookie := counterpart r other e.cookie
  if !cookie.isValid && e.value.type = .string then none else some { e with cookie }

/-- The values that another registry can hold: those whose attributes' packages it has. -/
def transferAll (r other : Registry) (entries : OrderedMap ResourceId ThemeEntry) :
    OrderedMap ResourceId ThemeEntry :=
  .ofList (entries.toList.filterMap fun (attr,e) =>
    if attr.package ∈ r.packageIds then (transfer? r other e).map (attr,·) else none)

/-- Makes the theme a copy of another one, whose manager may be a different one. -/
def setTo (t : Theme) (m : Manager) (other : Theme) (otherManager : Manager) : Except ResourceError Theme := do
  t.check m
  other.check otherManager
  let entries :=
    if t.owner = other.owner then other.entries
    else transferAll m.registry otherManager.registry other.entries
  pure { t with entries, stack := other.stack, changes := other.changes }

/-! ## Looking attributes up -/

/-- The value of an attribute in at most `hops` steps through attributes that stand for others, with its
    style. The value varies with all of them. -/
def lookupWithin (t : Theme) : (hops : Nat) → Changes → ResourceId → Option (Selected × ResourceId)
  | 0, _, _ => none
  | hops + 1, changes, attr =>
    match t.entries.get? attr with
    | none => none
    | some e =>
      let changes := changes.union e.changes
      if e.value.type = .themeAttribute then t.lookupWithin hops changes e.value.data
      else some ({ e.selected with changes },e.style)

/-- The value of an attribute, with its style. -/
def lookup? (t : Theme) (attr : ResourceId) : Option (Selected × ResourceId) :=
  t.lookupWithin maxHops .none attr

/-- The value of an attribute. -/
def value? (t : Theme) (attr : ResourceId) : Option Selected :=
  (t.lookup? attr).map (·.1)

/-- A value with a theme attribute replaced by what it stands for. -/
def substitute? (t : Theme) (s : Selected) : Option Selected :=
  if s.value.type = .themeAttribute then (t.value? s.value.data).map fun found => found.behind s
  else some s

/-- The way of a value through the theme and then through references. -/
def follow (t : Theme) (r : Registry) (s : Selected) : Walk :=
  match t.substitute? s with
  | none => {}
  | some s => r.follow s

/-- What a value stands for in the theme, or the value itself when that leads nowhere. -/
def resolved (t : Theme) (r : Registry) (s : Selected) : Selected :=
  (t.follow r s).result.getD s

/-- What a value stands for in the theme. -/
def resolve? (t : Theme) (m : Manager) (s : Selected) : Except ResourceError (Option Selected × Manager) := do
  t.check m
  let walk := t.follow m.registry s
  pure (walk.result,m.noteAll walk.lookups)

/-! ## Texts -/

/-- The number of styles and attributes, and a line for each attribute. -/
def lines (t : Theme) (r : Registry) : List String :=
  ("theme with " ++ Nat.repr t.stack.length ++ " style(s), " ++ Nat.repr t.entries.size ++ " attribute(s)") ::
    t.entries.toList.map fun (attr,e) =>
      "  " ++ Text.hexId attr ++ " " ++ r.nameText attr ++ " = " ++ r.valueText e.selected ++
        " (style " ++ Text.hexId e.style ++ ")"

end Theme

end AndroidResources
