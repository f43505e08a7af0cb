import AndroidResources.Proofs.ThemeEntries
import AndroidResources.Service.Themes

/-!
# Copies of themes

A theme that is made a copy of a theme of another manager holds those values whose attributes' packages its own manager
has, each with the cookie of the first source there with the path of the source that it had (`Theme.Corresponds`). Strings
that would have no source are left out, and nothing remains of what the theme held before (`Theme.setTo_copies`). A
manager that a theme does not belong to is refused before anything is changed.
-/
namespace AndroidResources

/-- Whether a source of a registry declares a package. -/
def Registry.Declares (r : Registry) (package : UInt8) : Prop :=
  ∃ s ∈ r.sources, s.table.packages.contains package

theorem Registry.mem_packageIds_iff {r : Registry} {package : UInt8} : package ∈ r.packageIds ↔ r.Declares package := by
  simp [packageIds,mem_ascendingSet,Declares,OrderedMap.mem_keys_iff]

namespace Theme
variable {r other : Registry} {c c' : Cookie} {attr : ResourceId} {e e' : ThemeEntry}

/-! ## Values in another registry -/

/-- What stands in a registry for a cookie of another one: the cookie of the first source with the path of the source
    that is named there, or none, where no source is named anymore or none has its path. -/
inductive Corresponds (r other : Registry) (c : Cookie) : Cookie → Prop
  | first {s s' : Source} {before after : List Source} : other.source? c = some s → r.sources = before ++ s' :: after →
      s'.path = s.path → (∀ earlier ∈ before, earlier.path ≠ s.path) → Corresponds r other c (r.cookieAt before.length)
  | stale : other.source? c = none → Corresponds r other c .invalid
  | absent {s : Source} : other.source? c = some s → (∀ s' ∈ r.sources, s'.path ≠ s.path) →
      Corresponds r other c .invalid

/-- Whether a value is what a value of another registry becomes: a registry with the package of its attribute takes it
    over as it is but for the cookie, and no string without a source. -/
structure Transferred (r other : Registry) (attr : ResourceId) (old e : ThemeEntry) : Prop where
  declared : r.Declares attr.package
  cookie : Corresponds r other old.cookie e.cookie
  value : e.value = old.value
  style : e.style = old.style
  changes : e.changes = old.changes
  string : e.value.type = .string → e.cookie.isValid

theorem Corresponds.counterpart_eq (corresponds : Corresponds r other c c') : counterpart r other c = c' := by
  unfold counterpart
  cases corresponds with
  | stale stale => rw [stale]; rfl
  | @absent s named absent =>
    have nowhere : r.sources.findIdx? (fun t => t.path = s.path) = none := by simpa using absent
    rw [named,Option.bind_some,nowhere]
    rfl
  | @first s s' before after named listed samePath first =>
    have position : r.sources.findIdx? (fun t => t.path = s.path) = some before.length := by
      have notBefore : before.findIdx? (fun t => t.path = s.path) = none := by simpa using first
      simp [listed,List.findIdx?_append,notBefore,List.findIdx?_cons,samePath]
    rw [named,Option.bind_some,position]
    rfl

theorem corresponds_counterpart (r other : Registry) (c : Cookie) : Corresponds r other c (counterpart r other c) := by
  cases named : other.source? c with
  | none =>
    have stale := Corresponds.stale (r := r) named
    rwa [stale.counterpart_eq]
  | some s =>
    by_cases absent : ∀ s' ∈ r.sources, s'.path ≠ s.path
    · have nowhere := Corresponds.absent named absent
      rwa [nowhere.counterpart_eq]
    · have some : (r.sources.find? fun t => t.path = s.path).isSome := by simpa using absent
      obtain ⟨s',found⟩ := Option.isSome_iff_exists.1 some
      obtain ⟨samePath,before,after,listed,first⟩ := List.find?_eq_some_iff_append.1 found
      have corresponds : Corresponds r other c (r.cookieAt before.length) :=
        .first named listed (by simpa using samePath) (by simpa using first)
      rwa [corresponds.counterpart_eq]

/-- There is one cookie that stands for a cookie of another registry. -/
theorem corresponds_iff : Corresponds r other c c' ↔ counterpart r other c = c' := by
  constructor
  · exact Corresponds.counterpart_eq
  · rintro rfl
    exact corresponds_counterpart r other c

theorem transferred_iff {old : ThemeEntry} : Transferred r other attr old e ↔
    attr.package ∈ r.packageIds ∧ transfer? r other old = some e := by
  rw [Registry.mem_packageIds_iff,transfer?_eq_some_iff]
  constructor
  · rintro ⟨declared,cookie,value,style,changes,string⟩
    refine ⟨declared,?_,string⟩
    rw [moved,corresponds_iff.1 cookie,← value,← style,← changes]
  · rintro ⟨declared,rfl,string⟩
    exact ⟨declared,corresponds_iff.2 rfl,rfl,rfl,rfl,string⟩

/-- A registry takes over exactly what the values of another one become. -/
theorem get?_transferAll_iff {entries : OrderedMap ResourceId ThemeEntry} :
    (transferAll r other entries).get? attr = some e ↔
      ∃ old, entries.get? attr = some old ∧ Transferred r other attr old e := by
  rw [transferAll,OrderedMap.get?_ofList_iff (entries.pairwise_filterMap_keys ?_),List.mem_filterMap]
  · simp only [OrderedMap.get?_eq_some,transferred_iff]
    constructor
    · rintro ⟨⟨attr',old⟩,mem,held⟩
      simp only [Option.ite_none_right_eq_some,Option.map_eq_some_iff,Prod.mk.injEq] at held
      obtain ⟨declared,_,transferred,rfl,rfl⟩ := held
      exact ⟨old,mem,declared,transferred⟩
    · rintro ⟨old,mem,declared,transferred⟩
      exact ⟨(attr,old),mem,by simp [declared,transferred]⟩
  · rintro ⟨a,x⟩ ⟨a',x'⟩ left
    simp only [Option.ite_none_right_eq_some,Option.map_eq_some_iff,Prod.mk.injEq] at left
    obtain ⟨_,_,_,same,_⟩ := left
    exact same.symm

/-! ## Whole themes -/

/-- Whether a theme is what a theme becomes as a copy of another one: the same values if that is of the same manager,
    what its values become if it is of another one, and its styles and dimensions in both cases. -/
structure IsCopy (m otherManager : Manager) (t other copy : Theme) : Prop where
  owner : copy.owner = t.owner
  stack : copy.stack = other.stack
  changes : copy.changes = other.changes
  shared : m.tag = otherManager.tag → copy.entries = other.entries
  transferred : m.tag ≠ otherManager.tag → ∀ attr e, copy.entries.get? attr = some e ↔
    ∃ old, other.entries.get? attr = some old ∧ Transferred m.registry otherManager.registry attr old e

section
variable {m m' : Manager} {t t' : Theme}

theorem exists_isCopy (owned : t.owner = m.tag) (owned' : t'.owner = m'.tag) :
    ∃ copy, t.setTo m t' m' = .ok copy ∧ IsCopy m m' t t' copy := by
  have copied : t.setTo m t' m' = .ok { t with
      entries := if m.tag = m'.tag then t'.entries else transferAll m.registry m'.registry t'.entries
      stack := t'.stack
      changes := t'.changes } := by
    simp only [setTo,check,owned,owned',if_true]
    rfl
  refine ⟨_,copied,rfl,rfl,rfl,fun same => if_pos same,fun differ attr e => ?_⟩
  simp only [if_neg differ]
  exact get?_transferAll_iff

theorem setTo_of_foreign (foreign : t.owner ≠ m.tag ∨ t'.owner ≠ m'.tag) :
    t.setTo m t' m' = .error .wrongRegistry := by
  by_cases owned : t.owner = m.tag
  · have foreign' := foreign.resolve_left (not_not_intro owned)
    simp only [setTo,check,owned,foreign',if_true,if_false]
    rfl
  · simp only [setTo,check,owned,if_false]
    rfl

end

end Theme

/-- A service copies one of its themes onto another one, or fails and stays as it is. -/
theorem Service.run_copyTheme {s : Session} {manager theme otherManager other : Handle} {m m' : Manager} {t t' : Theme}
    (differ : theme ≠ other) (isManager : s.managers.get? manager = some m)
    (isManager' : s.managers.get? otherManager = some m') (isTheme : s.themes.get? theme = some t)
    (isTheme' : s.themes.get? other = some t') :
    (copyTheme manager theme otherManager other).run s =
      match t.setTo m t' m' with
      | .ok copy => (.ok (),{ s with themes := s.themes.replace theme copy })
      | .error error => (.error error,s) := by
  obtain ⟨managers,areManagers,both⟩ := Pair.both_of? isManager isManager'
  have areThemes : Pair.of? s.themes.get? theme other = some (.distinct t t') := by
    rw [Pair.of?,if_neg differ,isTheme,isTheme']
  rw [copyTheme,run_bind,run_underBoth areManagers]
  simp only [both]
  rw [run_bind,run_underBoth areThemes]
  simp only
  rw [run_bind,run_attempt]
  cases t.setTo m t' m' <;> rfl

namespace Theme

/-- A theme becomes a copy of another one, each with its own manager. With another manager it does not, and a service
    that was asked for that stays as it is. -/
theorem setTo_copies (t other : Theme) (m otherManager : Manager) :
    (t.owner = m.tag ∧ other.owner = otherManager.tag →
      ∃ copy, t.setTo m other otherManager = .ok copy ∧ IsCopy m otherManager t other copy) ∧
    (t.owner ≠ m.tag ∨ other.owner ≠ otherManager.tag →
      t.setTo m other otherManager = .error .wrongRegistry ∧
      ∀ (s : Session) (h i j k : Handle), i ≠ k → s.managers.get? h = some m → s.themes.get? i = some t →
        s.managers.get? j = some otherManager → s.themes.get? k = some other →
        (Service.copyTheme h i j k).run s = (.error .wrongRegistry,s)) := by
  constructor
  · rintro ⟨owned,otherOwned⟩
    exact exists_isCopy owned otherOwned
  · intro foreign
    have refused := setTo_of_foreign foreign
    refine ⟨refused,fun s h i j k differ isManager isTheme isOtherManager isOther => ?_⟩
    rw [Service.run_copyTheme differ isManager isOtherManager isTheme isOther,refused]

/-- A string moves on to the first of two sources with its path, and a number without a source there goes along without
    one. A string without a source, a value of a package that is missing and what the theme held before are gone. -/
theorem setTo_copies_moved :
    let source (path : String) : Source := { path, table := { packages := .ofList [(0x7f,"app")] } }
    let m : Manager := { tag := 1, registry := { sources := [source "base",source "main",source "main"] } }
    let otherManager : Manager := { tag := 2, registry := { sources := [source "main",source "gone"], base := 5 } }
    let value (type : ValueType) (cookie : Cookie) : ThemeEntry := ⟨cookie,.none,⟨type,0⟩,0x7f020000⟩
    let t : Theme := { owner := 1, entries := .ofList [(0x7f010000,value .decimal ⟨0⟩)] }
    let other : Theme :=
      { owner := 2
        stack := [⟨0x7f020000,true⟩]
        entries := .ofList [(0x7f010001,value .string ⟨5⟩),(0x7f010002,value .string ⟨6⟩),
          (0x7f010003,value .decimal ⟨6⟩),(0x7f010004,value .decimal ⟨0⟩),(0x66010001,value .decimal ⟨5⟩)] }
    (∃ copy, t.setTo m other otherManager = .ok copy ∧ IsCopy m otherManager t other copy ∧
      copy.entries.toList.map (fun (attr,e) => (attr,e.cookie)) =
        [(0x7f010001,⟨1⟩),(0x7f010003,.invalid),(0x7f010004,.invalid)]) ∧
    t.setTo otherManager other otherManager = .error .wrongRegistry := by
  intro source m otherManager value t other
  have values : (t.setTo m other otherManager).toOption.map
      (fun copy => copy.entries.toList.map fun (attr,e) => (attr,e.cookie)) =
        some [(0x7f010001,⟨1⟩),(0x7f010003,.invalid),(0x7f010004,.invalid)] := by decide +kernel
  obtain ⟨copy,copied,isCopy⟩ := (setTo_copies t other m otherManager).1 ⟨rfl,rfl⟩
  rw [copied] at values
  have foreign : t.owner ≠ otherManager.tag := by decide
  exact ⟨⟨copy,copied,isCopy,Option.some.inj values⟩,((setTo_copies t other otherManager otherManager).2 (.inl foreign)).1⟩

end Theme

end AndroidResources
