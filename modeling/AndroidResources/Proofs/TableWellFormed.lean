import AndroidResources.Table.Builder

/-!
# Tables that are built

In a table that has been built each entry belongs to a package of the table and has one definition for a
configuration (`Builder.build_wellFormed`): the first pass declares entries of known packages, and the second one
refuses a definition for a configuration that there is one for.
-/
namespace AndroidResources

/-- Whether each entry belongs to a package of the table, and has at most one definition for a configuration. -/
structure Table.WellFormed (t : Table) : Prop where
  declared : ∀ id entry, t.entry? id = some entry → t.packages.contains id.package
  once : ∀ id entry, t.entry? id = some entry → (entry.definitions.map Definition.configuration).Nodup

namespace Builder

/-- What each step of a run makes true of the items that it has met holds of all of them after it, if the run succeeds. -/
theorem foldlM_follows {ε σ α : Type} {holds : List α → σ → Prop} {step : σ → α → Except ε σ}
    (follows : ∀ met s a s', holds met s → step s a = .ok s' → holds (met ++ [a]) s') {items : List α} {s s' : σ}
    (start : holds [] s) (run : items.foldlM step s = .ok s') : holds items s' := by
  suffices rest : ∀ met s, holds met s → items.foldlM step s = .ok s' → holds (met ++ items) s' from rest [] s start run
  clear start run
  induction items with
  | nil =>
    intro met s start run
    obtain rfl := Except.ok.inj run
    rwa [List.append_nil]
  | cons item rest ih =>
    intro met s start run
    rw [List.foldlM_cons,bind_eq_ok_iff] at run
    obtain ⟨next,first,later⟩ := run
    have all := ih (met ++ [item]) next (follows met s item next start first) later
    rwa [List.append_assoc] at all

/-- What each step of a run keeps holds after it, if the run succeeds. -/
theorem foldlM_keeps {ε σ α : Type} {holds : σ → Prop} {step : σ → α → Except ε σ}
    (keeps : ∀ s a s', holds s → step s a = .ok s' → holds s') {items : List α} {s s' : σ} (start : holds s)
    (run : items.foldlM step s = .ok s') : holds s' :=
  foldlM_follows (fun _ => keeps) start run

/-! ## First pass -/

theorem contains_of_fullName {packages : OrderedMap UInt8 String} {item : Pending} {name : ResourceName}
    (found : fullName packages item = .ok name) : packages.contains item.id.package := by
  rw [OrderedMap.contains,Option.isSome_iff_ne_none]
  intro unknown
  by_cases valid : item.id.isValid
  · simp only [fullName,valid,unknown,Bool.not_true,Bool.false_eq_true,if_false,bind_eq_ok_iff] at found
    obtain ⟨_,_,refused⟩ := found
    split at refused <;> cases refused
  · simp only [fullName,valid,Bool.not_false,if_true,bind_eq_ok_iff] at found
    obtain ⟨_,refused,_⟩ := found
    cases refused

/-- Whether each entry that has been declared belongs to a package and has no definition yet. -/
def Declared.Known (packages : OrderedMap UInt8 String) (d : Declared) : Prop :=
  ∀ id entry, d.entries.get? id = some entry → packages.contains id.package ∧ entry.definitions = []

theorem declare_known {packages : OrderedMap UInt8 String} {item : Pending} {d d' : Declared}
    (known : d.Known packages) (run : declare packages d item = .ok d') : d'.Known packages := by
  simp only [declare,bind_eq_ok_iff] at run
  obtain ⟨name,named,_,_,_,_,declared⟩ := run
  obtain rfl := Except.ok.inj declared
  intro id entry found
  split at found
  · exact known id entry found
  · rw [OrderedMap.get?_insert] at found
    split at found
    case isTrue same =>
      obtain rfl := Option.some.inj found
      exact ⟨same ▸ contains_of_fullName named,rfl⟩
    case isFalse => exact known id entry found

theorem Declared.Known.wellFormed {packages : OrderedMap UInt8 String} {d : Declared} (known : d.Known packages) :
    Table.WellFormed { packages, entries := d.entries } := by
  refine ⟨fun id entry found => (known id entry found).1,fun id entry found => ?_⟩
  rw [(known id entry found).2]
  exact .nil

/-! ## Second pass -/

/-- A definition is added behind the others of its entry, for a configuration that none of them is for. -/
theorem define_ok {names : Names} {item : Pending} {t t' : Table} (run : define names t item = .ok t') :
    ∃ entry content strings, t.entries.get? item.id = some entry ∧
      encodeContent names ((t.packages.get? item.id.package).getD "") t.strings item.content = .ok (content,strings) ∧
      (∀ d ∈ entry.definitions, d.configuration ≠ item.configuration) ∧
      t' = { t with
        strings
        entries := t.entries.insert item.id
          { entry with definitions := entry.definitions ++ [⟨item.configuration,content⟩] } } := by
  obtain ⟨⟨content,strings⟩,encoded,run⟩ := bind_eq_ok_iff.1 run
  cases isEntry : t.entries.get? item.id with
  | none =>
    simp only [isEntry] at run
    cases run
  | some entry =>
    simp only [isEntry] at run
    split at run
    · cases run
    next fresh => exact ⟨entry,content,strings,rfl,encoded,by simpa using fresh,(Except.ok.inj run).symm⟩

theorem define_wellFormed {names : Names} {item : Pending} {t t' : Table} (wellFormed : t.WellFormed)
    (run : define names t item = .ok t') : t'.WellFormed := by
  obtain ⟨entry,content,strings,isEntry,_,absent,rfl⟩ := define_ok run
  have at_id (id : ResourceId) : (t.entries.insert item.id
      { entry with definitions := entry.definitions ++ [⟨item.configuration,content⟩] }).get? id =
        if id = item.id then some { entry with definitions := entry.definitions ++ [⟨item.configuration,content⟩] }
        else t.entry? id := OrderedMap.get?_insert _ _ _ _
  constructor
  all_goals
    intro id found isFound
    rw [Table.entry?,at_id] at isFound
    split at isFound
  case declared.isTrue same => exact same ▸ wellFormed.declared item.id entry isEntry
  case declared.isFalse => exact wellFormed.declared _ _ isFound
  case once.isTrue =>
    obtain rfl := Option.some.inj isFound
    simpa [List.nodup_append] using ⟨wellFormed.once _ _ isEntry,absent⟩
  case once.isFalse => exact wellFormed.once _ _ isFound

/-! ## Both -/

theorem tableOf_wellFormed {imported : Names} {packages : List (UInt8 × String)} {pending : List Pending} {t : Table}
    (built : tableOf imported packages pending = .ok t) : t.WellFormed := by
  simp only [tableOf,bind_eq_ok_iff] at built
  obtain ⟨packages,_,declared,first,second⟩ := built
  have known : declared.Known packages :=
    foldlM_keeps (fun _ _ _ => declare_known) (by simp [Declared.Known]) first
  exact foldlM_keeps (fun _ _ _ => define_wellFormed) known.wellFormed second

/-- A table that a builder makes is well-formed. -/
theorem build_wellFormed {b : Builder} {t : Table} (built : b.build.1 = .ok t) : t.WellFormed := by
  unfold build at built
  split at built
  · cases built
  · exact tableOf_wellFormed built

end Builder

end AndroidResources
