import AndroidResources.Proofs.TableWellFormed

/-!
# Declared names

The first pass of a build declares an entry for each definition under its full name (`Builder.Declared.Covers`). A name
then stands for the id that a definition gives it, or for an imported one where no definition has it
(`Builder.Gives`). The second pass leaves all names as they are, so that the table has the declared ones
(`Builder.build_ok`), with one name for all ids of a type (`Builder.build_named`).
-/
namespace AndroidResources

/-! ## Names as they are read -/

theorem NameParts.isPart_of_ofText {s : String} {parts : NameParts} (read : ofText s = .ok parts) :
    ResourceName.isPart parts.entry.toList ∧ (∀ type, parts.type = some type → ResourceName.isPart type.toList) := by
  simp only [ofText] at read
  split at read
  next valid =>
    obtain rfl := Except.ok.inj read
    simp only [Bool.and_eq_true,Option.all_eq_true] at valid
    refine ⟨by simpa using valid.1.1,fun type found => ?_⟩
    obtain ⟨cs,isType,rfl⟩ := Option.map_eq_some_iff.1 found
    simpa using valid.2 cs isType
  next => cases read

namespace Builder
variable {packages : OrderedMap UInt8 String} {imported : Names} {item : Pending} {name : ResourceName}

/-- A full name has the package of its id, and the type and the entry that are written. -/
theorem fullName_ok (named : fullName packages item = .ok name) : packages.get? item.id.package = some name.package ∧
    ∃ package, NameParts.ofText item.name = .ok ⟨package,some name.type,name.entry⟩ := by
  unfold fullName at named
  by_cases valid : item.id.isValid
  · simp only [valid,Bool.not_true,Bool.false_eq_true,if_false] at named
    obtain ⟨parts,read,named⟩ := bind_eq_ok_iff.1 named
    split at named
    · cases named
    next type isType =>
      split at named
      · cases named
      next package declared =>
        split at named
        · cases named
        · obtain rfl := Except.ok.inj named
          refine ⟨declared,parts.package,?_⟩
          rw [read,← isType]
  · simp only [valid,Bool.not_false,if_true] at named
    cases named

/-! ## First pass -/

/-- Whether a name stands for an id: a definition gives it, or it is imported and no definition has it. -/
def Gives (packages : OrderedMap UInt8 String) (imported : Names) (pending : List Pending) (name : ResourceName)
    (id : ResourceId) : Prop :=
  (∃ item ∈ pending, fullName packages item = .ok name ∧ item.id = id) ∨
    (∀ item ∈ pending, fullName packages item ≠ .ok name) ∧ imported.lookup name = some id

/-- Whether what has been declared are the names of definitions, in front of imported ones. -/
structure Declared.Covers (packages : OrderedMap UInt8 String) (imported : Names) (d : Declared) (pending : List Pending) :
    Prop where
  pushed : ∀ id e, d.entries.get? id = some e → ∃ item ∈ pending, item.id = id
  named : ∀ item ∈ pending, ∃ e, d.entries.get? item.id = some e ∧ fullName packages item = .ok e.name
  oneType : ∀ id id' e e', d.entries.get? id = some e → d.entries.get? id' = some e' → id'.package = id.package →
    id'.type = id.type → e'.name.type = e.name.type
  gives : ∀ name id, d.names.lookup name = some id → Gives packages imported pending name id

theorem agree_ok_iff {id : ResourceId} {declared : Option String} {name : String} :
    agree id declared name = .ok () ↔ ∀ first, declared = some first → first = name := by
  cases declared with
  | none => simp [agree]
  | some first => by_cases same : first = name <;> simp [agree,same]

/-- What is declared agrees with what has been declared before. -/
theorem declare_ok {d d' : Declared} (run : declare packages d item = .ok d') : ∃ name,
    fullName packages item = .ok name ∧ (∀ type, d.typeName? item.id = some type → type = name.type) ∧
      (∀ e, d.entries.get? item.id = some e → e.name.entry = name.entry) ∧
      d' = ⟨if d.entries.contains item.id then d.entries else d.entries.insert item.id { name },(name,item.id) :: d.names⟩ := by
  obtain ⟨name,named,run⟩ := bind_eq_ok_iff.1 run
  obtain ⟨_,sameType,run⟩ := bind_eq_ok_iff.1 run
  obtain ⟨_,sameEntry,run⟩ := bind_eq_ok_iff.1 run
  refine ⟨name,named,agree_ok_iff.1 sameType,fun e found => ?_,(Except.ok.inj run).symm⟩
  exact agree_ok_iff.1 sameEntry e.name.entry (by rw [found]; rfl)

/-- What is there already stays. -/
theorem get?_declared (entries : OrderedMap ResourceId Entry) (id id' : ResourceId) (e : Entry) :
    (if entries.contains id then entries else entries.insert id e).get? id' =
      (entries.get? id').or (if id' = id then some e else none) := by
  by_cases same : id' = id
  · subst same
    cases found : entries.get? id' <;> simp [OrderedMap.contains,found]
  · split <;> simp [same]

namespace Declared.Covers
variable {d d' : Declared} {pending : List Pending}

theorem none : Covers packages imported { names := imported } [] where
  pushed _ _ found := by cases found
  named _ mem := by cases mem
  oneType _ _ _ _ found := by cases found
  gives _ _ found := .inr ⟨fun _ mem => (nomatch mem),found⟩

/-- The name of a type is the one of each of its entries. -/
theorem typeName?_eq (covers : d.Covers packages imported pending) {id id' : ResourceId} {e : Entry}
    (found : d.entries.get? id' = some e) (samePackage : id'.package = id.package) (sameType : id'.type = id.type) :
    d.typeName? id = some e.name.type := by
  unfold Declared.typeName?
  cases first : d.entries.toList.find? fun e => e.1.package = id.package ∧ e.1.type = id.type with
  | none =>
    have other := List.find?_eq_none.1 first (id',e) (OrderedMap.get?_eq_some.1 found)
    simp [samePackage,sameType] at other
  | some e' =>
    have here := List.find?_some first
    simp only [decide_eq_true_eq] at here
    have listed := OrderedMap.get?_eq_some.2 (List.mem_of_find?_eq_some first)
    have same := covers.oneType id' e'.1 e e'.2 found listed (here.1.trans samePackage.symm) (here.2.trans sameType.symm)
    rw [Option.map_some,same]

/-- An entry that has been declared has the full name of each definition of it. -/
theorem name_eq (covers : d.Covers packages imported pending) {e : Entry} (found : d.entries.get? item.id = some e)
    (named : fullName packages item = .ok name) (sameType : e.name.type = name.type)
    (sameEntry : e.name.entry = name.entry) : e.name = name := by
  obtain ⟨item',mem,sameId⟩ := covers.pushed item.id e found
  obtain ⟨e',found',named'⟩ := covers.named item' mem
  rw [sameId,found] at found'
  obtain rfl := Option.some.inj found'
  have package := (fullName_ok named).1
  have package' := (fullName_ok named').1
  rw [sameId,package] at package'
  exact ResourceName.ext (Option.some.inj package').symm sameType sameEntry

theorem declare (covers : d.Covers packages imported pending) (run : declare packages d item = .ok d') :
    d'.Covers packages imported (pending ++ [item]) := by
  obtain ⟨name,named,sameType,sameEntry,rfl⟩ := declare_ok run
  -- An entry is one from before, or the new one.
  have cases_of {id : ResourceId} {e : Entry}
      (found : (d.entries.get? id).or (if id = item.id then some { name } else Option.none) = some e) :
      d.entries.get? id = some e ∨ id = item.id ∧ e = { name } := by
    rcases Option.or_eq_some_iff.1 found with before | ⟨_,new⟩
    · exact .inl before
    · split at new
      next same => exact .inr ⟨same,(Option.some.inj new).symm⟩
      next => cases new
  constructor
  case pushed =>
    intro id e found
    rw [get?_declared] at found
    rcases cases_of found with before | ⟨same,_⟩
    · obtain ⟨item',mem,sameId⟩ := covers.pushed id e before
      exact ⟨item',List.mem_append_left _ mem,sameId⟩
    · exact ⟨item,by simp,same.symm⟩
  case named =>
    intro item' mem
    simp only [get?_declared]
    rcases List.mem_append.1 mem with before | last
    · obtain ⟨e,found,named'⟩ := covers.named item' before
      exact ⟨e,by rw [found]; rfl,named'⟩
    · obtain rfl := List.mem_singleton.1 last
      cases found : d.entries.get? item'.id with
      | none => exact ⟨{ name },by simp,named⟩
      | some e =>
        have sameType := sameType e.name.type (covers.typeName?_eq found rfl rfl)
        refine ⟨e,rfl,?_⟩
        rw [covers.name_eq found named sameType (sameEntry e found)]
        exact named
  case oneType =>
    intro id id' e e' found found' samePackage sameTypeId
    rw [get?_declared] at found found'
    rcases cases_of found with before | ⟨rfl,rfl⟩ <;> rcases cases_of found' with before' | ⟨rfl,rfl⟩
    · exact covers.oneType id id' e e' before before' samePackage sameTypeId
    · exact (sameType _ (covers.typeName?_eq before samePackage.symm sameTypeId.symm)).symm
    · exact sameType _ (covers.typeName?_eq before' samePackage sameTypeId)
    · rfl
  case gives =>
    -- The new name stands in front of all others and hides those that are the same.
    intro name' id found
    rw [OrderedMap.lookup_cons_if] at found
    split at found
    next same =>
      obtain rfl := Option.some.inj found
      exact .inl ⟨item,by simp,same ▸ named,rfl⟩
    next differ =>
      rcases covers.gives name' id found with ⟨item',mem,named',sameId⟩ | ⟨unnamed,isImported⟩
      · exact .inl ⟨item',List.mem_append_left _ mem,named',sameId⟩
      · refine .inr ⟨fun item' mem => ?_,isImported⟩
        rcases List.mem_append.1 mem with before | last
        · exact unnamed item' before
        · obtain rfl := List.mem_singleton.1 last
          rw [named]
          exact fun same => differ (Except.ok.inj same).symm

end Declared.Covers

/-- A first pass covers all definitions that it has met. -/
theorem covers_of_run {pending : List Pending} {d : Declared}
    (run : pending.foldlM (declare packages) { names := imported } = .ok d) : d.Covers packages imported pending := by
  have follows (met : List Pending) (d : Declared) (item : Pending) (d' : Declared) (covers : d.Covers packages imported met)
      (run : declare packages d item = .ok d') : d'.Covers packages imported (met ++ [item]) := covers.declare run
  exact foldlM_follows follows .none run

/-! ## Second pass -/

theorem define_names {names : Names} {t t' : Table} (run : define names t item = .ok t') :
    t'.packages = t.packages ∧ ∀ id, t'.name? id = t.name? id := by
  obtain ⟨entry,content,strings,isEntry,_,_,rfl⟩ := define_ok run
  refine ⟨rfl,fun id => ?_⟩
  simp only [Table.name?,Table.entry?,OrderedMap.get?_insert]
  split
  next same => rw [same,isEntry]; rfl
  next => rfl

theorem defineAll_names {names : Names} {items : List Pending} {t t' : Table}
    (run : items.foldlM (define names) t = .ok t') : t'.packages = t.packages ∧ ∀ id, t'.name? id = t.name? id := by
  have keeps (next : Table) (item : Pending) (next' : Table)
      (same : next.packages = t.packages ∧ ∀ id, next.name? id = t.name? id) (run : define names next item = .ok next') :
      next'.packages = t.packages ∧ ∀ id, next'.name? id = t.name? id := by
    obtain ⟨packages_eq,names_eq⟩ := define_names run
    exact ⟨packages_eq.trans same.1,fun id => (names_eq id).trans (same.2 id)⟩
  exact foldlM_keeps keeps ⟨rfl,fun _ => rfl⟩ run

/-- A table that is built has the names that have been declared. -/
theorem build_ok {b : Builder} {t : Table} (built : b.build.1 = .ok t) : ∃ declared : Declared,
    declarePackages b.packages = .ok t.packages ∧ declared.Covers t.packages b.imported b.pending ∧
      declared.Known t.packages ∧ (∀ id, t.name? id = (declared.entries.get? id).map Entry.name) ∧
      b.pending.foldlM (define declared.names) { packages := t.packages, entries := declared.entries } = .ok t := by
  unfold build at built
  split at built
  · cases built
  · obtain ⟨packages,declaredPackages,built⟩ := bind_eq_ok_iff.1 built
    obtain ⟨declared,first,second⟩ := bind_eq_ok_iff.1 built
    have covers := covers_of_run first
    have known : declared.Known packages := foldlM_keeps (fun _ _ _ => declare_known) (by simp [Declared.Known]) first
    have same := defineAll_names second
    obtain ⟨rfl,names⟩ := same
    exact ⟨declared,declaredPackages,covers,known,names,second⟩

end Builder

/-- Whether names have the packages of their ids, parts that can be read, and one type for all ids of a type. -/
structure Table.Named (t : Table) : Prop where
  package : ∀ id name, t.name? id = some name → t.packages.get? id.package = some name.package
  isPart : ∀ id name, t.name? id = some name →
    ResourceName.isPart name.type.toList ∧ ResourceName.isPart name.entry.toList
  oneType : ∀ id id' name name', t.name? id = some name → t.name? id' = some name' → id'.package = id.package →
    id'.type = id.type → name'.type = name.type

theorem Builder.build_named {b : Builder} {t : Table} (built : b.build.1 = .ok t) : t.Named := by
  obtain ⟨declared,_,covers,_,names,_⟩ := build_ok built
  have entry_of {id : ResourceId} {name : ResourceName} (found : t.name? id = some name) :
      ∃ e, declared.entries.get? id = some e ∧ e.name = name :=
    Option.map_eq_some_iff.1 ((names id).symm.trans found)
  have full {id : ResourceId} {name : ResourceName} (found : t.name? id = some name) :
      ∃ item, item.id = id ∧ fullName t.packages item = .ok name := by
    obtain ⟨e,isEntry,rfl⟩ := entry_of found
    obtain ⟨item,mem,rfl⟩ := covers.pushed id e isEntry
    obtain ⟨e',isEntry',named⟩ := covers.named item mem
    obtain rfl := Option.some.inj (isEntry.symm.trans isEntry')
    exact ⟨item,rfl,named⟩
  constructor
  case package =>
    intro id name found
    obtain ⟨item,rfl,named⟩ := full found
    exact (fullName_ok named).1
  case isPart =>
    intro id name found
    obtain ⟨item,rfl,named⟩ := full found
    obtain ⟨_,package,read⟩ := fullName_ok named
    obtain ⟨entry,types⟩ := NameParts.isPart_of_ofText read
    exact ⟨types _ rfl,entry⟩
  case oneType =>
    intro id id' name name' found found' samePackage sameType
    obtain ⟨e,isEntry,rfl⟩ := entry_of found
    obtain ⟨e',isEntry',rfl⟩ := entry_of found'
    exact covers.oneType id id' e e' isEntry isEntry' samePackage sameType

end AndroidResources
