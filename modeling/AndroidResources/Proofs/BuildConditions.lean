import AndroidResources.Proofs.TableContents

/-!
# When tables can be built

Each pass of a build goes over a list and stops at the first element that it refuses. It refuses an element for itself or for
one before it, and never for the order of the two, so that a pass succeeds exactly if each element is good and any two fit
together (`foldlM_ok_iff`). Names are looked up among those of all definitions, the last one counting (`Builder.StandsFor`).
From this follows on what the packages and definitions depend of which a table can be built (`Builder.tableOf_ok_iff`).
-/
namespace AndroidResources

/-- A run succeeds exactly if each element is good by itself and fits those before it. -/
theorem foldlM_ok_iff {ε σ α : Type} {step : σ → α → Except ε σ} {good : α → Prop} {fits : α → α → Prop} {start : σ}
    {items : List α} (succeeds : ∀ (met : List α) s a, met.foldlM step start = .ok s →
      ((∃ s', step s a = .ok s') ↔ good a ∧ ∀ b ∈ met, fits b a)) :
    (∃ s', items.foldlM step start = .ok s') ↔ (∀ a ∈ items, good a) ∧ items.Pairwise fits := by
  -- What was met so far is what the run has come to the state by.
  suffices rest : ∀ (met : List α) s, met.foldlM step start = .ok s → ((∃ s', items.foldlM step s = .ok s') ↔
      (∀ a ∈ items, good a ∧ ∀ b ∈ met, fits b a) ∧ items.Pairwise fits) by
    simpa using rest [] start rfl
  induction items with
  | nil => simp [pure,Except.pure]
  | cons a items ih =>
    intro met s run
    have extend {next : σ} (first : step s a = .ok next) : (met ++ [a]).foldlM step start = .ok next := by
      rw [List.foldlM_append,bind_eq_ok_iff]
      refine ⟨s,run,?_⟩
      rw [List.foldlM_cons,bind_eq_ok_iff]
      exact ⟨next,first,rfl⟩
    simp only [List.foldlM_cons,bind_eq_ok_iff,List.forall_mem_cons,List.pairwise_cons]
    constructor
    · intro ⟨s',next,first,later⟩
      obtain ⟨others,apart⟩ := (ih (met ++ [a]) next (extend first)).1 ⟨s',later⟩
      refine ⟨⟨(succeeds met s a run).1 ⟨next,first⟩,fun b mem => ?_⟩,fun b mem => ?_,apart⟩
      · exact ⟨(others b mem).1,fun c before => (others b mem).2 c (List.mem_append_left _ before)⟩
      · exact (others b mem).2 a (by simp)
    · intro ⟨⟨here,others⟩,fitsOthers,apart⟩
      obtain ⟨next,first⟩ := (succeeds met s a run).2 here
      have both : ∀ b ∈ items, good b ∧ ∀ c ∈ met ++ [a], fits c b := by
        intro b mem
        refine ⟨(others b mem).1,fun c before => ?_⟩
        rcases List.mem_append.1 before with before | last
        · exact (others b mem).2 c before
        · obtain rfl := List.mem_singleton.1 last
          exact fitsOthers b mem
      obtain ⟨s',later⟩ := (ih (met ++ [a]) next (extend first)).2 ⟨both,apart⟩
      exact ⟨s',next,first,later⟩

namespace Builder
variable {packages : OrderedMap UInt8 String} {imported : Names} {pending : List Pending} {item : Pending}

/-! ## Packages -/

theorem declarePackages_ok_iff {packages : List (UInt8 × String)} :
    (∃ declared, declarePackages packages = .ok declared) ↔ packages.Pairwise fun p q => p.1 ≠ q.1 := by
  have succeeds (met : List (UInt8 × String)) (declared : OrderedMap UInt8 String) (p : UInt8 × String)
      (run : declarePackages met = .ok declared) :
      (∃ declared', (if declared.contains p.1 then .error (.duplicatePackage p.1)
        else .ok (declared.insert p.1 p.2)) = Except.ok (ε := TableError) declared') ↔
          True ∧ ∀ q ∈ met, q.1 ≠ p.1 := by
    have known : declared.contains p.1 ↔ ∃ q ∈ met, q.1 = p.1 := by
      simp [OrderedMap.contains,Option.isSome_iff_exists,declarePackages_ok run]
    split
    next here =>
      obtain ⟨q,mem,same⟩ := known.1 here
      refine iff_of_false ?_ fun fits => fits.2 q mem same
      rintro ⟨_,run⟩
      cases run
    next absent => exact iff_of_true ⟨_,rfl⟩ ⟨trivial,fun q mem same => absent (known.2 ⟨q,mem,same⟩)⟩
  exact (foldlM_ok_iff succeeds).trans (by simp)

/-! ## Declared names -/

section
variable (packages) (imported)

/-- The names of definitions, the last ones first, in front of those that are imported. -/
def namesOf (pending : List Pending) : Names :=
  (pending.filterMap fun item => (fullName packages item).toOption.map fun name => (name,item.id)).reverse ++ imported

/-- The id that a name stands for: the one of the last definition of this name, or an imported one. -/
def StandsFor (pending : List Pending) (name : ResourceName) (id : ResourceId) : Prop :=
  (namesOf packages imported pending).lookup name = some id

/-- Whether two definitions name their types and their entries alike where these are the same. -/
def NamedAlike (item item' : Pending) : Prop :=
  ∀ name name', fullName packages item = .ok name → fullName packages item' = .ok name' →
    (item.id.package = item'.id.package → item.id.type = item'.id.type → name.type = name'.type) ∧
      (item.id = item'.id → name.entry = name'.entry)

end

theorem names_of_run {met : List Pending} {d : Declared}
    (run : met.foldlM (declare packages) { names := imported } = .ok d) : d.names = namesOf packages imported met := by
  have follows (met : List Pending) (d : Declared) (item : Pending) (d' : Declared)
      (names : d.names = namesOf packages imported met) (run : declare packages d item = .ok d') :
      d'.names = namesOf packages imported (met ++ [item]) := by
    obtain ⟨name,named,_,_,rfl⟩ := declare_ok run
    simp [namesOf,names,named,Except.toOption]
  exact foldlM_follows follows rfl run

theorem Declared.typeName?_eq_some {d : Declared} {id : ResourceId} {type : String}
    (found : d.typeName? id = some type) : ∃ id' e, d.entries.get? id' = some e ∧ id'.package = id.package ∧
      id'.type = id.type ∧ e.name.type = type := by
  obtain ⟨e,first,rfl⟩ := Option.map_eq_some_iff.1 found
  have here := List.find?_some first
  simp only [decide_eq_true_eq] at here
  exact ⟨e.1,e.2,OrderedMap.get?_eq_some.2 (List.mem_of_find?_eq_some first),here.1,here.2,rfl⟩

/-- A definition is declared if its name can be read and agrees with all before it. -/
theorem declare_ok_iff {met : List Pending} {d : Declared} (covers : d.Covers packages imported met) :
    (∃ d', declare packages d item = .ok d') ↔
      (∃ name, fullName packages item = .ok name) ∧ ∀ other ∈ met, NamedAlike packages other item := by
  constructor
  · intro ⟨d',run⟩
    obtain ⟨name,named,sameType,sameEntry,_⟩ := declare_ok run
    refine ⟨⟨name,named⟩,fun other mem first second isFirst isSecond => ?_⟩
    obtain rfl := Except.ok.inj (named.symm.trans isSecond)
    obtain ⟨e,found,isNamed⟩ := covers.named other mem
    obtain rfl := Except.ok.inj (isNamed.symm.trans isFirst)
    refine ⟨fun samePackage type => ?_,fun same => ?_⟩
    · exact sameType e.name.type (covers.typeName?_eq found samePackage type)
    · exact sameEntry e (same ▸ found)
  · intro ⟨⟨name,named⟩,alike⟩
    -- Whatever has been declared under an id is the name of a definition before.
    have declared {id : ResourceId} {e : Entry} (found : d.entries.get? id = some e) :
        ∃ other ∈ met, other.id = id ∧ fullName packages other = .ok e.name := by
      obtain ⟨other,mem,rfl⟩ := covers.pushed id e found
      obtain ⟨e',found',isNamed⟩ := covers.named other mem
      obtain rfl := Option.some.inj (found'.symm.trans found)
      exact ⟨other,mem,rfl,isNamed⟩
    have sameType : agree item.id (d.typeName? item.id) name.type = .ok () := by
      refine agree_ok_iff.2 fun type found => ?_
      obtain ⟨id,e,isEntry,samePackage,type,rfl⟩ := Declared.typeName?_eq_some found
      obtain ⟨other,mem,rfl,isNamed⟩ := declared isEntry
      exact (alike other mem e.name name isNamed named).1 samePackage type
    have sameEntry : agree item.id ((d.entries.get? item.id).map (·.name.entry)) name.entry = .ok () := by
      refine agree_ok_iff.2 fun entry found => ?_
      obtain ⟨e,isEntry,rfl⟩ := Option.map_eq_some_iff.1 found
      obtain ⟨other,mem,same,isNamed⟩ := declared isEntry
      exact (alike other mem e.name name isNamed named).2 same
    refine exists_bind_eq_ok_iff.2 ⟨name,named,exists_bind_eq_ok_iff.2 ⟨(),sameType,?_⟩⟩
    exact exists_bind_eq_ok_iff.2 ⟨(),sameEntry,_,rfl⟩

/-- The first pass succeeds if all names can be read and any two agree. -/
theorem declareAll_ok_iff : (∃ d, pending.foldlM (declare packages) { names := imported } = .ok d) ↔
    (∀ item ∈ pending, ∃ name, fullName packages item = .ok name) ∧ pending.Pairwise (NamedAlike packages) :=
  foldlM_ok_iff fun _ _ _ run => declare_ok_iff (covers_of_run run)

/-! ## Contents -/

section
variable (gives : ResourceName → ResourceId → Prop) (package : String)

/-- Whether a literal has a value: a name has one if it stands for something. -/
def Resolves : Literal → Prop
  | .value _ => True
  | .string _ => True
  | .name text isAttribute => ∃ id, Refers gives package (if isAttribute then "attr" else "") text id

/-- Whether the key of a bag's entry has an id. -/
def ResolvesKey : BagKey → Prop
  | .id _ => True
  | .name text => ∃ id, Refers gives package "attr" text id
  | .position => True

/-- Whether all that a definition refers to can be found. -/
def ResolvesContent : PendingContent → Prop
  | .value literal => Resolves gives package literal
  | .bag parent entries => (∀ literal ∈ parent, Resolves gives package literal) ∧
      ∀ e ∈ entries, ResolvesKey gives package e.1 ∧ Resolves gives package e.2

end

section
variable {gives : ResourceName → ResourceId → Prop} {names : Names} {package : String} {pool : StringPool}
  (resolves : ∀ name id, names.lookup name = some id ↔ gives name id)
include resolves

theorem lookUp_ok_iff {text defaultType : String} {id : ResourceId} :
    lookUp names package text defaultType = .ok id ↔ Refers gives package defaultType text id := by
  constructor
  · exact refers_of_lookUp fun name id => (resolves name id).1
  · intro ⟨parts,read,given⟩
    refine bind_eq_ok_iff.2 ⟨parts,read,?_⟩
    rw [(resolves _ _).2 given]
    rfl

theorem encode_ok_iff {literal : Literal} :
    (∃ r, encode names package pool literal = .ok r) ↔ Resolves gives package literal := by
  cases literal with
  | value v => exact iff_of_true ⟨_,rfl⟩ trivial
  | string s => exact iff_of_true ⟨_,rfl⟩ trivial
  | name text isAttribute =>
    cases isAttribute <;>
      exact exists_map_eq_ok_iff.trans (exists_congr fun id => lookUp_ok_iff resolves)

theorem encodeEntries_ok_iff {entries : List (BagKey × Literal)} {before : Nat} :
    (∃ r, encodeEntries names package before pool entries = .ok r) ↔
      ∀ e ∈ entries, ResolvesKey gives package e.1 ∧ Resolves gives package e.2 := by
  induction entries generalizing before pool with
  | nil => simp [encodeEntries]
  | cons entry rest ih =>
    obtain ⟨key,literal⟩ := entry
    -- Once there is a key, the literal decides, and then the other entries.
    have step (k : UInt32) (after : Nat) :
        (∃ r, (encode names package pool literal >>= fun first =>
          encodeEntries names package after first.2 rest >>= fun others =>
            .ok ((k,first.1) :: others.1,others.2)) = .ok r) ↔
          Resolves gives package literal ∧ ∀ e ∈ rest, ResolvesKey gives package e.1 ∧ Resolves gives package e.2 := by
      simp only [exists_bind_eq_ok_iff]
      constructor
      · intro ⟨first,encoded,others,later,_⟩
        exact ⟨(encode_ok_iff resolves).1 ⟨first,encoded⟩,ih.1 ⟨others,later⟩⟩
      · intro ⟨first,others⟩
        obtain ⟨r,encoded⟩ := (encode_ok_iff resolves).2 first
        obtain ⟨others,later⟩ := ih.2 others
        exact ⟨r,encoded,others,later,_,rfl⟩
    rw [List.forall_mem_cons,and_assoc]
    cases key with
    | id id => exact (step id before).trans (true_and _).to_iff.symm
    | name text =>
      have found : (∃ k, lookUp names package text "attr" = .ok k) ↔ ResolvesKey gives package (.name text) :=
        exists_congr fun k => lookUp_ok_iff resolves
      rw [← found]
      constructor
      · intro run
        obtain ⟨k,isKey,run⟩ := exists_bind_eq_ok_iff.1 run
        exact ⟨⟨k,isKey⟩,(step k before).1 run⟩
      · intro ⟨⟨k,isKey⟩,others⟩
        exact exists_bind_eq_ok_iff.2 ⟨k,isKey,(step k before).2 others⟩
    | position => exact (step _ (before + 1)).trans (true_and _).to_iff.symm

theorem encodeContent_ok_iff {content : PendingContent} :
    (∃ r, encodeContent names package pool content = .ok r) ↔ ResolvesContent gives package content := by
  cases content with
  | value literal => exact exists_map_eq_ok_iff.trans (encode_ok_iff resolves)
  | bag parent entries =>
    have isParent : (∃ r, encodeParent names package pool parent = .ok r) ↔
        ∀ literal ∈ parent, Resolves gives package literal := by
      cases parent with
      | none => simp [encodeParent]
      | some literal => exact (exists_map_eq_ok_iff.trans (encode_ok_iff resolves)).trans (by simp)
    simp only [ResolvesContent,← isParent]
    constructor
    · intro run
      obtain ⟨first,encoded,run⟩ := exists_bind_eq_ok_iff.1 run
      obtain ⟨others,later,_⟩ := exists_bind_eq_ok_iff.1 run
      exact ⟨⟨first,encoded⟩,(encodeEntries_ok_iff resolves).1 ⟨others,later⟩⟩
    · intro ⟨⟨first,encoded⟩,resolved⟩
      obtain ⟨others,later⟩ : ∃ r, encodeEntries names package 0 first.2 entries = .ok r :=
        (encodeEntries_ok_iff resolves).2 resolved
      exact exists_bind_eq_ok_iff.2 ⟨first,encoded,exists_bind_eq_ok_iff.2 ⟨others,later,_,rfl⟩⟩

omit resolves in
theorem Filled.configurations {t : Table} {met : List Pending} (filled : Filled gives met t) {id : ResourceId} {e : Entry}
    (found : t.entry? id = some e) : e.definitions.map Definition.configuration =
      (met.filter fun item => item.id = id).map Pending.configuration := by
  have same : List.Forall₂ (· = ·) ((met.filter fun item => item.id = id).map Pending.configuration)
      (e.definitions.map Definition.configuration) := by
    rw [List.forall₂_map_left_iff,List.forall₂_map_right_iff]
    exact (filled.stored id e found).imp fun _ _ stores => stores.configuration.symm
  rw [List.forall₂_eq_eq_eq] at same
  exact same.symm

/-- A definition is added if its id is declared, all that it refers to is found, and its id has no definition for its
    configuration. -/
theorem define_ok_iff {t : Table} {met : List Pending} (filled : Filled gives met t) :
    (∃ t', define names t item = .ok t') ↔
      ((t.entry? item.id).isSome ∧ ResolvesContent gives ((t.packages.get? item.id.package).getD "") item.content) ∧
        ∀ other ∈ met, other.id = item.id → other.configuration ≠ item.configuration := by
  have encodes (package : String) : (∃ r, encodeContent names package t.strings item.content = .ok r) ↔
      ResolvesContent gives package item.content := encodeContent_ok_iff resolves
  rw [← encodes]
  constructor
  · intro ⟨t',run⟩
    obtain ⟨e,content,strings,isEntry,encoded,fresh,_⟩ := define_ok run
    have declared : t.entry? item.id = some e := isEntry
    refine ⟨⟨by rw [declared]; rfl,_,encoded⟩,fun other mem sameId same => ?_⟩
    have taken : item.configuration ∈ e.definitions.map Definition.configuration := by
      rw [filled.configurations declared,← same]
      exact List.mem_map_of_mem (List.mem_filter.2 ⟨mem,by simpa using sameId⟩)
    obtain ⟨d,mem,same⟩ := List.mem_map.1 taken
    exact fresh d mem same
  · intro ⟨⟨declared,first,encoded⟩,fresh⟩
    obtain ⟨e,isEntry⟩ := Option.isSome_iff_exists.1 declared
    have isEntry' : t.entries.get? item.id = some e := isEntry
    have free : ¬ e.definitions.any (·.configuration = item.configuration) := by
      rw [List.any_eq_true]
      intro ⟨d,mem,same⟩
      have taken := List.mem_map_of_mem (f := Definition.configuration) mem
      rw [filled.configurations isEntry,of_decide_eq_true same] at taken
      obtain ⟨other,mem,same⟩ := List.mem_map.1 taken
      obtain ⟨mem,sameId⟩ := List.mem_filter.1 mem
      exact fresh other mem (of_decide_eq_true sameId) same
    refine exists_bind_eq_ok_iff.2 ⟨first,encoded,?_⟩
    simp only [isEntry']
    rw [if_neg free]
    exact ⟨_,rfl⟩

end

/-! ## Both passes -/

/-- What a table can be built of: definitions whose names can be read and agree, and that refer to what there is, one for
    each id and configuration. -/
structure Buildable (packages : OrderedMap UInt8 String) (imported : Names) (pending : List Pending) : Prop where
  named : ∀ item ∈ pending, ∃ name, fullName packages item = .ok name
  alike : pending.Pairwise (NamedAlike packages)
  resolved : ∀ item ∈ pending, ResolvesContent (StandsFor packages imported pending)
    ((packages.get? item.id.package).getD "") item.content
  apart : pending.Pairwise fun item item' => item.id = item'.id → item.configuration ≠ item'.configuration

/-- What has been stored of the definitions that were met, after the names of all have been declared. -/
theorem filled_of_run {declared : Declared} (first : pending.foldlM (declare packages) { names := imported } = .ok declared)
    {met : List Pending} {t : Table}
    (run : met.foldlM (define declared.names) { packages, entries := declared.entries } = .ok t) :
    Filled (StandsFor packages imported pending) met t ∧ t.packages = packages ∧
      ∀ id, t.name? id = (declared.entries.get? id).map Entry.name := by
  have known : declared.Known packages := foldlM_keeps (fun _ _ _ => declare_known) (by simp [Declared.Known]) first
  have resolves (name : ResourceName) (id : ResourceId) (found : declared.names.lookup name = some id) :
      StandsFor packages imported pending name id := by
    rwa [names_of_run first] at found
  have start : Filled (StandsFor packages imported pending) [] { packages, entries := declared.entries } :=
    ⟨known.wellFormed,fun id e found => by rw [(known id e found).2]; exact .nil⟩
  exact ⟨foldlM_follows (fun _ _ _ _ => define_filled resolves) start run,defineAll_names run⟩

/-- The second pass succeeds if all that is referred to is found, and no id has two definitions for one configuration. -/
theorem defineAll_ok_iff {declared : Declared}
    (first : pending.foldlM (declare packages) { names := imported } = .ok declared) :
    (∃ t, pending.foldlM (define declared.names) { packages, entries := declared.entries } = .ok t) ↔
      (∀ item ∈ pending, ResolvesContent (StandsFor packages imported pending)
        ((packages.get? item.id.package).getD "") item.content) ∧
      pending.Pairwise fun item item' => item.id = item'.id → item.configuration ≠ item'.configuration := by
  have resolves (name : ResourceName) (id : ResourceId) :
      declared.names.lookup name = some id ↔ StandsFor packages imported pending name id := by
    rw [names_of_run first]
    rfl
  have succeeds (met : List Pending) (t : Table) (item : Pending)
      (run : met.foldlM (define declared.names) { packages, entries := declared.entries } = .ok t) :
      (∃ t', define declared.names t item = .ok t') ↔
        ((declared.entries.get? item.id).isSome ∧
          ResolvesContent (StandsFor packages imported pending) ((packages.get? item.id.package).getD "") item.content) ∧
        ∀ other ∈ met, other.id = item.id → other.configuration ≠ item.configuration := by
    obtain ⟨filled,samePackages,names⟩ := filled_of_run first run
    have sameEntries := congrArg Option.isSome (names item.id)
    simp only [Table.name?,Option.isSome_map] at sameEntries
    rw [define_ok_iff resolves filled,samePackages,sameEntries]
  have declaredAll : ∀ item ∈ pending, (declared.entries.get? item.id).isSome := by
    intro item mem
    obtain ⟨e,found,_⟩ := (covers_of_run first).named item mem
    rw [found]
    rfl
  refine (foldlM_ok_iff succeeds).trans (and_congr_left' (forall₂_congr fun item mem => ?_))
  exact and_iff_right (declaredAll item mem)

theorem tableOf_ok_iff {packages : List (UInt8 × String)} : (∃ t, tableOf imported packages pending = .ok t) ↔
    ∃ declared, declarePackages packages = .ok declared ∧ Buildable declared imported pending := by
  refine exists_bind_eq_ok_iff.trans (exists_congr fun declared => and_congr_right fun _ => ?_)
  refine exists_bind_eq_ok_iff.trans ?_
  constructor
  · intro ⟨names,first,second⟩
    obtain ⟨named,alike⟩ := declareAll_ok_iff.1 ⟨names,first⟩
    obtain ⟨resolved,apart⟩ := (defineAll_ok_iff first).1 second
    exact ⟨named,alike,resolved,apart⟩
  · intro ⟨named,alike,resolved,apart⟩
    obtain ⟨names,first⟩ := declareAll_ok_iff.2 ⟨named,alike⟩
    exact ⟨names,first,(defineAll_ok_iff first).2 ⟨resolved,apart⟩⟩

/-- A table that is built has the packages and the names that were declared, and holds all definitions. -/
theorem tableOf_filled {packages : List (UInt8 × String)} {t : Table} (built : tableOf imported packages pending = .ok t) :
    declarePackages packages = .ok t.packages ∧ Filled (StandsFor t.packages imported pending) pending t ∧
      ∀ id name, t.name? id = some name ↔ ∃ item ∈ pending, item.id = id ∧ fullName t.packages item = .ok name := by
  obtain ⟨declared,declaredPackages,built⟩ := bind_eq_ok_iff.1 built
  obtain ⟨names,first,second⟩ := bind_eq_ok_iff.1 built
  obtain ⟨filled,rfl,sameNames⟩ := filled_of_run first second
  have covers := covers_of_run first
  refine ⟨declaredPackages,filled,fun id name => ?_⟩
  rw [sameNames,Option.map_eq_some_iff]
  constructor
  · intro ⟨e,found,isName⟩
    obtain ⟨item,mem,rfl⟩ := covers.pushed id e found
    obtain ⟨e',found',named⟩ := covers.named item mem
    obtain rfl := Option.some.inj (found.symm.trans found')
    exact ⟨item,mem,rfl,isName ▸ named⟩
  · intro ⟨item,mem,same,named⟩
    subst same
    obtain ⟨e,found,named'⟩ := covers.named item mem
    exact ⟨e,found,Except.ok.inj (named'.symm.trans named)⟩

end Builder

end AndroidResources
