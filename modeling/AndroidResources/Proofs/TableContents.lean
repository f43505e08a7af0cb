import Mathlib.Data.List.Forall2
import AndroidResources.Proofs.DeclaredNames

/-!
# What tables hold

A builder collects what requests ask for (`Builder.Collects`), and the table that it makes holds just that
(`Builder.build_calls`): under each id the definitions that were collected for it, in their order, with their literals
as they were read (`Builder.Stores`). Strings stay at their positions as the pool grows, so that what one definition has
stored is still there after all others (`Builder.define_filled`).
-/
namespace AndroidResources

/-! ## Strings -/

namespace StringPool
variable {pool pool' : StringPool} {s : String} {position : UInt32}

/-- Whether a pool has a string at a position. Positions are kept in 32 bits, which are enough to find the string again
    unless there are more strings than that. -/
def Holds (pool : StringPool) (s : String) (position : UInt32) : Prop :=
  ∃ n, pool.strings[n]? = some s ∧ position = .ofNat n ∧ (pool.size ≤ UInt32.size → pool.get? position = some s)

theorem holds_ofNat {n : Nat} (here : pool.strings[n]? = some s) : pool.Holds s (.ofNat n) := by
  refine ⟨n,here,rfl,fun room => ?_⟩
  obtain ⟨inside,_⟩ := List.getElem?_eq_some_iff.1 here
  have small : n < UInt32.size := Nat.lt_of_lt_of_le inside room
  rw [get?,UInt32.toNat_ofNat_of_lt' small,here]

theorem Holds.mono (held : pool.Holds s position) (grown : pool.strings <+: pool'.strings) : pool'.Holds s position := by
  obtain ⟨n,here,rfl,_⟩ := held
  obtain ⟨more,grown⟩ := grown
  obtain ⟨inside,_⟩ := List.getElem?_eq_some_iff.1 here
  refine holds_ofNat ?_
  rw [← grown,List.getElem?_append_left inside,here]

theorem intern_grows (pool : StringPool) (s : String) : pool.strings <+: (pool.intern s).2.strings := by
  unfold intern
  split
  · exact List.prefix_rfl
  · exact List.prefix_append _ _

theorem holds_intern (pool : StringPool) (s : String) : (pool.intern s).2.Holds s (pool.intern s).1 := by
  unfold intern
  split
  next n found =>
    obtain ⟨inside,same,_⟩ := List.findIdx?_eq_some_iff_getElem.1 found
    refine holds_ofNat ?_
    rw [List.getElem?_eq_getElem inside,eq_of_beq same]
  next => exact holds_ofNat (by simp)

end StringPool

namespace Builder

/-! ## What is stored -/

section
variable (gives : ResourceName → ResourceId → Prop) (pool : StringPool) (package : String)

/-- Whether a name within a package stands for an id. -/
def Refers (defaultType text : String) (id : ResourceId) : Prop :=
  ∃ parts, NameParts.ofText text = .ok parts ∧
    gives ⟨parts.package.getD package,parts.type.getD defaultType,parts.entry⟩ id

/-- How a literal is stored. -/
inductive Stores : Literal → Value → Prop
  | value (v : Value) : Stores (.value v) v
  | string {s : String} {position : UInt32} : pool.Holds s position → Stores (.string s) ⟨.string,position⟩
  | themeAttribute {text : String} {id : ResourceId} : Refers gives package "attr" text id →
      Stores (.name text true) (.themeAttribute id)
  | reference {text : String} {id : ResourceId} : Refers gives package "" text id →
      Stores (.name text false) (.reference id)

/-- How the key of a bag's entry is stored that has some positions before it. -/
def StoresKey (before : Nat) : BagKey → UInt32 → Prop
  | .id id, key => key = id
  | .name text, key => Refers gives package "attr" text key
  | .position, key => key = ResourceId.arrayBase + .ofNat before

/-- How the entries of a bag are stored: each one in its place, positions being counted from `before`. -/
structure StoresEntries (before : Nat) (entries : List (BagKey × Literal)) (stored : List (UInt32 × Value)) : Prop where
  length : stored.length = entries.length
  entry : ∀ i key literal k v, entries[i]? = some (key,literal) → stored[i]? = some (k,v) →
    StoresKey gives package (before + (entries.take i).countP fun e => e.1 = .position) key k ∧
      Stores gives pool package literal v

/-- How the parent of a bag is stored. -/
def StoresParent : Option Literal → ResourceId → Prop
  | none, id => id = 0
  | some literal, id => ∃ v, Stores gives pool package literal v ∧ id = v.data

/-- How the content of a definition is stored. -/
inductive StoresContent : PendingContent → Content → Prop
  | value {literal : Literal} {v : Value} : Stores gives pool package literal v → StoresContent (.value literal) (.value v)
  | bag {parent : Option Literal} {id : ResourceId} {entries : List (BagKey × Literal)} {stored : List (UInt32 × Value)} :
      StoresParent gives pool package parent id → StoresEntries gives pool package 0 entries stored →
      StoresContent (.bag parent entries) (.bag id stored)

end

/-- How a definition is stored in a table. -/
structure StoresDefinition (gives : ResourceName → ResourceId → Prop) (t : Table) (item : Pending) (d : Definition) :
    Prop where
  configuration : d.configuration = item.configuration
  content : ∃ package, t.packages.get? item.id.package = some package ∧
    StoresContent gives t.strings package item.content d.content

/-- Whether the definitions of a table are those that were met, under each id in their order. -/
structure Filled (gives : ResourceName → ResourceId → Prop) (met : List Pending) (t : Table) : Prop where
  wellFormed : t.WellFormed
  stored : ∀ id e, t.entry? id = some e →
    List.Forall₂ (StoresDefinition gives t) (met.filter fun item => item.id = id) e.definitions

theorem StoresEntries.cons {gives : ResourceName → ResourceId → Prop} {pool : StringPool} {package : String}
    {before after : Nat} {key : BagKey} {literal : Literal} {k : UInt32} {v : Value} {rest : List (BagKey × Literal)}
    {stored : List (UInt32 × Value)} (stores : StoresEntries gives pool package after rest stored)
    (isKey : StoresKey gives package before key k) (first : Stores gives pool package literal v)
    (counted : after = before + if key = .position then 1 else 0) :
    StoresEntries gives pool package before ((key,literal) :: rest) ((k,v) :: stored) := by
  refine ⟨by simp [stores.length],fun i key' literal' k' v' written here => ?_⟩
  cases i with
  | zero =>
    obtain ⟨rfl,rfl⟩ := Prod.mk.inj (Option.some.inj written)
    obtain ⟨rfl,rfl⟩ := Prod.mk.inj (Option.some.inj here)
    exact ⟨isKey,first⟩
  | succ i =>
    have others := stores.entry i key' literal' k' v' written here
    have count : before + (((key,literal) :: rest).take (i + 1)).countP (fun e => e.1 = .position) =
        after + (rest.take i).countP fun e => e.1 = .position := by
      rw [List.take_succ_cons,List.countP_cons,counted]
      simp only [decide_eq_true_eq]
      omega
    rw [count]
    exact others

section
variable {gives : ResourceName → ResourceId → Prop} {pool pool' : StringPool} {package : String}
  (grown : pool.strings <+: pool'.strings)
include grown

theorem Stores.mono {literal : Literal} {v : Value} (stores : Stores gives pool package literal v) :
    Stores gives pool' package literal v := by
  cases stores with
  | value v => exact .value v
  | string held => exact .string (held.mono grown)
  | themeAttribute refers => exact .themeAttribute refers
  | reference refers => exact .reference refers

theorem StoresEntries.mono {before : Nat} {entries : List (BagKey × Literal)} {stored : List (UInt32 × Value)}
    (stores : StoresEntries gives pool package before entries stored) :
    StoresEntries gives pool' package before entries stored where
  length := stores.length
  entry i key literal k v written here :=
    have both := stores.entry i key literal k v written here
    ⟨both.1,both.2.mono grown⟩

theorem StoresParent.mono {parent : Option Literal} {id : ResourceId} (stores : StoresParent gives pool package parent id) :
    StoresParent gives pool' package parent id := by
  cases parent with
  | none => exact stores
  | some literal =>
    obtain ⟨v,stores,same⟩ := stores
    exact ⟨v,stores.mono grown,same⟩

theorem StoresContent.mono {content : PendingContent} {stored : Content}
    (stores : StoresContent gives pool package content stored) : StoresContent gives pool' package content stored := by
  cases stores with
  | value stores => exact .value (stores.mono grown)
  | bag parent entries => exact .bag (parent.mono grown) (entries.mono grown)

omit grown in
theorem StoresDefinition.mono {t t' : Table} {item : Pending} {d : Definition} (stores : StoresDefinition gives t item d)
    (packages : t'.packages = t.packages) (grown : t.strings.strings <+: t'.strings.strings) :
    StoresDefinition gives t' item d := by
  obtain ⟨configuration,package,isPackage,content⟩ := stores
  exact ⟨configuration,package,packages ▸ isPackage,content.mono grown⟩

end

/-! ## Second pass -/

section
variable {gives : ResourceName → ResourceId → Prop} {names : Names} {package : String} {pool pool' : StringPool}
  (resolves : ∀ name id, names.lookup name = some id → gives name id)
include resolves

theorem refers_of_lookUp {text defaultType : String} {id : ResourceId}
    (found : lookUp names package text defaultType = .ok id) : Refers gives package defaultType text id := by
  obtain ⟨parts,read,found⟩ := bind_eq_ok_iff.1 found
  split at found
  next id' isNamed =>
    obtain rfl := Except.ok.inj found
    exact ⟨parts,read,resolves _ _ isNamed⟩
  next => cases found

theorem encode_stores {literal : Literal} {v : Value} (run : encode names package pool literal = .ok (v,pool')) :
    pool.strings <+: pool'.strings ∧ Stores gives pool' package literal v := by
  cases literal with
  | value w =>
    obtain ⟨rfl,rfl⟩ := Prod.mk.inj (Except.ok.inj run)
    exact ⟨List.prefix_rfl,.value w⟩
  | string s =>
    obtain ⟨rfl,rfl⟩ := Prod.mk.inj (Except.ok.inj run)
    exact ⟨pool.intern_grows s,.string (pool.holds_intern s)⟩
  | name text isAttribute =>
    cases isAttribute with
    | true =>
      obtain ⟨id,found,same⟩ := map_eq_ok_iff.1 run
      obtain ⟨rfl,rfl⟩ := Prod.mk.inj same
      exact ⟨List.prefix_rfl,.themeAttribute (refers_of_lookUp resolves found)⟩
    | false =>
      obtain ⟨id,found,same⟩ := map_eq_ok_iff.1 run
      obtain ⟨rfl,rfl⟩ := Prod.mk.inj same
      exact ⟨List.prefix_rfl,.reference (refers_of_lookUp resolves found)⟩

theorem encodeEntries_stores {before : Nat} {entries : List (BagKey × Literal)} {stored : List (UInt32 × Value)}
    (run : encodeEntries names package before pool entries = .ok (stored,pool')) :
    pool.strings <+: pool'.strings ∧ StoresEntries gives pool' package before entries stored := by
  induction entries generalizing before pool stored with
  | nil =>
    obtain ⟨rfl,rfl⟩ := Prod.mk.inj (Except.ok.inj run)
    exact ⟨List.prefix_rfl,rfl,fun i key literal k v written => by simp at written⟩
  | cons entry rest ih =>
    obtain ⟨key,literal⟩ := entry
    -- Whatever the key is, the literal is encoded after it, and then the other entries.
    have step (k : UInt32) (after : Nat) (isKey : StoresKey gives package before key k)
        (counted : after = before + if key = .position then 1 else 0)
        (run : (encode names package pool literal >>= fun first =>
          encodeEntries names package after first.2 rest >>= fun others =>
            .ok ((k,first.1) :: others.1,others.2)) = .ok (stored,pool')) :
        pool.strings <+: pool'.strings ∧ StoresEntries gives pool' package before ((key,literal) :: rest) stored := by
      obtain ⟨⟨v,pool₁⟩,first,run⟩ := bind_eq_ok_iff.1 run
      obtain ⟨⟨others,pool₂⟩,later,run⟩ := bind_eq_ok_iff.1 run
      obtain ⟨rfl,rfl⟩ := Prod.mk.inj (Except.ok.inj run)
      obtain ⟨grown,storesFirst⟩ := encode_stores resolves first
      obtain ⟨grown',storesOthers⟩ := ih later
      exact ⟨grown.trans grown',storesOthers.cons isKey (storesFirst.mono grown') counted⟩
    cases key with
    | id id => exact step id before rfl (by simp) run
    | name text =>
      obtain ⟨k,found,run⟩ := bind_eq_ok_iff.1 run
      exact step k before (refers_of_lookUp resolves found) (by simp) run
    | position => exact step _ (before + 1) rfl (by simp) run

theorem encodeParent_stores {parent : Option Literal} {id : ResourceId}
    (run : encodeParent names package pool parent = .ok (id,pool')) :
    pool.strings <+: pool'.strings ∧ StoresParent gives pool' package parent id := by
  cases parent with
  | none =>
    obtain ⟨rfl,rfl⟩ := Prod.mk.inj (Except.ok.inj run)
    exact ⟨List.prefix_rfl,rfl⟩
  | some literal =>
    obtain ⟨⟨v,_⟩,encoded,same⟩ := map_eq_ok_iff.1 run
    obtain ⟨rfl,rfl⟩ := Prod.mk.inj same
    obtain ⟨grown,stores⟩ := encode_stores resolves encoded
    exact ⟨grown,v,stores,rfl⟩

theorem encodeContent_stores {content : PendingContent} {stored : Content}
    (run : encodeContent names package pool content = .ok (stored,pool')) :
    pool.strings <+: pool'.strings ∧ StoresContent gives pool' package content stored := by
  cases content with
  | value literal =>
    obtain ⟨⟨v,_⟩,encoded,same⟩ := map_eq_ok_iff.1 run
    obtain ⟨rfl,rfl⟩ := Prod.mk.inj same
    obtain ⟨grown,stores⟩ := encode_stores resolves encoded
    exact ⟨grown,.value stores⟩
  | bag parent entries =>
    obtain ⟨⟨id,pool₁⟩,first,run⟩ := bind_eq_ok_iff.1 run
    obtain ⟨⟨stored,pool₂⟩,later,run⟩ := bind_eq_ok_iff.1 run
    obtain ⟨rfl,rfl⟩ := Prod.mk.inj (Except.ok.inj run)
    obtain ⟨grown,storesParent⟩ := encodeParent_stores resolves first
    obtain ⟨grown',storesEntries⟩ := encodeEntries_stores resolves later
    exact ⟨grown.trans grown',.bag (storesParent.mono grown') storesEntries⟩

/-- A definition is stored behind those that its id has, and the others stay as they are. -/
theorem define_filled {t t' : Table} {met : List Pending} {item : Pending} (filled : Filled gives met t)
    (run : define names t item = .ok t') : Filled gives (met ++ [item]) t' := by
  refine ⟨define_wellFormed filled.wellFormed run,fun id e found => ?_⟩
  obtain ⟨entry,content,strings,isEntry,encoded,_,defined⟩ := define_ok run
  obtain ⟨package,isPackage⟩ := Option.isSome_iff_exists.1 (filled.wellFormed.declared item.id entry isEntry)
  rw [isPackage,Option.getD_some] at encoded
  obtain ⟨grown,stores⟩ := encodeContent_stores resolves encoded
  have packages : t'.packages = t.packages := by rw [defined]
  have kept {item : Pending} {d : Definition} (stores : StoresDefinition gives t item d) :
      StoresDefinition gives t' item d := by
    refine stores.mono packages ?_
    rw [defined]
    exact grown
  have new : StoresDefinition gives t' item ⟨item.configuration,content⟩ := by
    refine ⟨rfl,package,by rw [packages,isPackage],?_⟩
    rw [defined]
    exact stores
  -- The definitions of other ids are the same, and find their strings in the pool that has grown.
  rw [defined,Table.entry?,OrderedMap.get?_insert] at found
  rw [List.filter_append]
  split at found
  next same =>
    obtain rfl := Option.some.inj found
    have last : [item].filter (fun other => other.id = id) = [item] := by simp [same]
    have earlier := (filled.stored item.id entry isEntry).imp fun _ _ => kept
    rw [last,same]
    exact List.rel_append earlier (.cons new .nil)
  next differ =>
    have last : [item].filter (fun other => other.id = id) = [] := by simp [Ne.symm differ]
    rw [last,List.append_nil]
    exact (filled.stored id e found).imp fun _ _ => kept

end

/-! ## Both passes -/

theorem declarePackages_ok {packages : List (UInt8 × String)} {declared : OrderedMap UInt8 String}
    (run : declarePackages packages = .ok declared) (id : UInt8) (name : String) :
    declared.get? id = some name ↔ (id,name) ∈ packages := by
  have follows (met : List (UInt8 × String)) (declared : OrderedMap UInt8 String) (p : UInt8 × String)
      (declared' : OrderedMap UInt8 String) (holds : ∀ id name, declared.get? id = some name ↔ (id,name) ∈ met)
      (step : (if declared.contains p.1 then .error (.duplicatePackage p.1) else .ok (declared.insert p.1 p.2)) =
        Except.ok (ε := TableError) declared') :
      ∀ id name, declared'.get? id = some name ↔ (id,name) ∈ met ++ [p] := by
    intro id name
    split at step
    · cases step
    next fresh =>
      obtain rfl := Except.ok.inj step
      rw [OrderedMap.get?_insert,List.mem_append,List.mem_singleton,← holds]
      by_cases same : id = p.1
      · subst same
        have absent : declared.get? p.1 = none := by simpa [OrderedMap.contains] using fresh
        simp [absent,Prod.ext_iff,eq_comm]
      · simp [same,Prod.ext_iff]
  exact foldlM_follows follows (by simp) run id name

end Builder

/-- Whether a table holds what a builder has collected, and nothing else. -/
structure Table.Holds (t : Table) (b : Builder) : Prop where
  packages : ∀ id name, t.packages.get? id = some name ↔ (id,name) ∈ b.packages
  defined : ∀ id, (t.entry? id).isSome ↔ ∃ item ∈ b.pending, item.id = id
  named : ∀ item ∈ b.pending, ∀ e, t.entry? item.id = some e → Builder.fullName t.packages item = .ok e.name
  once : ∀ id e, t.entry? id = some e → (e.definitions.map Definition.configuration).Nodup
  stored : ∀ id e, t.entry? id = some e → List.Forall₂
    (Builder.StoresDefinition (Builder.Gives t.packages b.imported b.pending) t)
    (b.pending.filter fun item => item.id = id) e.definitions

namespace Builder
variable {b : Builder} {t : Table}

theorem build_holds (built : b.build.1 = .ok t) : t.Holds b := by
  obtain ⟨declared,declaredPackages,covers,known,names,second⟩ := build_ok built
  have start : Filled (Gives t.packages b.imported b.pending) [] { packages := t.packages, entries := declared.entries } :=
    ⟨known.wellFormed,fun id e found => by rw [(known id e found).2]; exact .nil⟩
  have filled := foldlM_follows (fun _ _ _ _ => define_filled covers.gives) start second
  constructor
  case packages => exact declarePackages_ok declaredPackages
  case defined =>
    intro id
    have same := congrArg Option.isSome (names id)
    simp only [Table.name?,Option.isSome_map] at same
    rw [same]
    constructor
    · intro found
      obtain ⟨e,found⟩ := Option.isSome_iff_exists.1 found
      exact covers.pushed id e found
    · rintro ⟨item,mem,rfl⟩
      obtain ⟨e,found,_⟩ := covers.named item mem
      rw [found]
      rfl
  case named =>
    intro item mem e found
    obtain ⟨e',isDeclared,named⟩ := covers.named item mem
    have same := names item.id
    rw [Table.name?,found,isDeclared] at same
    rw [named,Option.some.inj same]
  case once => exact filled.wellFormed.once
  case stored => exact filled.stored

/-! ## Collecting -/

/-- How the parent and the entries of a bag are read. -/
structure ReadsBag (name parent : String) (entries : List (String × String)) (parent' : Option Literal)
    (entries' : List (BagKey × Literal)) : Prop where
  parent : readParent name parent = .ok parent'
  entries : List.Forall₂ (fun written e => e.1 = readKey written.1 ∧ Literal.ofText written.2 = .ok e.2) entries entries'

/-- The definitions that a request adds to those that are collected. -/
inductive Call.Adds : Call → List Pending → Prop
  | package (id : UInt8) (name : String) : Adds (.package id name) []
  | value {id : ResourceId} {name text : String} {literal : Literal} : Literal.ofText text = .ok literal →
      Adds (.value id name text) [⟨id,name,{},.value literal⟩]
  | valueFor {id : ResourceId} {name configuration text : String} {c : Configuration} {literal : Literal} :
      Literal.ofText text = .ok literal → Configuration.ofText configuration = .ok c →
      Adds (.valueFor id name configuration text) [⟨id,name,c,.value literal⟩]
  | typedValue (id : ResourceId) (name : String) (c : Configuration) (v : Value) :
      Adds (.typedValue id name c v) [⟨id,name,c,.value (.value v)⟩]
  | bag {id : ResourceId} {name parent : String} {entries : List (String × String)} {parent' : Option Literal}
      {entries' : List (BagKey × Literal)} : ReadsBag name parent entries parent' entries' →
      Adds (.bag id name parent entries) [⟨id,name,{},.bag parent' entries'⟩]
  | bagFor {id : ResourceId} {name configuration parent : String} {entries : List (String × String)}
      {c : Configuration} {parent' : Option Literal} {entries' : List (BagKey × Literal)} :
      ReadsBag name parent entries parent' entries' → Configuration.ofText configuration = .ok c →
      Adds (.bagFor id name configuration parent entries) [⟨id,name,c,.bag parent' entries'⟩]
  | array {id : ResourceId} {name : String} {items : List String} {entries : List (BagKey × Literal)} :
      List.Forall₂ (fun item e => e.1 = .position ∧ Literal.ofText item = .ok e.2) items entries →
      Adds (.array id name items) [⟨id,name,{},.bag none entries⟩]
  | importNames (t : Table) : Adds (.importNames t) []

theorem readEntries_ok {entries : List (String × String)} {entries' : List (BagKey × Literal)}
    (run : readEntries entries = .ok entries') :
    List.Forall₂ (fun written e => e.1 = readKey written.1 ∧ Literal.ofText written.2 = .ok e.2) entries entries' := by
  induction entries generalizing entries' with
  | nil =>
    obtain rfl := Except.ok.inj run
    exact .nil
  | cons entry rest ih =>
    unfold readEntries at run
    rw [List.mapM_cons] at run
    obtain ⟨e,first,run⟩ := bind_eq_ok_iff.1 run
    obtain ⟨others,later,run⟩ := bind_eq_ok_iff.1 run
    obtain rfl := Except.ok.inj run
    obtain ⟨literal,read,first⟩ := bind_eq_ok_iff.1 first
    obtain rfl := Except.ok.inj first
    exact .cons ⟨rfl,read⟩ (ih later)

theorem add_ok {read : Except TableError Pending} (unfailed : (b.add read).error = none) :
    b.error = none ∧ ∃ item, read = .ok item ∧ (b.add read).pending = b.pending ++ [item] := by
  cases read with
  | error error => simp [add,fail] at unfailed
  | ok item => exact ⟨unfailed,item,rfl,rfl⟩

theorem valueFor_ok {id : ResourceId} {name configuration text : String}
    (unfailed : (b.valueFor id name configuration text).error = none) : b.error = none ∧ ∃ literal c,
      Literal.ofText text = .ok literal ∧ Configuration.ofText configuration = .ok c ∧
      (b.valueFor id name configuration text).pending = b.pending ++ [⟨id,name,c,.value literal⟩] := by
  obtain ⟨before,item,read,added⟩ := add_ok unfailed
  obtain ⟨literal,isLiteral,read⟩ := bind_eq_ok_iff.1 read
  obtain ⟨c,isConfiguration,read⟩ := bind_eq_ok_iff.1 read
  obtain rfl := Except.ok.inj read
  exact ⟨before,literal,c,isLiteral,isConfiguration,added⟩

theorem bagFor_ok {id : ResourceId} {name configuration parent : String} {entries : List (String × String)}
    (unfailed : (b.bagFor id name configuration parent entries).error = none) : b.error = none ∧ ∃ c parent' entries',
      ReadsBag name parent entries parent' entries' ∧ Configuration.ofText configuration = .ok c ∧
      (b.bagFor id name configuration parent entries).pending =
        b.pending ++ [⟨id,name,c,.bag parent' entries'⟩] := by
  obtain ⟨before,item,read,added⟩ := add_ok unfailed
  obtain ⟨parent',isParent,read⟩ := bind_eq_ok_iff.1 read
  obtain ⟨entries',areEntries,read⟩ := bind_eq_ok_iff.1 read
  obtain ⟨c,isConfiguration,read⟩ := bind_eq_ok_iff.1 read
  obtain rfl := Except.ok.inj read
  exact ⟨before,c,parent',entries',⟨isParent,readEntries_ok areEntries⟩,isConfiguration,added⟩

/-- The configuration of what is defined without one. -/
theorem configuration_default {c : Configuration} (read : Configuration.ofText "" = .ok c) : c = {} :=
  (Except.ok.inj read).symm

/-- A request that does not fail adds its definitions, and nothing before it has failed. -/
theorem call_adds (c : Call) (unfailed : (b.call c).error = none) :
    b.error = none ∧ ∃ items, c.Adds items ∧ (b.call c).pending = b.pending ++ items := by
  cases c with
  | package id name => exact ⟨unfailed,[],.package id name,(List.append_nil _).symm⟩
  | importNames t => exact ⟨unfailed,[],.importNames t,(List.append_nil _).symm⟩
  | typedValue id name c v => exact ⟨unfailed,_,.typedValue id name c v,rfl⟩
  | value id name text =>
    obtain ⟨before,literal,c,isLiteral,isConfiguration,added⟩ := valueFor_ok unfailed
    obtain rfl := configuration_default isConfiguration
    exact ⟨before,_,.value isLiteral,added⟩
  | valueFor id name configuration text =>
    obtain ⟨before,literal,c,isLiteral,isConfiguration,added⟩ := valueFor_ok unfailed
    exact ⟨before,_,.valueFor isLiteral isConfiguration,added⟩
  | bag id name parent entries =>
    obtain ⟨before,c,parent',entries',reads,isConfiguration,added⟩ := bagFor_ok unfailed
    obtain rfl := configuration_default isConfiguration
    exact ⟨before,_,.bag reads,added⟩
  | bagFor id name configuration parent entries =>
    obtain ⟨before,c,parent',entries',reads,isConfiguration,added⟩ := bagFor_ok unfailed
    exact ⟨before,_,.bagFor reads isConfiguration,added⟩
  | array id name items =>
    obtain ⟨before,c,parent',entries',reads,isConfiguration,added⟩ := bagFor_ok unfailed
    obtain rfl := configuration_default isConfiguration
    obtain rfl : none = parent' := Except.ok.inj reads.parent
    exact ⟨before,_,.array (List.forall₂_map_left_iff.1 reads.entries),added⟩

theorem calls_adds {requests : List Call} (unfailed : (b.calls requests).error = none) :
    b.error = none ∧ ∃ added, List.Forall₂ Call.Adds requests added ∧
      (b.calls requests).pending = b.pending ++ added.flatten := by
  induction requests generalizing b with
  | nil => exact ⟨unfailed,[],.nil,by simp [calls]⟩
  | cons c rest ih =>
    obtain ⟨unfailed,added,adds,later⟩ := ih (b := b.call c) unfailed
    obtain ⟨before,items,addsFirst,first⟩ := call_adds c unfailed
    refine ⟨before,items :: added,.cons addsFirst adds,?_⟩
    rw [List.flatten_cons,← List.append_assoc,← first]
    exact later

theorem add_keeps (b : Builder) (read : Except TableError Pending) :
    (b.add read).packages = b.packages ∧ (b.add read).imported = b.imported := by
  cases read <;> exact ⟨rfl,rfl⟩

theorem mem_importNames {t : Table} {name : ResourceName} {id : ResourceId} :
    (name,id) ∈ (b.importNames t).imported ↔ (name,id) ∈ b.imported ∨ t.name? id = some name := by
  have folded (entries : List (ResourceId × Entry)) (names : Names) :
      (name,id) ∈ entries.foldl (fun names e => (e.2.name,e.1) :: names) names ↔
        (name,id) ∈ names ∨ ∃ e, (id,e) ∈ entries ∧ e.name = name := by
    induction entries generalizing names with
    | nil => simp
    | cons entry rest ih =>
      rw [List.foldl_cons,ih]
      constructor
      · rintro (mem | ⟨e,mem,same⟩)
        · rcases List.mem_cons.1 mem with same | mem
          · obtain ⟨rfl,rfl⟩ := Prod.mk.inj same
            exact .inr ⟨entry.2,List.mem_cons_self,rfl⟩
          · exact .inl mem
        · exact .inr ⟨e,List.mem_cons_of_mem _ mem,same⟩
      · rintro (mem | ⟨e,mem,rfl⟩)
        · exact .inl (List.mem_cons_of_mem _ mem)
        · rcases List.mem_cons.1 mem with rfl | mem
          · exact .inl List.mem_cons_self
          · exact .inr ⟨e,mem,rfl⟩
  rw [importNames,folded,Table.name?,Option.map_eq_some_iff]
  simp only [Table.entry?,OrderedMap.get?_eq_some]

theorem mem_call_packages (c : Call) {id : UInt8} {name : String} :
    (id,name) ∈ (b.call c).packages ↔ (id,name) ∈ b.packages ∨ c = .package id name := by
  cases c with
  | package id' name' => simp [call,package,eq_comm]
  | importNames t => simp [call,importNames]
  | typedValue | value | valueFor | bag | bagFor | array =>
    refine Iff.trans (b := (id,name) ∈ b.packages) ?_ (by simp)
    exact iff_of_eq (congrArg ((id,name) ∈ ·) (b.add_keeps _).1)

theorem mem_call_imported (c : Call) {name : ResourceName} {id : ResourceId} : (name,id) ∈ (b.call c).imported ↔
    (name,id) ∈ b.imported ∨ ∃ t, c = .importNames t ∧ t.name? id = some name := by
  cases c with
  | package id' name' => simp [call,package]
  | importNames t => simp [call,mem_importNames]
  | typedValue | value | valueFor | bag | bagFor | array =>
    refine Iff.trans (b := (name,id) ∈ b.imported) ?_ (by simp)
    exact iff_of_eq (congrArg ((name,id) ∈ ·) (b.add_keeps _).2)

/-- Whether a builder has what another one has, and then what requests ask for. -/
structure Collects (b : Builder) (requests : List Call) (b' : Builder) : Prop where
  pending : ∃ added, List.Forall₂ Call.Adds requests added ∧ b'.pending = b.pending ++ added.flatten
  packages : ∀ id name, (id,name) ∈ b'.packages ↔ (id,name) ∈ b.packages ∨ .package id name ∈ requests
  imported : ∀ name id, (name,id) ∈ b'.imported ↔
    (name,id) ∈ b.imported ∨ ∃ t, .importNames t ∈ requests ∧ t.name? id = some name

theorem mem_calls_packages {requests : List Call} {id : UInt8} {name : String} :
    (id,name) ∈ (b.calls requests).packages ↔ (id,name) ∈ b.packages ∨ .package id name ∈ requests := by
  induction requests generalizing b with
  | nil => simp [calls]
  | cons c rest ih =>
    have first := ih (b := b.call c)
    rw [mem_call_packages,or_assoc,eq_comm (a := c),← List.mem_cons] at first
    exact first

theorem mem_calls_imported {requests : List Call} {name : ResourceName} {id : ResourceId} :
    (name,id) ∈ (b.calls requests).imported ↔
      (name,id) ∈ b.imported ∨ ∃ t, .importNames t ∈ requests ∧ t.name? id = some name := by
  induction requests generalizing b with
  | nil => simp [calls]
  | cons c rest ih =>
    have first := ih (b := b.call c)
    rw [mem_call_imported,or_assoc,← exists_or] at first
    simp only [List.mem_cons,or_and_right,eq_comm (b := c)]
    exact first

theorem calls_collects {requests : List Call} (unfailed : (b.calls requests).error = none) :
    b.Collects requests (b.calls requests) :=
  ⟨(calls_adds unfailed).2,fun _ _ => mem_calls_packages,fun _ _ => mem_calls_imported⟩

/-- A table that is built of requests holds what they ask for, and nothing else but what has been collected before. -/
theorem build_calls {requests : List Call} (built : (b.calls requests).build.1 = .ok t) :
    b.Collects requests (b.calls requests) ∧ t.Holds (b.calls requests) := by
  refine ⟨calls_collects ?_,build_holds built⟩
  cases failed : (b.calls requests).error with
  | none => rfl
  | some error =>
    simp only [build,failed] at built
    cases built

/-- An array of a string and of a reference to the resource that has the same string, which is defined behind it. -/
theorem build_calls_array :
    let requests : List Call := [.package 0x7f "app",.array 0x7f020000 "array/a" ["x","@string/s"],
      .value 0x7f010000 "string/s" "x"]
    ∃ t, (({} : Builder).calls requests).build.1 = .ok t ∧ t.strings.strings = ["x"] ∧
      (t.entry? 0x7f020000).map Entry.definitions =
        some [⟨{},.bag 0 [(0x02000000,⟨.string,0⟩),(0x02000001,.reference 0x7f010000)]⟩] ∧
      ({} : Builder).Collects requests (({} : Builder).calls requests) ∧ t.Holds (({} : Builder).calls requests) := by
  intro requests
  have contents : (match (({} : Builder).calls requests).build.1 with
      | .ok t => some (t.strings.strings,(t.entry? 0x7f020000).map Entry.definitions)
      | .error _ => none) =
        some (["x"],some [⟨{},.bag 0 [(0x02000000,⟨.string,0⟩),(0x02000001,.reference 0x7f010000)]⟩]) := by decide +kernel
  rcases built : (({} : Builder).calls requests).build.1 with error | t
  · rw [built] at contents
    cases contents
  · rw [built] at contents
    obtain ⟨strings,definitions⟩ := Prod.mk.inj (Option.some.inj contents)
    exact ⟨t,rfl,strings,definitions,build_calls built⟩

end Builder

end AndroidResources
