import Mathlib.Data.List.Perm.Basic
import AndroidResources.Proofs.BuildConditions
import AndroidResources.Proofs.TableNames
import AndroidResources.Proofs.Variation

/-!
# Tables that are alike

Two tables of the same definitions, met in different orders, differ in nothing but the order of an entry's definitions and the
positions of strings (`Table.Alike`), as long as each name stands for the same id in both (`Builder.Filled.alike`).
-/
namespace AndroidResources

namespace Builder

/-! ## Values, bags and definitions -/

section
variable (pool pool' : StringPool)

/-- Whether two values of a literal are the same but for the position of a string, at which there is the same one. -/
inductive AlikeValue : Literal → Value → Value → Prop
  | value (v : Value) : AlikeValue (.value v) v v
  | name (text : String) (isAttribute : Bool) (v : Value) : AlikeValue (.name text isAttribute) v v
  | string {s : String} {position position' : UInt32} : pool.Holds s position → pool'.Holds s position' →
      AlikeValue (.string s) ⟨.string,position⟩ ⟨.string,position'⟩

/-- Whether the entries of a bag have the same keys, and values that are alike. -/
structure AlikeEntries (entries : List (BagKey × Literal)) (stored stored' : List (UInt32 × Value)) : Prop where
  length : stored.length = entries.length
  length' : stored'.length = entries.length
  entry : ∀ (i : Nat) (key : BagKey) (literal : Literal), entries[i]? = some (key,literal) →
    ∃ (k : UInt32) (v v' : Value), stored[i]? = some (k,v) ∧ stored'[i]? = some (k,v') ∧ AlikeValue pool pool' literal v v'

/-- Whether two contents of a definition are the same but for the positions of strings. -/
inductive AlikeContent : PendingContent → Content → Content → Prop
  | value {literal : Literal} {v v' : Value} : AlikeValue pool pool' literal v v' →
      AlikeContent (.value literal) (.value v) (.value v')
  | bag {parent : Option Literal} {id : ResourceId} {entries : List (BagKey × Literal)}
      {stored stored' : List (UInt32 × Value)} : AlikeEntries pool pool' entries stored stored' →
      AlikeContent (.bag parent entries) (.bag id stored) (.bag id stored')

/-- Whether a definition is stored for its configuration, in both cases alike. -/
structure AlikeDefinition (item : Pending) (stored : Definition × Definition) : Prop where
  configuration : stored.1.configuration = item.configuration
  configuration' : stored.2.configuration = item.configuration
  content : AlikeContent pool pool' item.content stored.1.content stored.2.content

end

/-- Whether the parent of a bag is not a string, whose position would be taken for an id. -/
def NamesParent : PendingContent → Prop
  | .value _ => True
  | .bag parent _ => ∀ s, parent ≠ some (.string s)

section
variable {gives : ResourceName → ResourceId → Prop} {pool pool' : StringPool} {package : String}
  (single : ∀ name id id', gives name id → gives name id' → id' = id)
include single

theorem Refers.unique {defaultType text : String} {id id' : ResourceId} (refers : Refers gives package defaultType text id)
    (refers' : Refers gives package defaultType text id') : id' = id := by
  obtain ⟨parts,read,given⟩ := refers
  obtain ⟨parts',read',given'⟩ := refers'
  obtain rfl := Except.ok.inj (read.symm.trans read')
  exact single _ _ _ given given'

theorem Stores.alike {literal : Literal} {v v' : Value} (stores : Stores gives pool package literal v)
    (stores' : Stores gives pool' package literal v') : AlikeValue pool pool' literal v v' := by
  cases stores with
  | value v =>
    cases stores'
    exact .value v
  | string held =>
    cases stores' with
    | string held' => exact .string held held'
  | themeAttribute refers =>
    cases stores' with
    | themeAttribute refers' =>
      rw [Refers.unique single refers refers']
      exact .name _ _ _
  | reference refers =>
    cases stores' with
    | reference refers' =>
      rw [Refers.unique single refers refers']
      exact .name _ _ _

theorem StoresKey.unique {before : Nat} {key : BagKey} {k k' : UInt32} (stores : StoresKey gives package before key k)
    (stores' : StoresKey gives package before key k') : k' = k := by
  cases key with
  | id id => exact stores'.trans stores.symm
  | name text => exact Refers.unique single stores stores'
  | position => exact stores'.trans stores.symm

theorem StoresEntries.alike {before : Nat} {entries : List (BagKey × Literal)} {stored stored' : List (UInt32 × Value)}
    (stores : StoresEntries gives pool package before entries stored)
    (stores' : StoresEntries gives pool' package before entries stored') : AlikeEntries pool pool' entries stored stored' := by
  refine ⟨stores.length,stores'.length,fun i key literal written => ?_⟩
  obtain ⟨inside,_⟩ := List.getElem?_eq_some_iff.1 written
  obtain ⟨⟨k,v⟩,here⟩ : ∃ e, stored[i]? = some e := ⟨_,List.getElem?_eq_getElem (stores.length ▸ inside)⟩
  obtain ⟨⟨k',v'⟩,here'⟩ : ∃ e, stored'[i]? = some e := ⟨_,List.getElem?_eq_getElem (stores'.length ▸ inside)⟩
  obtain ⟨isKey,isValue⟩ := stores.entry i key literal k v written here
  obtain ⟨isKey',isValue'⟩ := stores'.entry i key literal k' v' written here'
  obtain rfl := StoresKey.unique single isKey isKey'
  exact ⟨_,v,v',here,here',Stores.alike single isValue isValue'⟩

theorem StoresParent.unique {parent : Option Literal} {id id' : ResourceId} (named : ∀ s, parent ≠ some (.string s))
    (stores : StoresParent gives pool package parent id) (stores' : StoresParent gives pool' package parent id') :
    id' = id := by
  cases parent with
  | none => exact stores'.trans stores.symm
  | some literal =>
    obtain ⟨v,isValue,rfl⟩ := stores
    obtain ⟨v',isValue',rfl⟩ := stores'
    cases Stores.alike single isValue isValue' with
    | value => rfl
    | name => rfl
    -- The two positions of a string would be two ids.
    | string => exact absurd rfl (named _)

theorem StoresContent.alike {content : PendingContent} {stored stored' : Content} (named : NamesParent content)
    (stores : StoresContent gives pool package content stored) (stores' : StoresContent gives pool' package content stored') :
    AlikeContent pool pool' content stored stored' := by
  cases stores with
  | value stores =>
    cases stores' with
    | value stores' => exact .value (Stores.alike single stores stores')
  | bag isParent entries =>
    cases stores' with
    | bag isParent' entries' =>
      obtain rfl := StoresParent.unique single named isParent isParent'
      exact .bag (StoresEntries.alike single entries entries')

theorem StoresDefinition.alike {t t' : Table} {item : Pending} {d d' : Definition} (named : NamesParent item.content)
    (packages : t'.packages = t.packages) (stores : StoresDefinition gives t item d)
    (stores' : StoresDefinition gives t' item d') : AlikeDefinition t.strings t'.strings item (d,d') := by
  obtain ⟨configuration,package,isPackage,content⟩ := stores
  obtain ⟨configuration',package',isPackage',content'⟩ := stores'
  rw [packages,isPackage] at isPackage'
  obtain rfl := Option.some.inj isPackage'
  exact ⟨configuration,configuration',StoresContent.alike single named content content'⟩

end

end Builder

/-! ## Tables -/

/-- Whether two tables of the same definitions have the same packages, types, entries and variations, and under each id the
    same definitions in any order, but for the positions of strings. -/
structure Table.Alike (pending : List Pending) (t t' : Table) : Prop where
  packages : t'.packages = t.packages
  types : ∀ package, t'.typesOf package = t.typesOf package
  names : ∀ id, t'.name? id = t.name? id
  changes : ∀ id, (t'.entry? id).map Entry.changes = (t.entry? id).map Entry.changes
  definitions : ∀ id e e', t.entry? id = some e → t'.entry? id = some e' → ∃ stored : List (Definition × Definition),
    stored.map Prod.fst = e.definitions ∧ (stored.map Prod.snd).Perm e'.definitions ∧
      List.Forall₂ (Builder.AlikeDefinition t.strings t'.strings) (pending.filter fun item => item.id = id) stored

theorem Table.Named.typesOf_eq {t t' : Table} (named : t.Named) (named' : t'.Named) (names : ∀ id, t'.name? id = t.name? id)
    (package : UInt8) : t'.typesOf package = t.typesOf package := by
  refine congrArg OrderedMap.toList (OrderedMap.ext_get fun number => Option.ext fun type => ?_)
  rw [named.get?_types,named'.get?_types]
  simp only [names]

theorem forall₂_pairs {α β γ : Type} {R : α → β → Prop} {S : α → γ → Prop} {l : List α} {m : List β} {n : List γ}
    (first : List.Forall₂ R l m) (second : List.Forall₂ S l n) :
    List.Forall₂ (fun x p => R x p.1 ∧ S x p.2) l (m.zip n) := by
  induction first generalizing n with
  | nil => exact .nil
  | cons here _ ih =>
    cases second with
    | cons here' later => exact .cons ⟨here,here'⟩ (ih later)

namespace Builder.Filled
variable {gives : ResourceName → ResourceId → Prop} {pending pending' : List Pending} {t t' : Table}

/-- The definitions of an id are stored in any order alike. -/
theorem alike (filled : Filled gives pending t) (filled' : Filled gives pending' t') (perm : pending'.Perm pending)
    (single : ∀ name id id', gives name id → gives name id' → id' = id)
    (named : ∀ item ∈ pending, NamesParent item.content) (packages : t'.packages = t.packages) {id : ResourceId} {e e' : Entry}
    (found : t.entry? id = some e) (found' : t'.entry? id = some e') : ∃ stored : List (Definition × Definition),
      stored.map Prod.fst = e.definitions ∧ (stored.map Prod.snd).Perm e'.definitions ∧
        List.Forall₂ (AlikeDefinition t.strings t'.strings) (pending.filter fun item => item.id = id) stored := by
  -- The definitions of the second table are brought into the order of the first one.
  obtain ⟨sorted,stores',sorted_perm⟩ := List.perm_comp_forall₂ (perm.symm.filter _) (filled'.stored id e' found')
  have stores := filled.stored id e found
  have lengths : e.definitions.length = sorted.length := stores.length_eq.symm.trans stores'.length_eq
  refine ⟨e.definitions.zip sorted,List.map_fst_zip (Nat.le_of_eq lengths),?_,?_⟩
  · rw [List.map_snd_zip (Nat.le_of_eq lengths.symm)]
    exact sorted_perm
  · have listed : ∀ item ∈ pending.filter (fun item => item.id = id), NamesParent item.content :=
      fun item mem => named item (List.mem_of_mem_filter mem)
    refine ((List.forall₂_and_left _ _).2 ⟨listed,forall₂_pairs stores stores'⟩).imp ?_
    rintro item ⟨d,d'⟩ ⟨named,stores,stores'⟩
    exact StoresDefinition.alike single named packages stores stores'

theorem changes_eq (filled : Filled gives pending t) (filled' : Filled gives pending' t') (perm : pending'.Perm pending)
    (names : ∀ id, t'.name? id = t.name? id) (id : ResourceId) :
    (t'.entry? id).map Entry.changes = (t.entry? id).map Entry.changes := by
  have sameName := names id
  unfold Table.name? at sameName
  cases found : t.entry? id with
  | none =>
    cases found' : t'.entry? id with
    | none => rfl
    | some e' =>
      rw [found,found'] at sameName
      cases sameName
  | some e =>
    cases found' : t'.entry? id with
    | none =>
      rw [found,found'] at sameName
      cases sameName
    | some e' =>
      refine congrArg some (variation_perm ?_)
      rw [filled.configurations found,filled'.configurations found']
      exact (perm.filter _).map _

end Builder.Filled

/-- Tables of the same definitions are alike if names stand for the same ids. -/
theorem Builder.tableOf_alike {imported : Names} {packages packages' : List (UInt8 × String)} {pending pending' : List Pending}
    {t t' : Table} (built : tableOf imported packages pending = .ok t) (built' : tableOf imported packages' pending' = .ok t')
    (samePackages : t'.packages = t.packages) (perm : pending'.Perm pending)
    (standsFor : StandsFor t.packages imported pending' = StandsFor t.packages imported pending)
    (named : ∀ item ∈ pending, NamesParent item.content) : Table.Alike pending t t' := by
  obtain ⟨_,filled,isNamed⟩ := tableOf_filled built
  obtain ⟨_,filled',isNamed'⟩ := tableOf_filled built'
  rw [samePackages,standsFor] at filled'
  have names (id : ResourceId) : t'.name? id = t.name? id := by
    ext name
    rw [isNamed,isNamed',samePackages]
    simp only [perm.mem_iff]
  have single (name : ResourceName) (id id' : ResourceId) (stands : StandsFor t.packages imported pending name id)
      (stands' : StandsFor t.packages imported pending name id') : id' = id :=
    Option.some.inj (stands'.symm.trans stands)
  have namesOfTable : t.Named := build_named (b := { packages, pending, imported }) built
  have namesOfTable' : t'.Named := build_named (b := { packages := packages', pending := pending', imported }) built'
  exact ⟨samePackages,namesOfTable.typesOf_eq namesOfTable' names,names,filled.changes_eq filled' perm names,
    fun _ _ _ => filled.alike filled' perm single named samePackages⟩

end AndroidResources
