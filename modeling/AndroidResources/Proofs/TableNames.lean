import AndroidResources.Proofs.DeclaredNames
import AndroidResources.Proofs.MapEntries

/-!
# Looking names up

A full name that is looked up in a table as it is written stands for a resource of that name, if it is found
(`Builder.build_id?_text`). It is found if one of the resources of that name is of the first type of its package with
the name of their type: types of one package may share a name, and only the first of them is searched.
-/
namespace AndroidResources

/-! ## Reading names as they are written -/

theorem splitOnce?_append {separator : Char} {before rest : List Char} (absent : separator ∉ before) :
    splitOnce? separator (before ++ separator :: rest) = some (before,rest) := by
  have all : ∀ c ∈ before, decide (c ≠ separator) = true := fun c mem =>
    decide_eq_true fun same => absent (same ▸ mem)
  rw [splitOnce?,List.dropWhile_append_of_pos all,List.takeWhile_append_of_pos all]
  simp

theorem ResourceName.not_mem_of_isPart {c : Char} (refused : allows c = false) {cs : List Char} (valid : isPart cs) :
    c ∉ cs := by
  simp only [isPart,Bool.and_eq_true,List.all_eq_true] at valid
  intro mem
  rw [valid.2 c mem] at refused
  cases refused

theorem NameParts.withoutSign_append {cs : List Char} (valid : ResourceName.isPart cs) (rest : List Char) :
    withoutSign (cs ++ rest) = cs ++ rest := by
  cases cs with
  | nil => cases valid
  | cons c cs =>
    have isReference : c ≠ '@' := fun same =>
      ResourceName.not_mem_of_isPart (by decide) valid (List.mem_cons.2 (.inl same.symm))
    have isAttribute : c ≠ '?' := fun same =>
      ResourceName.not_mem_of_isPart (by decide) valid (List.mem_cons.2 (.inl same.symm))
    simp only [List.cons_append]
    unfold withoutSign
    split
    next same => exact absurd (List.cons.inj same).1 isReference
    next same => exact absurd (List.cons.inj same).1 isAttribute
    next => rfl

/-- A full name is read as it was written. -/
theorem NameParts.ofText_text {name : ResourceName} (package : ResourceName.isPart name.package.toList)
    (type : ResourceName.isPart name.type.toList) (entry : ResourceName.isPart name.entry.toList) :
    ofText name.text = .ok ⟨some name.package,some name.type,name.entry⟩ := by
  have written : name.text.toList =
      name.package.toList ++ ':' :: (name.type.toList ++ '/' :: name.entry.toList) := by
    simp [ResourceName.text]
  have noColon := ResourceName.not_mem_of_isPart (c := ':') (by decide) package
  have noSlash := ResourceName.not_mem_of_isPart (c := '/') (by decide) type
  simp only [ofText,written,withoutSign_append package,qualifierBefore,splitOnce?_append noColon,
    splitOnce?_append noSlash]
  simp [package,type,entry]

namespace Table
variable {t : Table} {package : UInt8} {type entry : String} {id : ResourceId} {name : ResourceName}

/-! ## Looking up within a package -/

theorem mem_entriesOf_iff {e : Entry} : (id,e) ∈ t.entriesOf package ↔ t.entry? id = some e ∧ id.package = package := by
  rw [entriesOf,List.mem_filter, entry?,OrderedMap.get?_eq_some,decide_eq_true_eq]

theorem name?_eq_some_iff : t.name? id = some name ↔ ∃ e, t.entry? id = some e ∧ e.name = name :=
  Option.map_eq_some_iff

/-- Whether no type of an id's package has the same name as the id's type, and a smaller number. -/
def OfFirstType (t : Table) (id : ResourceId) (name : ResourceName) : Prop :=
  ∀ id' name', t.name? id' = some name' → id'.package = id.package → name'.type = name.type → id.type ≤ id'.type

/-- The names of types are those of their entries. -/
theorem Named.get?_types (named : t.Named) {number : UInt8} :
    (OrderedMap.ofList ((t.entriesOf package).map fun e => (e.1.type,e.2.name.type))).get? number = some type ↔
      ∃ id name, t.name? id = some name ∧ id.package = package ∧ id.type = number ∧ name.type = type := by
  have sound {type : String} (found : (OrderedMap.ofList ((t.entriesOf package).map fun e =>
      (e.1.type,e.2.name.type))).get? number = some type) :
      ∃ id name, t.name? id = some name ∧ id.package = package ∧ id.type = number ∧ name.type = type := by
    obtain ⟨⟨id,e⟩,mem,same⟩ := List.mem_map.1 (OrderedMap.mem_of_get?_ofList found)
    obtain ⟨isEntry,here⟩ := mem_entriesOf_iff.1 mem
    obtain ⟨rfl,rfl⟩ := Prod.mk.inj same
    exact ⟨id,e.name,name?_eq_some_iff.2 ⟨e,isEntry,rfl⟩,here,rfl,rfl⟩
  constructor
  · exact sound
  · -- The map has the name of the type's last entry, which is the name of them all.
    rintro ⟨id,name,found,here,rfl,rfl⟩
    obtain ⟨e,isEntry,rfl⟩ := name?_eq_some_iff.1 found
    have listed : (id.type,e.name.type) ∈ (t.entriesOf package).map fun e => (e.1.type,e.2.name.type) :=
      List.mem_map.2 ⟨(id,e),mem_entriesOf_iff.2 ⟨isEntry,here⟩,rfl⟩
    obtain ⟨type,isType⟩ := Option.isSome_iff_exists.1
      (OrderedMap.contains_ofList.2 (List.mem_map_of_mem (f := Prod.fst) listed))
    obtain ⟨id',name',found',here',sameType,rfl⟩ := sound isType
    rw [isType,named.oneType id id' e.name name' found found' (here'.trans here.symm) sameType]

/-- The type that is searched for a name. -/
theorem Named.find?_typesOf (named : t.Named) {number : UInt8} {type' : String} :
    ((t.typesOf package).find? fun named => named.2 = type) = some (number,type') ↔ type' = type ∧
      (∃ id name, t.name? id = some name ∧ id.package = package ∧ id.type = number ∧ name.type = type) ∧
      ∀ id name, t.name? id = some name → id.package = package → name.type = type → number ≤ id.type := by
  rw [typesOf,OrderedMap.find?_toList_eq_some_iff,named.get?_types]
  simp only [decide_eq_true_eq]
  constructor
  · rintro ⟨isType,rfl,least⟩
    refine ⟨rfl,isType,fun id name found here sameType => ?_⟩
    have later := least id.type type' (named.get?_types.2 ⟨id,name,found,here,rfl,sameType⟩) rfl
    exact UInt8.not_lt.1 fun less => later (Std.compare_eq_gt.2 less)
  · rintro ⟨rfl,isType,least⟩
    refine ⟨isType,rfl,fun number' type found sameType => ?_⟩
    obtain ⟨id,name,isNamed,here,rfl,rfl⟩ := named.get?_types.1 found
    exact fun greater => UInt8.not_lt.2 (least id name isNamed here sameType) (Std.compare_eq_gt.1 greater)

theorem idIn?_eq_some_iff : t.idIn? type entry package = some id ↔ ∃ number type' e,
    ((t.typesOf package).find? fun named => named.2 = type) = some (number,type') ∧
      ((t.entriesOf package).find? fun e => e.1.type = number ∧ e.2.name.entry = entry) = some (id,e) := by
  simp only [idIn?,Option.bind_eq_bind,Option.bind_eq_some_iff,Prod.exists,Option.some.injEq]
  constructor
  · rintro ⟨number,type',isType,id,e,isEntry,rfl⟩
    exact ⟨number,type',e,isType,isEntry⟩
  · rintro ⟨number,type',e,isType,isEntry⟩
    exact ⟨number,type',isType,id,e,isEntry,rfl⟩

/-- What is found within a package has the type and the entry that were looked up. -/
theorem Named.of_idIn? (named : t.Named) (found : t.idIn? type entry package = some id) :
    id.package = package ∧ ∃ name, t.name? id = some name ∧ name.type = type ∧ name.entry = entry := by
  obtain ⟨number,type',e,isType,isEntry⟩ := idIn?_eq_some_iff.1 found
  obtain ⟨rfl,⟨id',name',found',here',sameType,rfl⟩,_⟩ := named.find?_typesOf.1 isType
  have matched := List.find?_some isEntry
  obtain ⟨listed,here⟩ := mem_entriesOf_iff.1 (List.mem_of_find?_eq_some isEntry)
  simp only [decide_eq_true_eq] at matched
  have found := name?_eq_some_iff.2 ⟨e,listed,rfl⟩
  refine ⟨here,e.name,found,?_,matched.2⟩
  exact named.oneType id' id name' e.name found' found (here.trans here'.symm) (matched.1.trans sameType.symm)

/-- Something is found within a package if it is of the first type of its name. -/
theorem Named.isSome_idIn?_iff (named : t.Named) : (t.idIn? type entry package).isSome ↔
    ∃ id name, t.name? id = some name ∧ id.package = package ∧ name.type = type ∧ name.entry = entry ∧
      t.OfFirstType id name := by
  constructor
  · intro found
    obtain ⟨id,found⟩ := Option.isSome_iff_exists.1 found
    obtain ⟨here,name,isNamed,sameType,sameEntry⟩ := named.of_idIn? found
    obtain ⟨number,type',e,isType,isEntry⟩ := idIn?_eq_some_iff.1 found
    have matched := List.find?_some isEntry
    simp only [decide_eq_true_eq] at matched
    refine ⟨id,name,isNamed,here,sameType,sameEntry,fun id' name' isNamed' here' sameType' => ?_⟩
    rw [matched.1]
    exact (named.find?_typesOf.1 isType).2.2 id' name' isNamed' (here'.trans here) (sameType'.trans sameType)
  · rintro ⟨id,name,isNamed,rfl,rfl,rfl,first⟩
    have isType := named.find?_typesOf.2 ⟨rfl,⟨id,name,isNamed,rfl,rfl,rfl⟩,first⟩
    obtain ⟨e,isEntry,sameName⟩ := name?_eq_some_iff.1 isNamed
    cases isFound : (t.entriesOf id.package).find? fun e => e.1.type = id.type ∧ e.2.name.entry = name.entry with
    | none =>
      have other := List.find?_eq_none.1 isFound (id,e) (mem_entriesOf_iff.2 ⟨isEntry,rfl⟩)
      simp [sameName] at other
    | some found => exact Option.isSome_iff_exists.2 ⟨found.1,idIn?_eq_some_iff.2 ⟨_,_,found.2,isType,isFound⟩⟩

/-! ## Looking up in a table -/

/-- All packages of a name's package are searched. -/
theorem Named.id?_text (named : t.Named) (found : t.name? id = some name)
    (package : ResourceName.isPart name.package.toList) : t.id? name.text none none =
      (t.packages.toList.filter fun p => p.2 = name.package).findSome? fun p => t.idIn? name.type name.entry p.1 := by
  obtain ⟨type,entry⟩ := named.isPart id name found
  unfold id?
  rw [NameParts.ofText_text package type entry]
  simp

end Table

/-- A name is found by its text if one of the resources of that name is of the first type of its package with their
    type's name, and what is found has the name. -/
theorem Builder.build_id?_text {b : Builder} {t : Table} (built : b.build.1 = .ok t) {id : ResourceId} {name : ResourceName}
    (found : t.name? id = some name) (valid : ResourceName.isPart name.package.toList) :
    (∀ id', t.id? name.text none none = some id' → t.name? id' = some name) ∧
      ((t.id? name.text none none).isSome ↔ ∃ id', t.name? id' = some name ∧ t.OfFirstType id' name) := by
  have named := build_named built
  rw [named.id?_text found valid]
  have searched {p : UInt8 × String} : p ∈ t.packages.toList.filter (fun p => p.2 = name.package) ↔
      t.packages.get? p.1 = some p.2 ∧ p.2 = name.package := by
    rw [List.mem_filter,OrderedMap.get?_eq_some,decide_eq_true_eq]
  constructor
  · intro id' isFound
    obtain ⟨p,mem,isFound⟩ := List.exists_of_findSome?_eq_some isFound
    obtain ⟨declared,samePackage⟩ := searched.1 mem
    obtain ⟨here,name',isNamed,sameType,sameEntry⟩ := named.of_idIn? isFound
    have declared' := named.package id' name' isNamed
    rw [here,declared,samePackage] at declared'
    rw [isNamed,ResourceName.ext (Option.some.inj declared').symm sameType sameEntry]
  · rw [List.findSome?_isSome_iff]
    constructor
    · rintro ⟨p,mem,isFound⟩
      obtain ⟨declared,samePackage⟩ := searched.1 mem
      obtain ⟨id',name',isNamed,here,sameType,sameEntry,first⟩ := named.isSome_idIn?_iff.1 isFound
      have declared' := named.package id' name' isNamed
      rw [here,declared,samePackage] at declared'
      obtain rfl := ResourceName.ext (Option.some.inj declared').symm sameType sameEntry
      exact ⟨id',isNamed,first⟩
    · rintro ⟨id',isNamed,first⟩
      refine ⟨(id'.package,name.package),searched.2 ⟨named.package id' name isNamed,rfl⟩,?_⟩
      exact named.isSome_idIn?_iff.2 ⟨id',name,isNamed,rfl,rfl,rfl,first⟩

/-- Of two types that share a name, the entries of the first one are found, and those of the second one are not. -/
theorem Builder.build_id?_text_shared :
    let b := ((({} : Builder).package 0x7f "app").value 0x7f010000 "string/a" "x").value 0x7f020000 "string/b" "y"
    ∃ t, b.build.1 = .ok t ∧ t.name? 0x7f010000 = some ⟨"app","string","a"⟩ ∧
      ((t.id? "app:string/a" none none).isSome ↔
        ∃ id, t.name? id = some ⟨"app","string","a"⟩ ∧ t.OfFirstType id ⟨"app","string","a"⟩) := by
  intro b
  have names : (match b.build.1 with
      | .ok t => t.name? 0x7f010000
      | .error _ => none) = some ⟨"app","string","a"⟩ := by decide +kernel
  rcases built : b.build.1 with error | t
  · rw [built] at names
    cases names
  · rw [built] at names
    exact ⟨t,rfl,names,(build_id?_text built names (by decide)).2⟩

/-- The entry of a type is not found by its name where a type before it has the same name. -/
theorem Builder.build_id?_text_hidden :
    let b := ((({} : Builder).package 0x7f "app").value 0x7f010000 "string/a" "x").value 0x7f020000 "string/b" "y"
    ∃ t, b.build.1 = .ok t ∧ t.name? 0x7f020000 = some ⟨"app","string","b"⟩ ∧ ResourceName.isPart "app".toList ∧
      t.id? (ResourceName.text ⟨"app","string","b"⟩) none none = none := by
  intro b
  have answers : (match b.build.1 with
      | .ok t => (t.name? 0x7f020000,t.id? (ResourceName.text ⟨"app","string","b"⟩) none none)
      | .error _ => (none,none)) = (some ⟨"app","string","b"⟩,none) := by decide +kernel
  rcases built : b.build.1 with error | t
  · rw [built] at answers
    cases answers
  · rw [built] at answers
    obtain ⟨isNamed,notFound⟩ := Prod.mk.inj answers
    exact ⟨t,rfl,isNamed,by decide,notFound⟩

end AndroidResources
