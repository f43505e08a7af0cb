import AndroidResources.Proofs.AlikeTables
import AndroidResources.Proofs.RepeatedBuilds

/-!
# Requests in another order

What a table has of a builder does not depend on the order of the requests, as long as two that give one full name to
different ids keep theirs (`Builder.build_reordered`): the conditions for a build speak of single definitions and of pairs in
no order, and a name stands for the id of the last definition that has it. Only the definitions of an entry and the positions
of strings come out in another order (`Table.Alike`).
-/
namespace AndroidResources

/-! ## The last of a list -/

section
variable {α β : Type} {l l' : List α} {g : α → Option β}

/-- Whether one element of a list stands before another one. -/
def StandsBefore (x y : α) (l : List α) : Prop := [x,y].Sublist l

theorem standsBefore_append {x y : α} {before after : List α} (mem : x ∈ before) :
    StandsBefore x y (before ++ y :: after) :=
  List.Sublist.append (List.singleton_sublist.2 mem) (List.singleton_sublist.2 List.mem_cons_self)

/-- What stands before an element that is met once is in front of it, or the other one is behind it. -/
theorem StandsBefore.split {x y : α} {before after : List α} (stands : StandsBefore x y (before ++ x :: after)) :
    x ∈ before ∨ y ∈ after := by
  obtain ⟨first,second,split,inBefore,inAfter⟩ := List.sublist_append_iff.1 stands
  cases first with
  | nil =>
    obtain rfl : [x,y] = second := split
    exact .inr (List.singleton_sublist.1 (List.cons_sublist_cons.1 inAfter))
  | cons z rest =>
    obtain rfl : x = z := (List.cons.inj split).1
    exact .inl (inBefore.subset List.mem_cons_self)

/-- The order is that of some elements, if both are among these. -/
theorem StandsBefore.of_filter {x y : α} {p : α → Bool} (stands : StandsBefore x y l) (same : l.filter p = l'.filter p)
    (first : p x) (second : p y) : StandsBefore x y l' := by
  have inside := List.Sublist.filter p stands
  rw [List.filter_cons_of_pos first,List.filter_cons_of_pos second,List.filter_nil,same] at inside
  exact inside.trans List.filter_sublist

theorem findSome?_reverse_eq_some {v : β} (found : l.reverse.findSome? g = some v) :
    ∃ before x after, l = before ++ x :: after ∧ g x = some v ∧ ∀ y ∈ after, g y = none := by
  obtain ⟨after,x,before,split,here,none_after⟩ := List.findSome?_eq_some_iff.1 found
  refine ⟨before.reverse,x,after.reverse,?_,here,fun y mem => none_after y (List.mem_reverse.1 mem)⟩
  rw [← List.reverse_reverse l,split]
  simp

/-- Lists with the same elements have the same last value if elements with different values keep their order. -/
theorem findSome?_reverse_perm (perm : l'.Perm l) (nodup : l.Nodup)
    (kept : ∀ x y v w, g x = some v → g y = some w → v ≠ w → StandsBefore x y l → StandsBefore x y l') :
    l'.reverse.findSome? g = l.reverse.findSome? g := by
  cases here : l.reverse.findSome? g with
  | none =>
    rw [List.findSome?_eq_none_iff] at here ⊢
    intro x mem
    exact here x (List.mem_reverse.2 (perm.subset (List.mem_reverse.1 mem)))
  | some v =>
    obtain ⟨before,x,after,rfl,isValue,last⟩ := findSome?_reverse_eq_some here
    cases there : l'.reverse.findSome? g with
    | none =>
      have missing := List.findSome?_eq_none_iff.1 there x (List.mem_reverse.2 (perm.symm.subset (by simp)))
      rw [isValue] at missing
      cases missing
    | some w =>
      obtain ⟨before',y,after',rfl,isValue',last'⟩ := findSome?_reverse_eq_some there
      by_contra differ
      have differ : w ≠ v := fun same => differ (congrArg some same)
      have apart : y ≠ x := by
        rintro rfl
        exact differ (Option.some.inj (isValue'.symm.trans isValue))
      -- The last value of the one list stands before that of the other one in the first list, and so in the second.
      have inFront : y ∈ before := by
        rcases List.mem_append.1 (perm.subset (List.mem_append_right before' List.mem_cons_self)) with mem | mem
        · exact mem
        · rcases List.mem_cons.1 mem with same | mem
          · exact absurd same apart
          · rw [last y mem] at isValue'
            cases isValue'
      rcases (kept y x w v isValue' isValue differ (standsBefore_append inFront)).split with mem | mem
      · exact (List.nodup_append.1 (perm.nodup_iff.2 nodup)).2.2 y mem y List.mem_cons_self rfl
      · rw [last' x mem] at isValue
        cases isValue

/-- What stands before something else comes of elements that stand in this order. -/
theorem standsBefore_filterMap {v w : β} : StandsBefore v w (l.filterMap g) ↔
    ∃ x y, g x = some v ∧ g y = some w ∧ StandsBefore x y l := by
  unfold StandsBefore
  rw [List.sublist_filterMap_iff]
  constructor
  · intro ⟨chosen,inside,same⟩
    obtain ⟨before,x,rest,rfl,_,isFirst,same⟩ := List.filterMap_eq_cons_iff.1 same.symm
    obtain ⟨between,y,after,rfl,_,isSecond,_⟩ := List.filterMap_eq_cons_iff.1 same
    refine ⟨x,y,isFirst,isSecond,List.Sublist.trans ?_ inside⟩
    have second : [y].Sublist (between ++ y :: after) := List.singleton_sublist.2 (by simp)
    exact List.sublist_append_of_sublist_right (second.cons_cons x)
  · intro ⟨x,y,isFirst,isSecond,inside⟩
    exact ⟨[x,y],inside,by simp [isFirst,isSecond]⟩

theorem lookup_filterMap {κ ν : Type} [DecidableEq κ] (f : α → Option (κ × ν)) (l : List α) (key : κ) :
    (l.filterMap f).lookup key = l.findSome? fun x => (f x).bind fun e => if key = e.1 then some e.2 else none := by
  induction l with
  | nil => rfl
  | cons x rest ih =>
    rw [List.filterMap_cons,List.findSome?_cons]
    cases f x with
    | none => exact ih
    | some e =>
      rw [OrderedMap.lookup_cons_if,ih,Option.bind_some]
      split <;> rfl

end

namespace Builder
variable {packages : OrderedMap UInt8 String} {imported : Names} {pending pending' : List Pending}

/-! ## Definitions in another order -/

/-- Whether two definitions give one full name to different ids. -/
def Contend (packages : OrderedMap UInt8 String) (item item' : Pending) : Prop :=
  item.id ≠ item'.id ∧ ∃ name, fullName packages item = .ok name ∧ fullName packages item' = .ok name

/-- Names stand for the same ids if definitions that contend for one keep their order. -/
theorem standsFor_perm (perm : pending'.Perm pending) (nodup : pending.Nodup)
    (kept : ∀ item item', Contend packages item item' → StandsBefore item item' pending → StandsBefore item item' pending') :
    StandsFor packages imported pending' = StandsFor packages imported pending := by
  funext name id
  unfold StandsFor namesOf
  rw [List.lookup_append,List.lookup_append,← List.filterMap_reverse,← List.filterMap_reverse,lookup_filterMap,
    lookup_filterMap,findSome?_reverse_perm perm nodup]
  intro item item' v w isValue isValue' differ
  -- An element has a value if the name is its full name, and then the value is its id.
  have named {item : Pending} {v : ResourceId} (isValue : (((fullName packages item).toOption.map
      fun found => (found,item.id)).bind fun e => if name = e.1 then some e.2 else none) = some v) :
      fullName packages item = .ok name ∧ item.id = v := by
    cases read : fullName packages item with
    | error error =>
      rw [read] at isValue
      cases isValue
    | ok found =>
      rw [read] at isValue
      simp only [Except.toOption,Option.map_some,Option.bind_some] at isValue
      split at isValue
      next same => exact ⟨by rw [same],Option.some.inj isValue⟩
      next => cases isValue
  obtain ⟨isName,rfl⟩ := named isValue
  obtain ⟨isName',rfl⟩ := named isValue'
  exact kept item item' ⟨differ,name,isName,isName'⟩

theorem NamedAlike.symm {item item' : Pending} (alike : NamedAlike packages item item') : NamedAlike packages item' item := by
  intro name name' isName isName'
  obtain ⟨types,entries⟩ := alike name' name isName' isName
  exact ⟨fun package type => (types package.symm type.symm).symm,fun same => (entries same.symm).symm⟩

theorem Buildable.nodup (buildable : Buildable packages imported pending) : pending.Nodup :=
  buildable.apart.imp fun apart same => apart (congrArg Pending.id same) (congrArg Pending.configuration same)

/-- Of which definitions a table can be built does not depend on their order. -/
theorem Buildable.perm (buildable : Buildable packages imported pending) (perm : pending'.Perm pending)
    (standsFor : StandsFor packages imported pending' = StandsFor packages imported pending) :
    Buildable packages imported pending' where
  named item mem := buildable.named item (perm.subset mem)
  alike := (perm.pairwise_iff fun alike => alike.symm).2 buildable.alike
  resolved item mem := standsFor ▸ buildable.resolved item (perm.subset mem)
  apart := (perm.pairwise_iff fun apart same other => apart same.symm other.symm).2 buildable.apart

theorem declarePackages_perm {declared : OrderedMap UInt8 String} {l l' : List (UInt8 × String)} (perm : l'.Perm l)
    (run : declarePackages l = .ok declared) : declarePackages l' = .ok declared := by
  have apart := (perm.pairwise_iff fun apart same => apart same.symm).2 (declarePackages_ok_iff.1 ⟨declared,run⟩)
  obtain ⟨declared',run'⟩ := declarePackages_ok_iff.2 apart
  have same : declared' = declared := OrderedMap.ext_get fun id => by
    ext name
    rw [declarePackages_ok run,declarePackages_ok run',perm.mem_iff]
  rw [run',same]

/-! ## Requests in another order -/

theorem readParent_ok {name parent : String} {parent' : Option Literal} (read : readParent name parent = .ok parent') (s : String) :
    parent' ≠ some (.string s) := by
  rintro rfl
  unfold readParent at read
  split at read
  · cases read
  next rest sign =>
    obtain ⟨literal,isLiteral,same⟩ := map_eq_ok_iff.1 read
    obtain rfl := Option.some.inj same
    unfold Literal.ofText at isLiteral
    rw [sign] at isLiteral
    split at isLiteral
    · cases isLiteral
    · simp only [Literal.ofReference] at isLiteral
      split at isLiteral
      · cases isLiteral
      · obtain ⟨_,_,same⟩ := map_eq_ok_iff.1 isLiteral
        cases same
  · cases read

theorem definition?_adds {c : Call} {item : Pending} (defines : c.definition? = some item) : c.Adds [item] := by
  by_cases read : c.isRead
  · obtain ⟨_,items,adds,added⟩ := call_adds (b := {}) c (Option.isNone_iff_eq_none.1 read)
    have first : items.head? = some item := by
      rw [← defines,Call.definition?,added]
      rfl
    have few : items.length ≤ 1 := by cases adds <;> simp
    obtain ⟨rest,rfl⟩ := List.head?_eq_some_iff.1 first
    obtain rfl : rest = [] := List.length_eq_zero_iff.1 (by simpa using few)
    exact adds
  · have nothing := congrArg Builder.pending (call_unread read {})
    rw [Call.definition?,show (({} : Builder).call c).pending = [] from nothing] at defines
    cases defines

/-- No request makes a string the parent of a bag. -/
theorem definition?_namesParent {c : Call} {item : Pending} (defines : c.definition? = some item) :
    NamesParent item.content := by
  cases definition?_adds defines with
  | value | valueFor | typedValue => trivial
  | bag reads => exact readParent_ok reads.parent
  | bagFor reads => exact readParent_ok reads.parent
  | array items => exact fun s same => nomatch same

/-- Whether a request makes no names of another table known. -/
def Call.isPlain : Call → Bool
  | .importNames _ => false
  | _ => true

/-- The builder with the names of some tables, after requests. -/
def collected (imports : List Table) (requests : List Call) : Builder :=
  ({} : Builder).calls (imports.map .importNames ++ requests)

/-- The names of some tables, the last ones first. -/
def namesImported (imports : List Table) : Names :=
  (({} : Builder).calls (imports.map .importNames)).imported

section
variable {imports : List Table} {requests requests' : List Call}

theorem calls_imported_of_plain {b : Builder} (plain : ∀ c ∈ requests, c.isPlain) :
    (b.calls requests).imported = b.imported := by
  induction requests generalizing b with
  | nil => rfl
  | cons c rest ih =>
    have first : (b.call c).imported = b.imported := by
      cases c with
      | package id name => rfl
      | importNames t => cases plain _ List.mem_cons_self
      | typedValue | value | valueFor | bag | bagFor | array => exact (b.add_keeps _).2
    exact (ih fun c mem => plain c (List.mem_cons_of_mem _ mem)).trans first

/-- What is collected of plain requests, whatever their order. -/
theorem collected_eq (plain : ∀ c ∈ requests, c.isPlain) : collected imports requests =
    { packages := requests.filterMap Call.package?
      pending := requests.filterMap Call.definition?
      imported := namesImported imports
      error := requests.findSome? Call.failure? } := by
  have calls_append : collected imports requests =
      (({} : Builder).calls (imports.map .importNames)).calls requests := List.foldl_append
  have sameImported : (collected imports requests).imported = namesImported imports := by
    rw [calls_append]
    exact calls_imported_of_plain plain
  -- Imports declare no package, define nothing and cannot fail.
  have packages : (collected imports requests).packages = requests.filterMap Call.package? := by
    simp [collected,calls_packages,Call.package?]
  have pending : (collected imports requests).pending = requests.filterMap Call.definition? := by
    simp [collected,calls_pending,Call.definition?,call,importNames]
  have unfailed : (imports.map Call.importNames).findSome? Call.failure? = none := by
    simp [Call.failure?,call,importNames]
  have error : (collected imports requests).error = requests.findSome? Call.failure? := by
    simp [collected,calls_error,unfailed]
  rw [← packages,← pending,← sameImported,← error]

/-- A table is built of plain requests if all of them can be read, and of what they declare and define. -/
theorem build_collected_iff (plain : ∀ c ∈ requests, c.isPlain) {t : Table} : (collected imports requests).build.1 = .ok t ↔
    (∀ c ∈ requests, c.isRead) ∧ tableOf (namesImported imports) (requests.filterMap Call.package?)
      (requests.filterMap Call.definition?) = .ok t := by
  have unfailed : requests.findSome? Call.failure? = none ↔ ∀ c ∈ requests, c.isRead := by simp [Call.isRead]
  rw [collected_eq plain,← unfailed]
  cases failed : requests.findSome? Call.failure? with
  | none => simp [build]
  | some error => simp [build]

/-- Whether the requests of one list are those of another one, of which two that give one full name to different ids have
    the same order in both. -/
structure Reordered (requests requests' : List Call) : Prop where
  perm : requests'.Perm requests
  kept : ∀ packages, declarePackages (requests.filterMap Call.package?) = .ok packages → ∀ c c' item item',
    c.definition? = some item → c'.definition? = some item' → Contend packages item item' →
      StandsBefore c c' requests → StandsBefore c c' requests'

theorem Reordered.standsFor_eq (reordered : Reordered requests requests') {packages : OrderedMap UInt8 String}
    {imported : Names} (declared : declarePackages (requests.filterMap Call.package?) = .ok packages)
    (nodup : (requests.filterMap Call.definition?).Nodup) :
    StandsFor packages imported (requests'.filterMap Call.definition?) =
      StandsFor packages imported (requests.filterMap Call.definition?) := by
  refine standsFor_perm (reordered.perm.filterMap _) nodup fun item item' contend stands => ?_
  obtain ⟨c,c',defines,defines',stands⟩ := standsBefore_filterMap.1 stands
  have stands' := reordered.kept packages declared c c' item item' defines defines' contend stands
  exact standsBefore_filterMap.2 ⟨c,c',defines,defines',stands'⟩

/-- Whether a table can be built does not depend on the order of plain requests, and what is built is alike. -/
theorem build_reordered (plain : ∀ c ∈ requests, c.isPlain) (reordered : Reordered requests requests') :
    ((∃ t, (collected imports requests).build.1 = .ok t) ↔ ∃ t', (collected imports requests').build.1 = .ok t') ∧
      ∀ t t', (collected imports requests).build.1 = .ok t → (collected imports requests').build.1 = .ok t' →
        Table.Alike (requests.filterMap Call.definition?) t t' := by
  have plain' : ∀ c ∈ requests', c.isPlain := fun c mem => plain c (reordered.perm.subset mem)
  have definitions := reordered.perm.filterMap Call.definition?
  have packages := reordered.perm.filterMap Call.package?
  have allRead : (∀ c ∈ requests', c.isRead) ↔ ∀ c ∈ requests, c.isRead := by simp only [reordered.perm.mem_iff]
  simp only [build_collected_iff plain,build_collected_iff plain',exists_and_left,allRead,tableOf_ok_iff]
  refine ⟨and_congr_right fun _ => ⟨?_,?_⟩,?_⟩
  · intro ⟨declared,run,buildable⟩
    refine ⟨declared,declarePackages_perm packages run,buildable.perm definitions ?_⟩
    exact reordered.standsFor_eq run buildable.nodup
  · intro ⟨declared,run',buildable'⟩
    have run := declarePackages_perm packages.symm run'
    refine ⟨declared,run,buildable'.perm definitions.symm (Eq.symm ?_)⟩
    exact reordered.standsFor_eq run (definitions.nodup_iff.1 buildable'.nodup)
  · intro t t' ⟨_,built⟩ ⟨_,built'⟩
    have run := (tableOf_filled built).1
    have run' := (tableOf_filled built').1
    rw [declarePackages_perm packages run] at run'
    obtain ⟨declared,declares,buildable⟩ := tableOf_ok_iff.1 ⟨t,built⟩
    obtain rfl := Except.ok.inj (declares.symm.trans run)
    refine tableOf_alike built built' (Except.ok.inj run').symm definitions (reordered.standsFor_eq run buildable.nodup) ?_
    intro item mem
    obtain ⟨c,_,defines⟩ := List.mem_filterMap.1 mem
    exact definition?_namesParent defines

/-- An array that refers to an imported string and to one of two strings with the same name, and that comes last or first:
    strings are numbered in another order, and the name stands for the second string in both tables. -/
theorem build_reordered_array :
    let android : Table := { entries := ({} : OrderedMap ResourceId Entry).insert 0x01010000 ⟨⟨"android","string","ok"⟩,[]⟩ }
    let array : Call := .array 0x7f020000 "array/a" ["y","@string/s","@android:string/ok"]
    let strings : List Call := [.value 0x7f010000 "string/s" "x",.valueFor 0x7f010000 "string/s" "fr" "y",
      .value 0x7f010001 "string/s" "z"]
    let requests := .package 0x7f "app" :: strings ++ [array]
    let requests' := array :: strings ++ [.package 0x7f "app"]
    ∃ t t', (collected [android] requests).build.1 = .ok t ∧ (collected [android] requests').build.1 = .ok t' ∧
      t.strings.strings = ["x","y","z"] ∧ t'.strings.strings = ["y","x","z"] ∧
      Table.Alike (requests.filterMap Call.definition?) t t' := by
  intro android array strings requests requests'
  have plain : ∀ c ∈ requests, c.isPlain := by simp [requests,strings,array,Call.isPlain]
  have reordered : Reordered requests requests' := by
    refine ⟨?_,?_⟩
    · exact (List.perm_append_singleton array _).symm.trans ((List.perm_append_singleton _ strings).append_right [array])
    · rintro packages declared c c' item item' defines defines' ⟨differ,name,named,named'⟩ stands
      have isDeclared : declarePackages (requests.filterMap Call.package?) = .ok (({} : OrderedMap _ _).insert 0x7f "app") :=
        rfl
      obtain rfl := Except.ok.inj (isDeclared.symm.trans declared)
      have contending : ∀ item ∈ requests.filterMap Call.definition?, ∀ item' ∈ requests.filterMap Call.definition?,
          item.id ≠ item'.id → (fullName (({} : OrderedMap _ _).insert 0x7f "app") item).toOption =
            (fullName (({} : OrderedMap _ _).insert 0x7f "app") item').toOption →
          item.name = "string/s" ∧ item'.name = "string/s" := by decide +kernel
      have both := contending item (List.mem_filterMap.2 ⟨c,stands.subset (by simp),defines⟩) item'
        (List.mem_filterMap.2 ⟨c',stands.subset (by simp),defines'⟩) differ (by rw [named,named'])
      refine stands.of_filter (p := fun c => c.definition?.any (·.name = "string/s")) ?_ ?_ ?_
      · rfl
      · simp [defines,both.1]
      · simp [defines',both.2]
  have ofRequests : (collected [android] requests).build.1.toOption.map (·.strings.strings) = some ["x","y","z"] := by
    decide +kernel
  have ofRequests' : (collected [android] requests').build.1.toOption.map (·.strings.strings) = some ["y","x","z"] := by
    decide +kernel
  have alike : ∀ t t', (collected [android] requests).build.1 = .ok t → (collected [android] requests').build.1 = .ok t' →
      Table.Alike (requests.filterMap Call.definition?) t t' := (build_reordered plain reordered).2
  cases built : (collected [android] requests).build.1 with
  | error => simp [built,Except.toOption] at ofRequests
  | ok t =>
    cases built' : (collected [android] requests').build.1 with
    | error => simp [built',Except.toOption] at ofRequests'
    | ok t' =>
      rw [built] at ofRequests
      rw [built'] at ofRequests'
      exact ⟨t,t',rfl,rfl,Option.some.inj ofRequests,Option.some.inj ofRequests',alike t t' built built'⟩

end

end Builder

end AndroidResources
