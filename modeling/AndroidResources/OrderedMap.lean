/-!
# Ordered maps

Finite maps as lists of entries in ascending order of their keys. A map is determined by its values
(`OrderedMap.ext_get`), and each operation is described by the value that it leaves at every key.
-/
namespace AndroidResources

/-- Two lists in ascending order that have the same members are equal. -/
theorem eq_of_ascending {α : Type} (cmp : α → α → Ordering) [Std.TransCmp cmp] {a b : List α}
    (a_ascending : a.Pairwise fun x y => cmp x y = .lt) (b_ascending : b.Pairwise fun x y => cmp x y = .lt)
    (same : ∀ x, x ∈ a ↔ x ∈ b) : a = b := by
  have distinct {l : List α} (ascending : l.Pairwise fun x y => cmp x y = .lt) : l.Nodup :=
    ascending.imp fun less same => by
      subst same
      simp [Std.ReflCmp.compare_self] at less
  refine List.Perm.eq_of_pairwise ?_ a_ascending b_ascending
    ((List.perm_ext_iff_of_nodup (distinct a_ascending) (distinct b_ascending)).2 same)
  intro x y _ _ less greater
  have less := Std.TransCmp.lt_trans less greater
  simp [Std.ReflCmp.compare_self] at less

/-- Entries in ascending order of distinct keys. -/
structure OrderedMap (κ ν : Type) [Ord κ] where
  toList : List (κ × ν)
  ascending : toList.Pairwise (fun a b => compare a.1 b.1 = .lt)

namespace OrderedMap

variable {κ ν : Type} [Ord κ]

instance : EmptyCollection (OrderedMap κ ν) := ⟨⟨[],.nil⟩⟩

instance : Inhabited (OrderedMap κ ν) := ⟨{}⟩

/-- The keys in ascending order. -/
def keys (m : OrderedMap κ ν) : List κ := m.toList.map (·.1)

/-- The values in ascending order of their keys. -/
def values (m : OrderedMap κ ν) : List ν := m.toList.map (·.2)

/-- The number of keys. -/
def size (m : OrderedMap κ ν) : Nat := m.toList.length

/-- The value at a key. -/
def get? [DecidableEq κ] (m : OrderedMap κ ν) (key : κ) : Option ν := m.toList.lookup key

/-- Whether a key has a value. -/
def contains [DecidableEq κ] (m : OrderedMap κ ν) (key : κ) : Bool := (m.get? key).isSome

/-- Puts a value in its place among ascending entries. -/
def place (key : κ) (value : ν) : List (κ × ν) → List (κ × ν)
  | [] => [(key,value)]
  | entry :: rest =>
    match compare key entry.1 with
    | .lt => (key,value) :: entry :: rest
    | .eq => (key,value) :: rest
    | .gt => entry :: place key value rest

theorem mem_place {key : κ} {value : ν} {entries : List (κ × ν)} {e : κ × ν} (mem : e ∈ place key value entries) :
    e = (key,value) ∨ e ∈ entries := by
  induction entries with
  | nil => simpa [place] using mem
  | cons entry rest ih =>
    simp only [place] at mem
    split at mem
    · simpa using mem
    · rcases List.mem_cons.1 mem with rfl | mem
      · exact .inl rfl
      · exact .inr (.tail _ mem)
    · rcases List.mem_cons.1 mem with rfl | mem
      · exact .inr (.head _)
      · exact (ih mem).imp id (.tail _)

section
variable [Std.TransOrd κ] [Std.LawfulEqOrd κ]

theorem ascending_place {key : κ} {value : ν} {entries : List (κ × ν)}
    (ascending : entries.Pairwise (fun a b => compare a.1 b.1 = .lt)) :
    (place key value entries).Pairwise (fun a b => compare a.1 b.1 = .lt) := by
  induction entries with
  | nil => simp [place]
  | cons entry rest ih =>
    have parts := List.pairwise_cons.1 ascending
    simp only [place]
    split
    case h_1 less =>
      refine List.pairwise_cons.2 ⟨fun e mem => ?_,ascending⟩
      rcases List.mem_cons.1 mem with rfl | mem
      · exact less
      · exact Std.TransCmp.lt_trans less (parts.1 e mem)
    case h_2 same =>
      have same := Std.LawfulEqCmp.eq_of_compare same
      subst same
      exact List.pairwise_cons.2 ⟨parts.1,parts.2⟩
    case h_3 greater =>
      refine List.pairwise_cons.2 ⟨fun e mem => ?_,ih parts.2⟩
      rcases mem_place mem with rfl | mem
      · exact Std.OrientedCmp.gt_iff_lt.1 greater
      · exact parts.1 e mem

/-- The map with a value at a key, in place of the one that was there. -/
def insert (m : OrderedMap κ ν) (key : κ) (value : ν) : OrderedMap κ ν :=
  ⟨place key value m.toList,ascending_place m.ascending⟩

/-- The map of entries in any order, the last one counting for each key. -/
def ofList (entries : List (κ × ν)) : OrderedMap κ ν :=
  entries.foldl (fun m e => m.insert e.1 e.2) {}

end

/-- The map with the entries that satisfy a condition. -/
def filter (m : OrderedMap κ ν) (keep : κ → ν → Bool) : OrderedMap κ ν :=
  ⟨m.toList.filter fun e => keep e.1 e.2,m.ascending.filter _⟩

/-- The map without a key. -/
def erase [DecidableEq κ] (m : OrderedMap κ ν) (key : κ) : OrderedMap κ ν :=
  m.filter fun k _ => k ≠ key

/-- The map with every value changed. -/
def map {μ : Type} (m : OrderedMap κ ν) (change : κ → ν → μ) : OrderedMap κ μ :=
  ⟨m.toList.map fun e => (e.1,change e.1 e.2),
    List.pairwise_map.2 m.ascending⟩

/-! ## Values after each operation -/

section
variable [DecidableEq κ]

@[simp]
theorem get?_empty (key : κ) : (({} : OrderedMap κ ν).get? key) = none := rfl

omit [Ord κ] in
theorem lookup_cons_if (k : κ) (entry : κ × ν) (rest : List (κ × ν)) :
    (entry :: rest).lookup k = if k = entry.1 then some entry.2 else rest.lookup k := by
  rw [show entry = (entry.1,entry.2) from rfl,List.lookup_cons]
  by_cases same : k = entry.1
  · simp [same]
  · simp [same,beq_eq_false_iff_ne.2 same]

theorem lookup_place [Std.LawfulEqOrd κ] (key k : κ) (value : ν) (entries : List (κ × ν)) :
    (place key value entries).lookup k = if k = key then some value else entries.lookup k := by
  induction entries with
  | nil => simp [place,lookup_cons_if]
  | cons entry rest ih =>
    simp only [place]
    split
    · simp [lookup_cons_if]
    case h_2 equal =>
      have equal := Std.LawfulEqCmp.eq_of_compare equal
      subst equal
      by_cases same : k = entry.1 <;> simp [lookup_cons_if,same]
    case h_3 greater =>
      have differ : key ≠ entry.1 := by
        rintro rfl
        simp at greater
      by_cases same : k = entry.1
      · simp [lookup_cons_if,same,differ.symm]
      · simp [lookup_cons_if,same,ih]

@[simp]
theorem get?_insert [Std.TransOrd κ] [Std.LawfulEqOrd κ] (m : OrderedMap κ ν) (key k : κ) (value : ν) :
    (m.insert key value).get? k = if k = key then some value else m.get? k :=
  lookup_place key k value m.toList

theorem get?_eq_some [Std.TransOrd κ] [Std.LawfulEqOrd κ] {m : OrderedMap κ ν} {key : κ} {value : ν} :
    m.get? key = some value ↔ (key,value) ∈ m.toList := by
  obtain ⟨entries,ascending⟩ := m
  simp only [get?]
  induction entries with
  | nil => simp
  | cons entry rest ih =>
    have parts := List.pairwise_cons.1 ascending
    rw [lookup_cons_if,List.mem_cons]
    by_cases same : key = entry.1
    · subst same
      have absent : (entry.1,value) ∉ rest := fun mem => by
        have less := parts.1 _ mem
        simp at less
      simp [absent,Prod.ext_iff,eq_comm]
    · have differ : (key,value) ≠ entry := fun h => same (congrArg Prod.fst h)
      simp [same,differ,ih parts.2]

@[simp]
theorem get?_erase [Std.TransOrd κ] [Std.LawfulEqOrd κ] (m : OrderedMap κ ν) (key k : κ) :
    (m.erase key).get? k = if k = key then none else m.get? k := by
  apply Option.ext
  intro value
  by_cases same : k = key <;> simp [get?_eq_some,erase,filter,same]

@[simp]
theorem get?_filter [Std.TransOrd κ] [Std.LawfulEqOrd κ] (m : OrderedMap κ ν) (keep : κ → ν → Bool) (key : κ) :
    (m.filter keep).get? key = (m.get? key).filter (keep key) := by
  apply Option.ext
  intro value
  simp [get?_eq_some,filter,Option.filter_eq_some_iff]

theorem mem_keys_iff [Std.TransOrd κ] [Std.LawfulEqOrd κ] {m : OrderedMap κ ν} {key : κ} :
    key ∈ m.keys ↔ m.contains key := by
  simp [keys,contains,Option.isSome_iff_exists,get?_eq_some]

/-- A map is determined by its values. -/
theorem ext_get [Std.TransOrd κ] [Std.LawfulEqOrd κ] {m n : OrderedMap κ ν}
    (same : ∀ key, m.get? key = n.get? key) : m = n := by
  have lists : m.toList = n.toList :=
    eq_of_ascending (compareOn Prod.fst) m.ascending n.ascending fun e => by
      rw [← get?_eq_some,← get?_eq_some,same]
  cases m
  cases n
  simpa using lists

end

end OrderedMap

/-- The members of a list in ascending order, each once. -/
def ascendingSet {κ : Type} [Ord κ] [Std.TransOrd κ] [Std.LawfulEqOrd κ] (members : List κ) : List κ :=
  (OrderedMap.ofList (members.map fun member => (member,()))).keys

end AndroidResources
