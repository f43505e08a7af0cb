import Mathlib.Data.Nat.Digits.Defs
import AndroidResources.Json.Record
import AndroidResources.Proofs.JsonTexts

/-!
# JSON records

A record that is written with the members that are there is read back with the absent ones as absent
(`Json.record?_present`). Values that denote something, are shallow and have small numbers make records and lists that
do (`Json.IsSound`).
-/
namespace AndroidResources

/-- Items are read back from what each of them is written as. -/
theorem mapM_map_eq_some {α β γ : Type} {read : β → Option γ} {write : α → β} {value : α → γ} {xs : List α}
    (back : ∀ x ∈ xs, read (write x) = some (value x)) : (xs.map write).mapM read = some (xs.map value) := by
  induction xs with
  | nil => rfl
  | cons x xs ih =>
    have others := ih fun y mem => back y (.tail x mem)
    simp [back x List.mem_cons_self,others]

namespace Json

/-! ## Members -/

/-- The members of a record that are there. -/
def present (record : List (String × Option Json)) : List (String × Json) :=
  record.flatMap fun (name,value) => value.toList.map fun value => (name,value)

variable {name : String} {value : Option Json} {record : List (String × Option Json)}

theorem membersNamed_present_cons (n : String) (value : Option Json) (record : List (String × Option Json)) :
    membersNamed name (present ((n,value) :: record)) =
      (if n = name then value.toList else []) ++ membersNamed name (present record) := by
  cases value with
  | none => simp [present]
  | some value => by_cases same : n = name <;> simp [present,membersNamed,same]

theorem membersNamed_absent (absent : name ∉ record.map Prod.fst) : membersNamed name (present record) = [] := by
  induction record with
  | nil => rfl
  | cons member record ih =>
    have differs : member.1 ≠ name := fun same => absent (same ▸ List.mem_cons_self)
    rw [membersNamed_present_cons,if_neg differs,ih (fun mem => absent (.tail _ mem)),List.nil_append]

/-- A member is read back under its name, if no other has it. -/
theorem member?_present (distinct : (record.map Prod.fst).Nodup) (mem : (name,value) ∈ record) :
    member? (present record) name = some value := by
  have named : membersNamed name (present record) = value.toList := by
    induction record with
    | nil => cases mem
    | cons member record ih =>
      obtain ⟨fresh,distinct⟩ := List.nodup_cons.mp distinct
      rw [membersNamed_present_cons]
      rcases List.mem_cons.mp mem with rfl | mem
      · rw [if_pos rfl,membersNamed_absent fresh,List.append_nil]
      · have differs : member.1 ≠ name := fun same => fresh (same ▸ List.mem_map_of_mem mem)
        rw [if_neg differs,ih distinct mem,List.nil_append]
  cases value <;> simp [member?,named]

/-- A record is read back, if its names differ. -/
theorem record?_present (record : List (String × Option Json)) (distinct : (record.map Prod.fst).Nodup) :
    record? (record.map Prod.fst) (.object (present record)) = some (record.map Prod.snd) :=
  mapM_map_eq_some fun _ mem => member?_present distinct mem

/-! ## Values of members -/

variable {α : Type} (read : Json → Option α) (write : α → Json)

theorem toList?_map (back : ∀ x, read (write x) = some x) (xs : List α) :
    toList? read (.array (xs.map write)) = some xs := by
  have items : (xs.map write).mapM read = some (xs.map id) := mapM_map_eq_some fun x _ => back x
  rwa [List.map_id] at items

/-- What may be null is read back, if nothing is written as null. -/
theorem optional?_nullable? (back : ∀ x, read (write x) = some x) (present : ∀ x, write x ≠ .null) (value : Option α) :
    optional? (nullable? read) none (value.map write) = some value := by
  cases value with
  | none => rfl
  | some x =>
    have isSome : nullable? read (write x) = (read (write x)).map some := by
      unfold nullable?
      split
      next isNull => exact absurd isNull (present x)
      next => rfl
    simp [optional?,isSome,back]

theorem optional?_text (s : Option String) : optional? (nullable? toText?) none (s.map .string) = some s :=
  optional?_nullable? toText? .string (fun _ => rfl) (by simp) s

/-! ## Soundness -/

/-- Whether a value denotes something in all of its parts, nests in at most `levels` levels and has no number beyond
    double precision. -/
structure IsSound (levels : Nat) (j : Json) : Prop where
  proper : j.isProper
  shallow : j.depth ≤ levels
  near : IsNear j

variable {levels : Nat}

theorem isSound_bool (b : Bool) : IsSound levels (.bool b) :=
  ⟨rfl,Nat.zero_le _,by simp [IsNear,words,Token.isNear]⟩

theorem isSound_string (s : String) : IsSound levels (.string s) :=
  ⟨rfl,Nat.zero_le _,by simp [IsNear,words,Token.isNear]⟩

/-- A number of 32 bits is far from the end of double precision. -/
theorem isSound_integer {n : Nat} (small : n < 2 ^ 32) : IsSound levels (.integer n) := by
  have digits : (Nat.toDigits 10 n).length ≤ 10 := Nat.toDigits_length 10 n 10 (by decide) (by omega)
  have near : isHuge n 0 = false := by
    unfold isHuge
    simp only
    rw [if_pos (.inr (by omega))]
  exact ⟨rfl,Nat.zero_le _,by simp [IsNear,words,Token.isNear,near]⟩

theorem depth_array {items : List Json} (all : ∀ item ∈ items, item.depth ≤ levels) :
    (Json.array items).depth ≤ levels + 1 := by
  suffices depthItems items ≤ levels by rw [depth]; omega
  induction items with
  | nil => simp [depthItems]
  | cons item items ih =>
    have others := ih fun other mem => all other (.tail item mem)
    rw [depthItems]
    exact max_le (all item List.mem_cons_self) others

theorem isProper_array {items : List Json} (all : ∀ item ∈ items, item.isProper) : (Json.array items).isProper := by
  suffices properItems items by rwa [isProper]
  induction items with
  | nil => rfl
  | cons item items ih =>
    have others := ih fun other mem => all other (.tail item mem)
    rw [properItems,all item List.mem_cons_self,others]
    rfl

theorem isNear_array {items : List Json} (all : ∀ item ∈ items, IsNear item) : IsNear (.array items) := by
  suffices near : ∀ token ∈ itemWords items, token.isNear by
    rw [IsNear,words]
    exact List.forall_mem_cons.mpr ⟨rfl,near⟩
  induction items with
  | nil => simp [itemWords,Token.isNear]
  | cons item items ih =>
    have others := ih fun other mem => all other (.tail item mem)
    have first := all item List.mem_cons_self
    cases items with
    | nil =>
      rw [itemWords]
      exact List.forall_mem_append.mpr ⟨first,by simp [Token.isNear]⟩
    | cons other items =>
      simp only [itemWords]
      exact List.forall_mem_append.mpr ⟨first,List.forall_mem_cons.mpr ⟨rfl,others⟩⟩

theorem isSound_array {items : List Json} (all : ∀ item ∈ items, IsSound levels item) :
    IsSound (levels + 1) (.array items) where
  proper := isProper_array fun item mem => (all item mem).proper
  shallow := depth_array fun item mem => (all item mem).shallow
  near := isNear_array fun item mem => (all item mem).near

theorem depthMembers_eq (members : List (String × Json)) :
    depthMembers members = depthItems (members.map Prod.snd) := by
  induction members with
  | nil => rfl
  | cons member members ih => rw [depthMembers,ih]; rfl

theorem properMembers_eq (members : List (String × Json)) :
    properMembers members = properItems (members.map Prod.snd) := by
  induction members with
  | nil => rfl
  | cons member members ih => rw [properMembers,ih]; rfl

theorem isNear_object {members : List (String × Json)} (all : ∀ member ∈ members, IsNear member.2) :
    IsNear (.object members) := by
  suffices near : ∀ token ∈ memberWords members, token.isNear by
    rw [IsNear,words]
    exact List.forall_mem_cons.mpr ⟨rfl,near⟩
  induction members with
  | nil => simp [memberWords,Token.isNear]
  | cons member members ih =>
    have others := ih fun other mem => all other (.tail member mem)
    have first := all member List.mem_cons_self
    cases members with
    | nil =>
      have value : ∀ token ∈ words member.2 ++ [.closeObject], token.isNear :=
        List.forall_mem_append.mpr ⟨first,by simp [Token.isNear]⟩
      simp only [memberWords]
      exact List.forall_mem_cons.mpr ⟨rfl,List.forall_mem_cons.mpr ⟨rfl,value⟩⟩
    | cons other members =>
      have value : ∀ token ∈ words member.2 ++ .comma :: memberWords (other :: members), token.isNear :=
        List.forall_mem_append.mpr ⟨first,List.forall_mem_cons.mpr ⟨rfl,others⟩⟩
      simp only [memberWords]
      exact List.forall_mem_cons.mpr ⟨rfl,List.forall_mem_cons.mpr ⟨rfl,value⟩⟩

theorem isSound_object {members : List (String × Json)} (all : ∀ member ∈ members, IsSound levels member.2) :
    IsSound (levels + 1) (.object members) := by
  have values : ∀ value ∈ members.map Prod.snd, IsSound levels value := List.forall_mem_map.mpr all
  have items := isSound_array values
  refine ⟨?_,?_,isNear_object fun member mem => (all member mem).near⟩
  · rw [isProper,properMembers_eq]
    exact items.proper
  · rw [depth,depthMembers_eq]
    exact items.shallow

theorem isSound_present (record : List (String × Option Json))
    (all : ∀ member ∈ record, ∀ value ∈ member.2, IsSound levels value) :
    IsSound (levels + 1) (.object (present record)) := by
  refine isSound_object fun member mem => ?_
  obtain ⟨absentOr,isMember,mem⟩ := List.mem_flatMap.mp mem
  obtain ⟨value,isValue,rfl⟩ := List.mem_map.mp mem
  exact all absentOr isMember value (Option.mem_toList.mp isValue)

end Json

end AndroidResources
