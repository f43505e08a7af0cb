import AndroidResources.Configuration.Preference
import AndroidResources.Proofs.ConfigurationDimensions
import AndroidResources.Proofs.ConfigurationTexts
import AndroidResources.Proofs.EntryChanges

/-!
# The weight of qualifiers

Without a device, that configuration is the more specific one which sets the more important groups of qualifiers
(`Configuration.specificity_lt_iff`). A group has up to two kinds, and is set as soon as one of them is. So a configuration
that has all qualifiers of another one and some more is more specific if it sets a group that the other one does not, and not
if the additional ones only join qualifiers that are there (`Configuration.isMoreSpecific_iff_newGroup`). Some groups are weighed
by a whole field, so that bits of it that belong to no qualifier count as well (`Configuration.strays`).
-/
namespace AndroidResources

/-! ## Groups -/

namespace Qualifier.Kind

/-- The kinds that weigh as one, in order of precedence. -/
def groups : List (List Kind) :=
  [[mobileCountry],[mobileNetwork],[language,region],[gender],[direction],[smallestWidth],[width,height],[screenSize],
    [screenLength],[roundness],[gamut,dynamicRange],[orientation],[uiType,night],[density],[touchscreen],
    [keysHidden,navigationHidden],[keyboard],[navigation],[pixels],[version]]

/-- Whether two kinds weigh as one. -/
def Joined (k k' : Kind) : Prop := ∃ group ∈ groups, k ∈ group ∧ k' ∈ group

instance (k k' : Kind) : Decidable (Joined k k') := inferInstanceAs (Decidable (∃ group ∈ groups, k ∈ group ∧ k' ∈ group))

theorem exists_group (k : Kind) : ∃ group ∈ groups, k ∈ group := by
  cases k <;> decide

theorem group_unique : ∀ group ∈ groups, ∀ group' ∈ groups, ∀ k ∈ group, k ∈ group' → group = group' := by decide

end Qualifier.Kind

namespace Configuration
open Qualifier (Kind)
variable {a b c : Configuration} {k : Kind} {group : List Kind}

/-- Whether a configuration has bits in the field of a group that belong to none of its kinds. -/
def strays (c : Configuration) (group : List Kind) : Bool :=
  (group = [.gamut,.dynamicRange] ∧ c.remainder.colorMode ≠ 0) ∨ (group = [.uiType,.night] ∧ c.remainder.uiMode ≠ 0) ∨
    (group = [.keysHidden,.navigationHidden] ∧ c.remainder.input ≠ 0)

/-- A configuration that has been read has no such bits. -/
theorem not_strays_of_ofText {s : String} (read : ofText s = .ok c) (group : List Kind) : ¬ c.strays group := by
  simp [strays,remainder_of_ofText read]

/-- Whether a configuration sets a group: it has a qualifier of one of the kinds, or other bits in the group's field. -/
def sets (c : Configuration) (group : List Kind) : Bool := group.any c.writes || c.strays group

theorem ne_zero_iff_and {field : UInt8} (mask mask' rest : UInt8) (all : mask ||| mask' ||| rest = 0xff) :
    field ≠ 0 ↔ (field &&& mask ≠ 0 ∨ field &&& mask' ≠ 0) ∨ field &&& rest ≠ 0 := by
  constructor
  · intro set
    by_contra none
    simp only [not_or,not_not] at none
    refine set (eq_of_and_eq ?_)
    rw [← all]
    exact and_eq_or (and_eq_or (none.1.1.trans UInt8.zero_and.symm) (none.1.2.trans UInt8.zero_and.symm))
      (none.2.trans UInt8.zero_and.symm)
  · rintro set rfl
    simp at set

/-- What is weighed are the groups that are set. -/
theorem setGroups_eq (c : Configuration) : c.setGroups = Kind.groups.map c.sets := by
  have locale : c.hasLocale = c.sets [.language,.region] := by
    cases locale : c.hasLocale <;> simp_all [sets,strays,writes,qualifier,hasLocale]
  have color : decide (c.colorMode ≠ 0) = c.sets [.gamut,.dynamicRange] := by
    rw [Bool.eq_iff_iff,decide_eq_true_eq,ne_zero_iff_and 0x03 0x0c 0xf0 (by decide)]
    simp [sets,strays,writes,qualifier,remainder,gamut,dynamicRange,or_assoc]
  have uiMode : decide (c.uiMode ≠ 0) = c.sets [.uiType,.night] := by
    rw [Bool.eq_iff_iff,decide_eq_true_eq,ne_zero_iff_and 0x0f 0x30 0xc0 (by decide)]
    simp [sets,strays,writes,qualifier,remainder,uiType,night,or_assoc]
  have input : decide (c.input ≠ 0) = c.sets [.keysHidden,.navigationHidden] := by
    rw [Bool.eq_iff_iff,decide_eq_true_eq,ne_zero_iff_and 0x03 0x0c 0xf0 (by decide)]
    simp [sets,strays,writes,qualifier,remainder,keysHidden,navigationHidden,or_assoc]
  simp only [setGroups,Kind.groups,List.map_cons,List.map_nil,← locale,← color,← uiMode,← input]
  -- The other groups have fields of their own.
  simp [sets,strays,writes,qualifier,gender,direction,screenSize,screenLength,roundness]
  exact ⟨decide_not,decide_not,decide_not,decide_not,decide_not⟩

/-! ## Weights -/

section
variable {α : Type} {f g : α → Bool}

theorem foldl_weight_lt {m n : Nat} (less : m < n) (f g : α → Bool) (l : List α) :
    (l.map g).foldl (fun sum set => 2 * sum + set.toNat) m < (l.map f).foldl (fun sum set => 2 * sum + set.toNat) n := by
  induction l generalizing m n with
  | nil => exact less
  | cons x rest ih =>
    have digit : 2 * m + (g x).toNat < 2 * n + (f x).toNat := by
      have := (g x).toNat_le
      omega
    exact ih digit

/-- A list is split at its head or later. -/
theorem exists_cons_split {x : α} {rest : List α} {P : List α → α → Prop} :
    (∃ before y after, x :: rest = before ++ y :: after ∧ P before y) ↔
      P [] x ∨ ∃ before y after, rest = before ++ y :: after ∧ P (x :: before) y := by
  constructor
  · rintro ⟨before,y,after,split,holds⟩
    obtain ⟨rfl,is⟩ | ⟨before,rfl,is⟩ := List.cons_eq_append_iff.1 split
    · obtain ⟨rfl,rfl⟩ := List.cons.inj is
      exact .inl holds
    · exact .inr ⟨before,y,after,is,holds⟩
  · rintro (holds | ⟨before,y,after,rfl,holds⟩)
    · exact ⟨[],x,rest,rfl,holds⟩
    · exact ⟨x :: before,y,after,rfl,holds⟩

/-- Of two binary numbers the first different digit decides. -/
theorem foldl_weight_lt_iff {l : List α} {n : Nat} :
    (l.map g).foldl (fun sum set => 2 * sum + set.toNat) n < (l.map f).foldl (fun sum set => 2 * sum + set.toNat) n ↔
      ∃ before x after, l = before ++ x :: after ∧ f x ∧ ¬ g x ∧ ∀ y ∈ before, g y → f y := by
  induction l generalizing n with
  | nil => simp
  | cons x rest ih =>
    rw [exists_cons_split (P := fun before x => f x ∧ ¬ g x ∧ ∀ y ∈ before, g y → f y)]
    simp only [List.map_cons,List.foldl_cons]
    by_cases same : f x = g x
    · rw [same,ih]
      simp [same]
    · cases first : f x with
      | true =>
        have second : g x = false := by simpa [first] using same
        have less := foldl_weight_lt (show 2 * n + 0 < 2 * n + 1 by omega) f g rest
        rw [second]
        exact iff_of_true less (.inl ⟨rfl,by decide,by simp⟩)
      | false =>
        have second : g x = true := by simpa [first] using same
        have less := foldl_weight_lt (show 2 * n + 0 < 2 * n + 1 by omega) g f rest
        rw [second]
        refine iff_of_false less.asymm ?_
        rintro (⟨set,_⟩ | ⟨before,y,after,_,_,_,kept⟩)
        · cases set
        · have := kept x List.mem_cons_self second
          simp [first] at this

end

/-- A configuration weighs more if it sets the first group that only one of the two sets. -/
theorem specificity_lt_iff : b.specificity < a.specificity ↔
    ∃ before group after, Kind.groups = before ++ group :: after ∧ a.sets group ∧ ¬ b.sets group ∧
      ∀ g ∈ before, b.sets g → a.sets g := by
  unfold specificity
  rw [setGroups_eq,setGroups_eq]
  exact foldl_weight_lt_iff

/-! ## Additional qualifiers -/

theorem sets_iff : c.sets group ↔ (∃ q ∈ c.qualifiers, q.kind ∈ group) ∨ c.strays group := by
  have writes : group.any c.writes ↔ ∃ q ∈ c.qualifiers, q.kind ∈ group := by
    rw [List.any_eq_true]
    constructor
    · rintro ⟨k,mem,writes⟩
      refine ⟨c.qualifier k,mem_qualifiers.2 ?_,?_⟩ <;> rw [kind_qualifier]
      · exact ⟨writes,rfl⟩
      · exact mem
    · rintro ⟨q,here,mem⟩
      exact ⟨q.kind,mem,(mem_qualifiers.1 here).1⟩
  rw [sets,Bool.or_eq_true,writes]

/-- Configurations without a difference have the same qualifier of each kind. -/
theorem qualifier_eq_of_diff (same : (a.diff b).isEmpty) (k : Kind) : a.qualifier k = b.qualifier k := by
  have views (d : Dimension) : d.view a = d.view b := by
    have none := congrArg (fun changes => changes.includes d) (Changes.isEmpty_iff.1 same)
    simpa [diff,Changes.none] using none
  -- Some fields are seen as a whole, and their qualifiers with them.
  have part {read : Configuration → UInt8} {d : Dimension} (sees : d.Sees fun c => (read c).toNat) : read a = read b :=
    UInt8.toNat_inj.1 (sees a b (views d))
  have fields := fun d (_ : d ∈ Dimension.all) => views d
  simp only [Dimension.all,List.forall_mem_cons,Dimension.view,List.cons.injEq,and_true,UInt8.toNat_inj,UInt16.toNat_inj,
    LocaleCode.toNat_inj] at fields
  cases k with
  | screenSize => exact congrArg Qualifier.screenSize (part Dimension.sees_screenSize)
  | screenLength => exact congrArg Qualifier.screenLength (part Dimension.sees_screenLength)
  | gamut => exact congrArg Qualifier.gamut (part Dimension.sees_gamut)
  | dynamicRange => exact congrArg Qualifier.dynamicRange (part Dimension.sees_dynamicRange)
  | uiType => exact congrArg Qualifier.uiType (part Dimension.sees_uiType)
  | night => exact congrArg Qualifier.night (part Dimension.sees_night)
  | _ => simp only [qualifier,fields]

theorem mem_qualifiers_congr (same : ∀ k, a.qualifier k = b.qualifier k) {q : Qualifier} :
    q ∈ a.qualifiers ↔ q ∈ b.qualifiers := by
  have language : a.language = b.language := Qualifier.language.inj (same .language)
  have writes (k : Kind) : a.writes k = b.writes k := by
    unfold Configuration.writes Configuration.hasLocale
    simp [same k,language]
  rw [mem_qualifiers,mem_qualifiers,writes,same]

theorem diff_of_more (more : ∃ q ∈ a.qualifiers, q ∉ b.qualifiers) : ¬ (a.diff b).isEmpty := by
  intro same
  obtain ⟨q,here,new⟩ := more
  exact new ((mem_qualifiers_congr (qualifier_eq_of_diff same)).1 here)

/-- Without other bits, a group is new exactly if one of its qualifiers joins none that is there. -/
theorem exists_newGroup_iff (unstrayed : ∀ g, ¬ a.strays g ∧ ¬ b.strays g) :
    (∃ group ∈ Kind.groups, a.sets group ∧ ¬ b.sets group) ↔
      ∃ q ∈ a.qualifiers, ∀ r ∈ b.qualifiers, ¬ q.kind.Joined r.kind := by
  have setsMine (g : List Kind) : a.sets g ↔ ∃ q ∈ a.qualifiers, q.kind ∈ g := by
    rw [sets_iff,or_iff_left (unstrayed g).1]
  have setsOther (g : List Kind) : b.sets g ↔ ∃ q ∈ b.qualifiers, q.kind ∈ g := by
    rw [sets_iff,or_iff_left (unstrayed g).2]
  constructor
  · rintro ⟨group,known,set,unset⟩
    obtain ⟨q,here,mem⟩ := (setsMine group).1 set
    refine ⟨q,here,fun r there => ?_⟩
    rintro ⟨group',known',mem',joined⟩
    rw [Kind.group_unique group' known' group known q.kind mem' mem] at joined
    exact unset ((setsOther group).2 ⟨r,there,joined⟩)
  · rintro ⟨q,here,apart⟩
    obtain ⟨group,known,mem⟩ := q.kind.exists_group
    refine ⟨group,known,(setsMine group).2 ⟨q,here,mem⟩,fun set => ?_⟩
    obtain ⟨r,there,joined⟩ := (setsOther group).1 set
    exact apart r there ⟨group,known,mem,joined⟩

/-- What another configuration sets is set with its qualifiers, unless there are other bits. -/
theorem sets_of_kept (kept : ∀ q ∈ b.qualifiers, q ∈ a.qualifiers) (noStray : b.strays group → a.sets group)
    (set : b.sets group) : a.sets group := by
  obtain ⟨q,there,mem⟩ | stray := sets_iff.1 set
  · exact sets_iff.2 (.inl ⟨q,kept q there,mem⟩)
  · exact noStray stray

theorem specificity_lt_iff_newGroup (kept : ∀ q ∈ b.qualifiers, q ∈ a.qualifiers) :
    b.specificity < a.specificity ↔ ∃ before group after, Kind.groups = before ++ group :: after ∧ a.sets group ∧
      ¬ b.sets group ∧ ∀ g ∈ before, b.strays g → a.sets g := by
  rw [specificity_lt_iff]
  constructor
  · rintro ⟨before,group,after,split,set,unset,all⟩
    exact ⟨before,group,after,split,set,unset,fun g mem stray => all g mem (sets_iff.2 (.inr stray))⟩
  · rintro ⟨before,group,after,split,set,unset,all⟩
    exact ⟨before,group,after,split,set,unset,fun g mem => sets_of_kept kept (all g mem)⟩

/-- A configuration with all qualifiers of another one and some more is more specific exactly if it sets a group that the other
    one does not, and all more important ones in which the other one has bits that are no qualifiers. Without such bits it is
    never less specific, and more specific exactly if an additional qualifier joins none of the other one's. -/
theorem isMoreSpecific_iff_newGroup (kept : ∀ q ∈ b.qualifiers, q ∈ a.qualifiers)
    (more : ∃ q ∈ a.qualifiers, q ∉ b.qualifiers) :
    ((a.isMoreSpecific b ∧ ¬ b.isMoreSpecific a) ↔
      ∃ before group after, Kind.groups = before ++ group :: after ∧ a.sets group ∧ ¬ b.sets group ∧
        ∀ g ∈ before, b.strays g → a.sets g) ∧
    ((∀ g, ¬ a.strays g ∧ ¬ b.strays g) → ¬ b.isMoreSpecific a ∧
      (a.isMoreSpecific b ↔ ∃ q ∈ a.qualifiers, ∀ r ∈ b.qualifiers, ¬ q.kind.Joined r.kind)) := by
  have heavier : a.isMoreSpecific b ↔ b.specificity < a.specificity := by
    simp [isMoreSpecific,diff_of_more more]
  have lighter : b.isMoreSpecific a → a.specificity < b.specificity := by
    simp [isMoreSpecific]
  constructor
  · rw [heavier,specificity_lt_iff_newGroup kept]
    refine and_iff_left_of_imp fun new back => ?_
    exact ((specificity_lt_iff_newGroup kept).2 new).asymm (lighter back)
  · intro unstrayed
    constructor
    · intro back
      obtain ⟨_,group,_,_,set,unset,_⟩ := specificity_lt_iff.1 (lighter back)
      exact unset (sets_of_kept kept (fun stray => absurd stray (unstrayed group).2) set)
    · rw [heavier,specificity_lt_iff_newGroup kept,← exists_newGroup_iff unstrayed]
      constructor
      · rintro ⟨before,group,after,split,set,unset,_⟩
        exact ⟨group,by simp [split],set,unset⟩
      · rintro ⟨group,known,set,unset⟩
        obtain ⟨before,after,split⟩ := List.append_of_mem known
        exact ⟨before,group,after,split,set,unset,fun g _ stray => absurd stray (unstrayed g).2⟩

/-- An orientation joins no language. -/
theorem isMoreSpecific_iff_newGroup_landscape :
    let plain : Configuration := { language := ⟨102,114⟩ }
    let landscape : Configuration := { plain with orientation := 2 }
    (∀ q ∈ plain.qualifiers, q ∈ landscape.qualifiers) ∧ (∃ q ∈ landscape.qualifiers, q ∉ plain.qualifiers) ∧
      (∀ g, ¬ landscape.strays g ∧ ¬ plain.strays g) ∧ landscape.isMoreSpecific plain ∧
      ¬ plain.isMoreSpecific landscape := by
  intro plain landscape
  have kept : ∀ q ∈ plain.qualifiers, q ∈ landscape.qualifiers := by decide
  have more : ∃ q ∈ landscape.qualifiers, q ∉ plain.qualifiers := by decide
  have unstrayed (g : List Kind) : ¬ landscape.strays g ∧ ¬ plain.strays g := by simp [strays,remainder,landscape,plain]
  obtain ⟨_,clean⟩ := isMoreSpecific_iff_newGroup kept more
  obtain ⟨notLess,isMore⟩ := clean unstrayed
  exact ⟨kept,more,unstrayed,isMore.2 ⟨.orientation 2,by decide,by decide⟩,notLess⟩

/-- A region joins the language, and the configuration that has it is not more specific. -/
theorem isMoreSpecific_region_lost :
    let plain : Configuration := { language := ⟨102,114⟩ }
    let french : Configuration := { plain with region := ⟨70,82⟩ }
    (∀ q ∈ plain.qualifiers, q ∈ french.qualifiers) ∧ (∃ q ∈ french.qualifiers, q ∉ plain.qualifiers) ∧
      ¬ french.isMoreSpecific plain := by decide

end Configuration

end AndroidResources
