import AndroidResources.Proofs.BuildConditions
import AndroidResources.Proofs.Variation

/-!
# Changes of entries

The mask of an entry is folded over the comparisons of its first definition with each of them. Since every bit tells
configurations apart by an equivalence, though some bits are raised by several comparisons (`Configuration.bits_diff`),
that is the union over all pairs of definitions, in whatever order they were collected (`Builder.build_changes`).
-/
namespace AndroidResources

/-! ## Masks -/

section
variable {mask : UInt32} {p : Dimension → Bool} {d : Dimension} {a b c : Changes} {i : Nat}

theorem Dimension.testBit_foldl (ds : List Dimension) : (ds.foldl (fun mask d => mask ||| d.bit) mask).toNat.testBit i =
    (mask.toNat.testBit i || ds.any fun d => d.bit.toNat.testBit i) := by
  induction ds generalizing mask with
  | nil => simp
  | cons d rest ih => simp [ih,Bool.or_assoc]

/-- No two dimensions share a bit. -/
theorem Dimension.bit_and_bit (d e : Dimension) : d.bit &&& e.bit = if d = e then d.bit else 0 := by
  cases d <;> cases e <;> rfl

namespace Changes

theorem testBit_bits : c.bits.toNat.testBit i = Dimension.all.any fun d => c.includes d && d.bit.toNat.testBit i := by
  simp [bits,toList,Dimension.testBit_foldl]

@[simp]
theorem bits_none : none.bits = 0 := rfl

/-- The mask of a union is the union of the masks. -/
theorem bits_union : (a.union b).bits = a.bits ||| b.bits := by
  rw [← UInt32.toNat_inj]
  apply Nat.eq_of_testBit_eq
  intro i
  rw [UInt32.toNat_or,Nat.testBit_or,testBit_bits,testBit_bits,testBit_bits,Bool.eq_iff_iff]
  simp only [union,Bool.or_eq_true,List.any_eq_true,Bool.and_eq_true]
  constructor
  · rintro ⟨d,mem,here | there,set⟩
    · exact .inl ⟨d,mem,here,set⟩
    · exact .inr ⟨d,mem,there,set⟩
  · rintro (⟨d,mem,here,set⟩ | ⟨d,mem,there,set⟩)
    · exact ⟨d,mem,.inl here,set⟩
    · exact ⟨d,mem,.inr there,set⟩

theorem bits_foldl_union (sets : List Changes) (a : Changes) :
    (sets.foldl union a).bits = sets.foldl (fun mask c => mask ||| c.bits) a.bits := by
  induction sets generalizing a with
  | nil => rfl
  | cons c rest ih => rw [List.foldl_cons,List.foldl_cons,ih,bits_union]

theorem includes_foldl_union (sets : List Changes) (a : Changes) :
    (sets.foldl union a).includes d ↔ a.includes d ∨ ∃ c ∈ sets, c.includes d := by
  induction sets generalizing a with
  | nil => simp
  | cons c rest ih => simp [ih,union,or_assoc]

/-- A dimension is in a set exactly if its bit is in the mask. -/
theorem bits_and_bit : c.bits &&& d.bit ≠ 0 ↔ c.includes d := by
  have under (ds : List Dimension) (mask : UInt32) : ds.foldl (fun mask e => mask ||| e.bit) mask &&& d.bit ≠ 0 ↔
      mask &&& d.bit ≠ 0 ∨ d ∈ ds := by
    induction ds generalizing mask with
    | nil => simp
    | cons e rest ih =>
      have split : (mask ||| e.bit) &&& d.bit = (mask &&& d.bit) ||| (e.bit &&& d.bit) := by
        rw [← UInt32.toBitVec_inj]
        simp only [UInt32.toBitVec_and,UInt32.toBitVec_or,BitVec.and_or_distrib_right]
      have raised : e.bit ≠ 0 := by cases e <;> decide
      rw [List.foldl_cons,ih,split,Dimension.bit_and_bit,ne_eq,UInt32.or_eq_zero_iff,List.mem_cons]
      by_cases same : e = d
      · simp [same,same ▸ raised]
      · simp [same,Ne.symm same]
  rw [bits,under]
  simp [toList,Dimension.mem_all]

end Changes

end

/-! ## Comparisons -/

/-- The comparisons of two configurations, with the dimensions that they show. Some dimensions have several. -/
def Configuration.comparisons : List (Dimension × (Configuration → Configuration → Bool)) :=
  [(.mobileCountry,fun a b => a.mobileCountry ≠ b.mobileCountry),
    (.mobileNetwork,fun a b => a.mobileNetwork ≠ b.mobileNetwork),
    (.locale,fun a b => a.language ≠ b.language ∨ a.region ≠ b.region),
    (.gender,fun a b => a.gender ≠ b.gender),
    (.orientation,fun a b => a.orientation ≠ b.orientation),
    (.density,fun a b => a.density ≠ b.density),
    (.touchscreen,fun a b => a.touchscreen ≠ b.touchscreen),
    (.keyboardHidden,fun a b => a.keysHidden ≠ b.keysHidden),
    (.keyboardHidden,fun a b => a.navigationHidden ≠ b.navigationHidden),
    (.keyboard,fun a b => a.keyboard ≠ b.keyboard),
    (.navigation,fun a b => a.navigation ≠ b.navigation),
    (.screenSize,fun a b => a.pixelWidth ≠ b.pixelWidth ∨ a.pixelHeight ≠ b.pixelHeight),
    (.version,fun a b => a.sdk ≠ b.sdk ∨ a.minorVersion ≠ b.minorVersion),
    (.direction,fun a b => a.direction ≠ b.direction),
    (.screenLayout,fun a b => a.screenLayout &&& 0x3f ≠ b.screenLayout &&& 0x3f),
    (.screenRound,fun a b => a.roundness ≠ b.roundness),
    (.colorMode,fun a b => a.colorMode ≠ b.colorMode),
    (.uiMode,fun a b => a.uiMode ≠ b.uiMode),
    (.smallestScreenSize,fun a b => a.smallestWidth ≠ b.smallestWidth),
    (.screenSize,fun a b => a.width ≠ b.width ∨ a.height ≠ b.height)]

theorem LocaleCode.toNat_inj {a b : LocaleCode} : a.toNat = b.toNat ↔ a = b := by
  obtain ⟨first,second⟩ := a
  obtain ⟨first',second'⟩ := b
  have := second.toNat_lt
  have := second'.toNat_lt
  simp only [toNat,LocaleCode.mk.injEq,← UInt8.toNat_inj]
  omega

namespace Configuration
variable {a b : Configuration} {d : Dimension}

/-- Configurations differ in a dimension exactly if one of its comparisons tells them apart. -/
theorem diff_includes_iff : (a.diff b).includes d ↔ ∃ test ∈ comparisons, test.1 = d ∧ test.2 a b := by
  have own : (∃ test ∈ comparisons, test.1 = d ∧ test.2 a b) ↔
      ∃ test ∈ comparisons.filter fun test => test.1 = d, test.2 a b := by
    simp only [List.mem_filter,and_assoc,decide_eq_true_eq]
  rw [own]
  cases d <;> simp [diff,Dimension.view,comparisons,LocaleCode.toNat_inj,← UInt8.toNat_inj,← UInt16.toNat_inj]
  -- Sizes in pixels and in independent units are compared apart.
  case screenSize => exact or_assoc.symm

/-- The mask of a difference is raised comparison by comparison. -/
theorem bits_diff (a b : Configuration) :
    (a.diff b).bits = comparisons.foldl (fun mask test => if test.2 a b then mask ||| test.1.bit else mask) 0 := by
  have raised : comparisons.foldl (fun mask test => if test.2 a b then mask ||| test.1.bit else mask) 0 =
      ((comparisons.filter fun test => test.2 a b).map Prod.fst).foldl (fun mask d => mask ||| d.bit) 0 := by
    rw [List.foldl_map,List.foldl_filter]
  rw [raised,← UInt32.toNat_inj]
  apply Nat.eq_of_testBit_eq
  intro i
  rw [Changes.testBit_bits,Dimension.testBit_foldl,Bool.eq_iff_iff]
  simp only [List.any_eq_true,Bool.and_eq_true,diff_includes_iff,List.mem_map,List.mem_filter,UInt32.toNat_zero,
    Nat.zero_testBit,Bool.false_or]
  constructor
  · rintro ⟨d,_,⟨test,mem,rfl,differ⟩,set⟩
    exact ⟨test.1,⟨test,⟨mem,differ⟩,rfl⟩,set⟩
  · rintro ⟨_,⟨test,⟨mem,differ⟩,rfl⟩,set⟩
    exact ⟨test.1,test.1.mem_all,⟨test,mem,rfl,differ⟩,set⟩

end Configuration

/-! ## Entries -/

/-- What any two definitions differ in, pair by pair. -/
def pairwiseChanges (definitions : List Definition) : List Changes :=
  definitions.flatMap fun a => definitions.map fun b => a.configuration.diff b.configuration

theorem mem_pairwiseChanges {definitions : List Definition} {c : Changes} : c ∈ pairwiseChanges definitions ↔
    ∃ a ∈ definitions, ∃ b ∈ definitions, a.configuration.diff b.configuration = c := by
  simp [pairwiseChanges]

/-- To compare each definition with the first one is to compare it with all of them. -/
theorem variation_eq_foldl (definitions : List Definition) :
    variation definitions = (pairwiseChanges definitions).foldl .union .none := by
  ext d
  rw [Bool.eq_iff_iff,Changes.includes_foldl_union,variation_includes_iff]
  constructor
  · rintro ⟨a,a_mem,b,b_mem,differ⟩
    exact .inr ⟨_,mem_pairwiseChanges.2 ⟨a,a_mem,b,b_mem,rfl⟩,by simpa [Configuration.diff] using differ⟩
  · rintro (nothing | ⟨_,mem,differ⟩)
    · simp [Changes.none] at nothing
    · obtain ⟨a,a_mem,b,b_mem,rfl⟩ := mem_pairwiseChanges.1 mem
      exact ⟨a,a_mem,b,b_mem,by simpa [Configuration.diff] using differ⟩

theorem bits_variation (definitions : List Definition) :
    (variation definitions).bits = (pairwiseChanges definitions).foldl (fun mask c => mask ||| c.bits) 0 := by
  rw [variation_eq_foldl,Changes.bits_foldl_union,Changes.bits_none]

namespace Builder
variable {b b' : Builder} {t t' : Table}

/-- An entry has the configurations that were collected for its id, in their order. -/
theorem configurations_of_build (built : b.build.1 = .ok t) {id : ResourceId} {e : Entry} (found : t.entry? id = some e) :
    e.definitions.map Definition.configuration =
      (b.pending.filter fun item => item.id = id).map Pending.configuration :=
  Filled.configurations ⟨build_wellFormed built,(build_holds built).stored⟩ found

/-- Tables of the same definitions have entries of the same ids, with the same masks. -/
theorem changes_of_perm (built : b.build.1 = .ok t) (built' : b'.build.1 = .ok t') (perm : b'.pending.Perm b.pending)
    (id : ResourceId) : (t'.entry? id).map Entry.changes = (t.entry? id).map Entry.changes := by
  have defined : (t'.entry? id).isSome ↔ (t.entry? id).isSome := by
    rw [(build_holds built).defined,(build_holds built').defined]
    simp only [perm.mem_iff]
  cases found : t.entry? id with
  | none =>
    cases found' : t'.entry? id with
    | none => rfl
    | some e' => simp [found,found'] at defined
  | some e =>
    cases found' : t'.entry? id with
    | none => simp [found,found'] at defined
    | some e' =>
      have configurations : (e'.definitions.map Definition.configuration).Perm
          (e.definitions.map Definition.configuration) := by
        rw [configurations_of_build built found,configurations_of_build built' found']
        exact (perm.filter _).map _
      simp only [Option.map_some,Entry.changes,variation_perm configurations]

/-- In a table that is built, the mask of each entry is the union of the differences between any two of its definitions.
    A bit is set exactly if one of its comparisons tells two definitions apart, and neither the order of an entry's
    definitions nor that in which all of them were collected counts. -/
theorem build_changes (built : b.build.1 = .ok t) :
    (∀ id e, t.entry? id = some e →
      e.changes.bits = (pairwiseChanges e.definitions).foldl (fun mask c => mask ||| c.bits) 0 ∧
      (∀ d : Dimension, e.changes.bits &&& d.bit ≠ 0 ↔ ∃ x ∈ e.definitions, ∃ y ∈ e.definitions,
        ∃ test ∈ Configuration.comparisons, test.1 = d ∧ test.2 x.configuration y.configuration) ∧
      ∀ definitions, definitions.Perm e.definitions → (variation definitions).bits = e.changes.bits) ∧
    ∀ (b' : Builder) (t' : Table), b'.pending.Perm b.pending → b'.build.1 = .ok t' → ∀ id,
      (t'.entry? id).map (·.changes.bits) = (t.entry? id).map (·.changes.bits) := by
  refine ⟨fun id e found => ⟨bits_variation e.definitions,fun d => ?_,fun definitions perm => ?_⟩,?_⟩
  · rw [Changes.bits_and_bit,Entry.changes,variation_includes_iff]
    simp only [← Configuration.diff_includes_iff]
    simp [Configuration.diff]
  · rw [Entry.changes,variation_perm (perm.map _)]
  · intro b' t' perm built' id
    have same := congrArg (Option.map Changes.bits) (changes_of_perm built built' perm id)
    rwa [Option.map_map,Option.map_map] at same

/-- Of a French definition, a plain one and one for landscape the mask has the bits of locale and orientation, and it has
    them whichever of the three comes first. -/
theorem build_changes_locale :
    let package : Call := .package 0x7f "app"
    let plain : Call := .value 0x7f010000 "string/s" "x"
    let french : Call := .valueFor 0x7f010000 "string/s" "fr" "y"
    let landscape : Call := .valueFor 0x7f010000 "string/s" "land" "z"
    let b := ({} : Builder).calls [package,french,plain,landscape]
    let b' := ({} : Builder).calls [package,plain,landscape,french]
    ∃ t e, b.build.1 = .ok t ∧ t.entry? 0x7f010000 = some e ∧
      (pairwiseChanges e.definitions).foldl (fun mask c => mask ||| c.bits) 0 = 0x84 ∧
      ∀ t', b'.build.1 = .ok t' → (t'.entry? 0x7f010000).map (·.changes.bits) = some 0x84 := by
  intro package plain french landscape b b'
  have mask : b.build.1.toOption.bind (fun t => (t.entry? 0x7f010000).map (·.changes.bits)) = some 0x84 := by
    decide +kernel
  have perm : b'.pending.Perm b.pending := by decide +kernel
  cases built : b.build.1 with
  | error => simp [built,Except.toOption] at mask
  | ok t =>
    obtain ⟨entries,reordered⟩ := build_changes built
    rw [built] at mask
    obtain ⟨e,found,bits⟩ := Option.map_eq_some_iff.1 mask
    refine ⟨t,e,rfl,found,(entries _ e found).1 ▸ bits,fun t' built' => ?_⟩
    rw [reordered b' t' perm built',found,← bits]
    rfl

end Builder

end AndroidResources
