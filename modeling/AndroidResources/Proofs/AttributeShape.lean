import Mathlib.Data.List.Induction
import AndroidResources.Proofs.AttributeValues

/-!
# The shape of retrieved attributes

Whichever way attributes are retrieved, there is one result for each of them, in order. A result has a value exactly if it
names a layer, it is never the reference to no resource, and the positions of those with a value ascend
(`Retrieval.results_shaped`). Each result that is added keeps this (`AttributeResults.Shaped.push`); that a value which
turns out to be nothing still counts as one is due to `Selected.orEmpty`, and to the theme, which has no undefined value.
-/
namespace AndroidResources

namespace ResolvedAttribute

/-- Whether a result has a value exactly if it names a layer, and is not the reference to no resource. -/
structure Settled (a : ResolvedAttribute) : Prop where
  defined_iff : a.isDefined ↔ a.source ≠ .undefined
  notNull : ¬ a.value.value.isNullReference

theorem isDefined_iff {a : ResolvedAttribute} : a.isDefined ↔ ¬ a.value.value.isUndefined := by
  simp [isDefined,Value.isUndefined,imp_iff_not_or]

theorem settled_missing (attr : ResourceId) : (missing attr).Settled where
  defined_iff := by simp [isDefined_iff,missing,Selected.detached,Value.undefined,Value.isUndefined]
  notNull := by simp [missing,Selected.detached,Value.undefined,Value.isNullReference]

end ResolvedAttribute

namespace AttributeResults
variable {results : AttributeResults} {a : ResolvedAttribute} {attrs : List ResourceId}

/-! ## Adding a result -/

theorem mem_indices {i : Nat} : i ∈ results.indices ↔ ∃ a, results.values[i]? = some a ∧ a.isDefined := by
  simp only [results.indices_eq,definedAt,List.mem_filterMap,Prod.exists,List.mem_zipIdx_iff_getElem?,
    Option.ite_none_right_eq_some,Option.some.injEq]
  constructor
  · rintro ⟨a,_,at_i,isDefined,rfl⟩
    exact ⟨a,at_i,isDefined⟩
  · rintro ⟨a,at_i,isDefined⟩
    exact ⟨a,i,at_i,isDefined,rfl⟩

/-- The position of a result that is added lies behind those of the results before it. -/
theorem pairwise_push (ascending : results.indices.Pairwise (· < ·)) :
    (results.push a).indices.Pairwise (· < ·) := by
  unfold push
  split
  · refine List.pairwise_append.2 ⟨ascending,List.pairwise_singleton _ _,fun i mem j last => ?_⟩
    obtain rfl := List.mem_singleton.1 last
    obtain ⟨_,at_i,_⟩ := mem_indices.1 mem
    exact (List.getElem?_eq_some_iff.1 at_i).1
  · exact ascending

theorem pairwise_ofValues (values : List ResolvedAttribute) : (ofValues values).indices.Pairwise (· < ·) := by
  induction values using List.reverseRecOn with
  | nil => exact .nil
  | append_singleton values a ih =>
    rw [ofValues_concat]
    exact pairwise_push ih

theorem pairwise_indices (results : AttributeResults) : results.indices.Pairwise (· < ·) := by
  have ascending := pairwise_ofValues results.values
  rwa [(ofValues results.values).indices_eq,values_ofValues,← results.indices_eq] at ascending

/-- Whether results are those for attributes: one for each, in order, and the positions of those with a value. -/
structure Shaped (results : AttributeResults) (attrs : List ResourceId) : Prop where
  attrs_eq : results.values.map ResolvedAttribute.attr = attrs
  settled : ∀ a ∈ results.values, a.Settled
  ascending : results.indices.Pairwise (· < ·)
  mem_indices_iff : ∀ i, i ∈ results.indices ↔ ∃ a, results.values[i]? = some a ∧ a.isDefined

theorem shaped_empty : Shaped {} [] where
  attrs_eq := rfl
  settled := by simp
  ascending := .nil
  mem_indices_iff := fun _ => mem_indices

theorem Shaped.push (shaped : results.Shaped attrs) (settled : a.Settled) :
    (results.push a).Shaped (attrs ++ [a.attr]) where
  attrs_eq := by
    rw [← shaped.attrs_eq]
    exact List.map_append
  settled := by
    intro b mem
    rcases List.mem_append.1 mem with before | last
    · exact shaped.settled b before
    · obtain rfl := List.mem_singleton.1 last
      exact settled
  ascending := pairwise_push shaped.ascending
  mem_indices_iff := fun _ => mem_indices

theorem shaped_ofValues {β : Type} (f : β → ResolvedAttribute) (xs : List β) (settled : ∀ x ∈ xs, (f x).Settled) :
    (ofValues (xs.map f)).Shaped (xs.map fun x => (f x).attr) := by
  induction xs using List.reverseRecOn with
  | nil => exact shaped_empty
  | append_singleton xs x ih =>
    rw [List.map_append,List.map_append,List.map_singleton,ofValues_concat]
    exact (ih fun y mem => settled y (List.mem_append_left _ mem)).push (settled x (by simp))

end AttributeResults

namespace Retrieval
variable {r : Registry} {m m' : Manager} {t : Theme} {theme : Option Theme} {set : Option AttributeSet}
  {attr defaultAttr defaultId : ResourceId} {attrs : List ResourceId} {values : Option (List Value)}

/-! ## Each result -/

theorem finish_attr (supply : Option Supply) : (finish r theme set attr supply).1.attr = attr := by
  rw [finish_eq]
  cases (defined? supply).or (themeSupply? theme attr) <;> rfl

theorem settled_outcome {s : Supply} (isDefined : ¬ s.value.value.isUndefined) (layer : s.source ≠ .undefined) :
    (outcome r theme set attr (some s)).1.Settled := by
  have value : (outcome r theme set attr (some s)).1.value = ((follow r theme s).result.getD s.value).orEmpty :=
    settle_eq isDefined
  obtain ⟨notNull,notUndefined⟩ := Selected.orEmpty_not_null ((follow r theme s).result.getD s.value)
  rw [← value] at notNull notUndefined
  exact ⟨iff_of_true (ResolvedAttribute.isDefined_iff.2 notUndefined) layer,notNull⟩

/-- Whatever a layer supplies or the theme has, the result has a value exactly if it names a layer. -/
theorem settled_finish {supply : Option Supply} (reached : ∀ t ∈ theme, t.Reached)
    (layer : ∀ s ∈ supply, s.source ≠ .undefined) : (finish r theme set attr supply).1.Settled := by
  rw [finish_eq]
  cases found : (defined? supply).or (themeSupply? theme attr) with
  | none => exact ResolvedAttribute.settled_missing attr
  | some s =>
    rcases Option.or_eq_some_iff.1 found with upper | ⟨_,inTheme⟩
    · obtain ⟨isSupply,isDefined⟩ := Option.filter_eq_some_iff.1 upper
      exact settled_outcome (by simpa using isDefined) (layer s isSupply)
    · have fromTheme := themeSupply_source inTheme
      exact settled_outcome (themeSupply_defined reached inTheme) (by simp [fromTheme])

/-! ## All results -/

/-- Results for attributes with what the layers before the theme supply are in shape. -/
theorem shaped_finish (r : Registry) (set : Option AttributeSet) {β : Type} (xs : List β) (attrOf : β → ResourceId)
    (supplyOf : β → Option Supply) (reached : ∀ t ∈ theme, t.Reached) (layers : ∀ x ∈ xs, ∀ s ∈ supplyOf x, s.source ≠ .undefined) :
    (AttributeResults.ofValues (xs.map fun x => (finish r theme set (attrOf x) (supplyOf x)).1)).Shaped
      (xs.map attrOf) := by
  have settled : ∀ x ∈ xs, (finish r theme set (attrOf x) (supplyOf x)).1.Settled :=
    fun x mem => settled_finish reached (layers x mem)
  have shaped := AttributeResults.shaped_ofValues _ xs settled
  simpa only [finish_attr] using shaped

theorem source_of_given {value : Option Value} {style : Option Bag} {s : Supply} (supplied : given value style attr = some s) :
    s.source ≠ .undefined := by
  rcases Option.or_eq_some_iff.1 supplied with explicit | ⟨_,inStyle⟩
  · obtain ⟨_,_,_,rfl⟩ := explicitSupply?_eq_some_iff.1 explicit
    simp
  · rw [source_of_bagSupply inStyle]
    simp

/-- Attributes are found from values that are brought along exactly by the theme's own manager, if there are no more
    values than attributes. -/
theorem resolveAttributes_ok_iff : (∃ results m', resolveAttributes m t defaultAttr defaultId values attrs = .ok (results,m')) ↔
    t.owner = m.tag ∧ (values.getD []).length ≤ attrs.length := by
  constructor
  · rintro ⟨results,m',found⟩
    obtain ⟨_,checked,found⟩ := bind_eq_ok_iff.1 found
    refine ⟨Theme.check_eq_ok_iff.1 checked,Nat.not_lt.1 fun long => ?_⟩
    rw [if_pos long] at found
    cases found
  · rintro ⟨owned,fit⟩
    obtain ⟨m',found⟩ := resolveAttributes_eq defaultAttr defaultId owned fit
    exact ⟨_,m',found⟩

/-- The attributes of an element are found exactly by the theme's own manager. -/
theorem applyStyle_ok_iff :
    (∃ results m', applyStyle m t set defaultAttr defaultId attrs = .ok (results,m')) ↔ t.owner = m.tag := by
  constructor
  · rintro ⟨results,m',found⟩
    obtain ⟨_,checked,_⟩ := bind_eq_ok_iff.1 found
    exact Theme.check_eq_ok_iff.1 checked
  · intro owned
    obtain ⟨m',found⟩ := applyStyle_eq set defaultAttr defaultId attrs owned
    exact ⟨_,m',found⟩

section
variable {results : AttributeResults}

theorem shaped_resolveAttributes (reached : t.Reached)
    (found : resolveAttributes m t defaultAttr defaultId values attrs = .ok (results,m')) : results.Shaped attrs := by
  have theirs : ∀ t' ∈ some t, t'.Reached := by simpa using reached
  obtain ⟨owned,fit⟩ := resolveAttributes_ok_iff.1 ⟨results,m',found⟩
  obtain ⟨m'',same⟩ := resolveAttributes_eq defaultAttr defaultId owned fit
  obtain ⟨rfl,_⟩ := Prod.mk.inj (Except.ok.inj (found.symm.trans same))
  have shaped := shaped_finish m.registry none attrs.zipIdx Prod.fst (fun at_i =>
    given (values.getD [])[at_i.2]? (bagOf? m (defaultStyle t defaultAttr defaultId)).1 at_i.1) theirs
      fun _ _ _ supplied => source_of_given supplied
  rwa [List.zipIdx_map_fst] at shaped

theorem shaped_applyStyle (reached : t.Reached)
    (found : applyStyle m t set defaultAttr defaultId attrs = .ok (results,m')) : results.Shaped attrs := by
  have theirs : ∀ t' ∈ some t, t'.Reached := by simpa using reached
  have owned := applyStyle_ok_iff.1 ⟨results,m',found⟩
  obtain ⟨m'',same⟩ := applyStyle_eq set defaultAttr defaultId attrs owned
  obtain ⟨rfl,_⟩ := Prod.mk.inj (Except.ok.inj (found.symm.trans same))
  have shaped := shaped_finish m.registry set attrs id (fun attr =>
    (layersOf m t set defaultAttr defaultId attr).firstPresent?) theirs ?_
  · rwa [List.map_id] at shaped
  · intro attr _ s first
    obtain ⟨layer,mem,rfl⟩ := List.exists_of_findSome?_eq_some first
    exact (upper_source mem).2

/-- There is no theme to have anything. -/
theorem shaped_retrieveAttributes (m : Manager) (element : AttributeSet) (attrs : List ResourceId) :
    (retrieveAttributes m element attrs).1.Shaped attrs := by
  have noTheme : ∀ t ∈ (none : Option Theme), t.Reached := by simp
  have shaped := shaped_finish m.registry (some element) attrs id (fun attr => setSupply? (some element) attr) noTheme
    fun _ _ _ supplied => by simp [source_of_setSupply supplied]
  rw [List.map_id] at shaped
  rw [retrieveAttributes,finishAll,List.map_map,List.map_map]
  exact shaped

end

/-- For a theme that was reached by styles, attributes are found whenever the theme belongs to the manager and no value is
    in excess, and their results always have their shape: one for each attribute in order, of which exactly those that
    name a layer have a value, at positions that ascend, and none is the reference to no resource. -/
theorem results_shaped (m : Manager) (reached : t.Reached) (defaultAttr defaultId : ResourceId)
    (values : Option (List Value)) (set : Option AttributeSet) (attrs : List ResourceId) :
    (((∃ results m', resolveAttributes m t defaultAttr defaultId values attrs = .ok (results,m')) ↔
        t.owner = m.tag ∧ (values.getD []).length ≤ attrs.length) ∧
      ∀ results m', resolveAttributes m t defaultAttr defaultId values attrs = .ok (results,m') → results.Shaped attrs) ∧
    (((∃ results m', applyStyle m t set defaultAttr defaultId attrs = .ok (results,m')) ↔ t.owner = m.tag) ∧
      ∀ results m', applyStyle m t set defaultAttr defaultId attrs = .ok (results,m') → results.Shaped attrs) ∧
    ∀ element, (retrieveAttributes m element attrs).1.Shaped attrs := by
  refine ⟨⟨resolveAttributes_ok_iff,?_⟩,⟨applyStyle_ok_iff,?_⟩,?_⟩
  · intro results m' found
    exact shaped_resolveAttributes reached found
  · intro results m' found
    exact shaped_applyStyle reached found
  · intro element
    exact shaped_retrieveAttributes m element attrs

/-- Of a value that leads to the reference to nothing, one that is undefined and one that the theme has, the first and
    the last have positions. -/
theorem results_shaped_styled :
    let theme := ((Theme.new withThemeStyle).rebase withThemeStyle (some [⟨0x7f020001,true⟩])).1
    let attrs := [0x7f010006,0x7f010007,0x7f010002]
    ∃ results m', resolveAttributes withThemeStyle theme 0x7f010005 0 (some [.reference 0x7f030001]) attrs =
        .ok (results,m') ∧
      results.Shaped attrs ∧ results.indices = [0,2] := by
  intro theme attrs
  have shape := (results_shaped withThemeStyle (.rebase _ _ (.new _) : theme.Reached) 0x7f010005 0
    (some [.reference 0x7f030001]) none attrs).1
  obtain ⟨results,m',found⟩ := shape.1.2 ⟨by decide +kernel,by decide⟩
  have indices : (resolveAttributes withThemeStyle theme 0x7f010005 0 (some [.reference 0x7f030001]) attrs).toOption.map
      (·.1.indices) = some [0,2] := by decide +kernel
  rw [found] at indices
  exact ⟨results,m',found,shape.2 results m' found,Option.some.inj indices⟩

end Retrieval

end AndroidResources
