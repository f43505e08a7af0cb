import AndroidResources.Proofs.AttributePrecedence
import AndroidResources.Proofs.ReferenceChains

/-!
# Attributes from values that a caller brings along

Each attribute is supplied by the value in its slot, else by the default style, which the theme may name, else by the
theme (`Retrieval.Supplied`). What is supplied is followed through the theme and then along references; where that leads
nowhere it stays as it is, and what turns out to be nothing is empty on purpose (`Retrieval.Reports`). All attributes are
found so whatever the values, the styles and the theme are (`Retrieval.resolveAttributes_supplied`).
-/
namespace AndroidResources

/-- A value that is empty on purpose where it was undefined or the reference to no resource. -/
def Selected.orEmpty (s : Selected) : Selected :=
  if s.value.isNullReference || s.value.isUndefined then { s with value := .empty, cookie := .invalid } else s

theorem Selected.orEmpty_not_null (s : Selected) : ¬ s.orEmpty.value.isNullReference ∧ ¬ s.orEmpty.value.isUndefined := by
  unfold orEmpty
  split
  · simp [Value.empty,Value.isNullReference,Value.isUndefined]
  next notNull => simpa using notNull

/-! ## What values lead to -/

/-- Whether a value stands for what its chain of references ends with. -/
def Registry.StandsFor (r : Registry) (s : Selected) (result : Option Selected) : Prop :=
  ∃ ids u, r.Chain s ids u ∧ ids.Nodup ∧ r.Ends ids u result

theorem Registry.standsFor_iff {r : Registry} {s : Selected} {result : Option Selected} :
    r.StandsFor s result ↔ r.resolve? s = result :=
  resolve?_eq_iff.symm

/-- A value that is no reference stands for itself. -/
theorem Registry.follow_of_no_reference {s : Selected} (r : Registry) (noReference : s.value.type ≠ .reference) :
    (r.follow s).result = some s := by
  have final : s.isFinal := by simp [Selected.isFinal,noReference]
  have meant : s.meant = s := by simp [Selected.meant,Value.isNullReference,noReference]
  rw [follow,maxHops,walk_final final,meant]

namespace Theme
variable {t : Theme} {r : Registry} {s : Selected} {result : Option Selected}

/-- Whether an attribute has what its chain of attributes ends with: a value with its style, or nothing. -/
def Has (t : Theme) (attr : ResourceId) (found : Option (Selected × ResourceId)) : Prop :=
  ∃ passed a, t.Chain attr passed a ∧ t.Ends passed a found

theorem has_iff {attr : ResourceId} {found : Option (Selected × ResourceId)} :
    t.Has attr found ↔ t.lookup? attr = found :=
  lookup?_eq_iff.symm

/-- What a value leads to: a theme attribute to what its value in the theme stands for, or nowhere if it has none, and
    everything else to what it stands for itself. -/
inductive LeadsTo (t : Theme) (r : Registry) (s : Selected) : Option Selected → Prop
  | direct {result : Option Selected} : s.value.type ≠ .themeAttribute → r.StandsFor s result → LeadsTo t r s result
  | behind {found : Selected} {style : ResourceId} {result : Option Selected} : s.value.type = .themeAttribute →
      t.Has s.value.data (some (found,style)) → r.StandsFor (found.behind s) result → LeadsTo t r s result
  | unset : s.value.type = .themeAttribute → t.Has s.value.data none → LeadsTo t r s none

theorem follow_of_no_attribute (t : Theme) (r : Registry) (noAttribute : s.value.type ≠ .themeAttribute) :
    t.follow r s = r.follow s := by
  simp [follow,substitute?,noAttribute]

theorem LeadsTo.result_eq (leads : t.LeadsTo r s result) : (t.follow r s).result = result := by
  unfold follow substitute? value?
  cases leads with
  | direct noAttribute stands =>
    rw [if_neg noAttribute]
    exact Registry.standsFor_iff.1 stands
  | behind isAttribute has stands =>
    rw [if_pos isAttribute,has_iff.1 has]
    exact Registry.standsFor_iff.1 stands
  | unset isAttribute nothing =>
    rw [if_pos isAttribute,has_iff.1 nothing]
    rfl

theorem leadsTo_follow (t : Theme) (r : Registry) (s : Selected) : t.LeadsTo r s (t.follow r s).result := by
  by_cases isAttribute : s.value.type = .themeAttribute
  · cases found : t.lookup? s.value.data with
    | none =>
      have leads : t.LeadsTo r s none := .unset isAttribute (has_iff.2 found)
      rwa [leads.result_eq]
    | some value =>
      have leads : t.LeadsTo r s (r.resolve? (value.1.behind s)) :=
        .behind isAttribute (has_iff.2 found) (Registry.standsFor_iff.2 rfl)
      rwa [leads.result_eq]
  · have leads : t.LeadsTo r s (r.resolve? s) := .direct isAttribute (Registry.standsFor_iff.2 rfl)
    rwa [leads.result_eq]

/-- There is one place that a value leads to, or nowhere. -/
theorem leadsTo_iff : t.LeadsTo r s result ↔ (t.follow r s).result = result := by
  constructor
  · exact LeadsTo.result_eq
  · rintro rfl
    exact leadsTo_follow t r s

end Theme

namespace Retrieval
variable {r : Registry} {t : Theme} {theme : Option Theme} {set : Option AttributeSet} {attr : ResourceId}

/-! ## What is reported -/

/-- What a result reports of what is supplied: the value that it leads to, or else the value itself, and its layer. -/
inductive Reports (r : Registry) (t : Theme) (attr : ResourceId) : Option Supply → ResolvedAttribute → Prop
  | nothing : Reports r t attr none (.missing attr)
  | supplied {s : Supply} {result : Option Selected} {value : Selected} : t.LeadsTo r s.value result →
      value = (result.getD s.value).orEmpty →
      Reports r t attr (some s) ⟨attr,value,s.source,s.sourceId,textOf r none value⟩

/-- A value that stands for no other one is followed to itself. -/
theorem follow_of_direct {s : Supply} (direct : isIndirect s.value.value.type = false) :
    (follow r theme s).result = some s.value := by
  obtain ⟨noReference,noAttribute⟩ : s.value.value.type ≠ .reference ∧ s.value.value.type ≠ .themeAttribute := by
    simpa [isIndirect] using direct
  have stays := r.follow_of_no_reference noReference
  unfold follow
  split
  · exact stays
  · split
    · rfl
    · split
      next t => rwa [t.follow_of_no_attribute r noAttribute]
      next => exact stays

/-- Whatever layer supplies a value, it is empty on purpose exactly if it turns out to be nothing. -/
theorem settle_eq {s : Supply} (defined : ¬ s.value.value.isUndefined) :
    settle (isIndirect s.value.value.type) ((follow r theme s).result.getD s.value) =
      ((follow r theme s).result.getD s.value).orEmpty := by
  cases indirect : isIndirect s.value.value.type with
  | true => simp [settle,Selected.orEmpty]
  | false =>
    rw [follow_of_direct indirect,Option.getD_some]
    simp [settle,Selected.orEmpty,defined]

/-- Values of the theme, which are no theme attributes, lead where those of other layers lead. -/
theorem follow_eq {s : Supply} (left : s.source = .theme → s.value.value.type ≠ .themeAttribute) :
    (follow r (some t) s).result = (t.follow r s.value).result := by
  unfold follow
  split
  next fromTheme => rw [t.follow_of_no_attribute r (left fromTheme)]
  next =>
    split
    next null =>
      have noAttribute : s.value.value.type ≠ .themeAttribute := by simp [null]
      have noReference : s.value.value.type ≠ .reference := by simp [null]
      rw [t.follow_of_no_attribute r noAttribute,r.follow_of_no_reference noReference]
    next => rfl

theorem reports_iff {supply : Option Supply} {result : ResolvedAttribute}
    (defined : ∀ s ∈ supply, ¬ s.value.value.isUndefined)
    (left : ∀ s ∈ supply, s.source = .theme → s.value.value.type ≠ .themeAttribute) :
    Reports r t attr supply result ↔ (outcome r (some t) none attr supply).1 = result := by
  cases supply with
  | none =>
    constructor
    · rintro ⟨⟩
      rfl
    · rintro rfl
      exact .nothing
  | some s =>
    have followed : (follow r (some t) s).result = (t.follow r s.value).result := follow_eq (left s rfl)
    have value : settle (isIndirect s.value.value.type) ((t.follow r s.value).result.getD s.value) =
        ((t.follow r s.value).result.getD s.value).orEmpty := by
      rw [← followed]
      exact settle_eq (defined s rfl)
    simp only [outcome,followed,value]
    constructor
    · rintro (_ | ⟨leads,rfl⟩)
      rw [Theme.leadsTo_iff.1 leads]
    · rintro rfl
      exact .supplied (Theme.leadsTo_iff.2 rfl) rfl

/-! ## What is supplied -/

/-- What an attribute is supplied with: the value in its slot, what the default style has, what the theme has, or
    nothing. Each comes after those that have no defined value. -/
inductive Supplied (t : Theme) (value : Option Value) (style : Option Bag) (attr : ResourceId) : Option Supply → Prop
  | explicit {v : Value} : value = some v → ¬ v.isUndefined →
      Supplied t value style attr (some ⟨.detached v,.explicit,0⟩)
  | defaultStyle {bag : Bag} {e : BagEntry} : (∀ v ∈ value, v.isUndefined) → style = some bag →
      bag.find? attr = some e → ¬ e.value.isUndefined →
      Supplied t value style attr (some ⟨bag.selected e,.defaultStyle,e.style⟩)
  | theme {s : Selected} {id : ResourceId} : (∀ v ∈ value, v.isUndefined) →
      (∀ bag ∈ style, ∀ e ∈ bag.find? attr, e.value.isUndefined) → t.Has attr (some (s,id)) →
      Supplied t value style attr (some ⟨s,.theme,id⟩)
  | nothing : (∀ v ∈ value, v.isUndefined) → (∀ bag ∈ style, ∀ e ∈ bag.find? attr, e.value.isUndefined) →
      t.Has attr none → Supplied t value style attr none

section
variable {value : Option Value} {style : Option Bag} {s : Supply}

theorem explicitSupply?_eq_some_iff :
    explicitSupply? value = some s ↔ ∃ v, value = some v ∧ ¬ v.isUndefined ∧ s = ⟨.detached v,.explicit,0⟩ := by
  constructor
  · intro found
    obtain ⟨v,isFound,rfl⟩ := Option.map_eq_some_iff.1 found
    obtain ⟨rfl,isDefined⟩ := Option.filter_eq_some_iff.1 isFound
    exact ⟨v,rfl,by simpa using isDefined,rfl⟩
  · rintro ⟨v,rfl,isDefined,rfl⟩
    simp [explicitSupply?,isDefined]

theorem explicitSupply?_eq_none_iff : explicitSupply? value = none ↔ ∀ v ∈ value, v.isUndefined := by
  simp [explicitSupply?,Option.filter_eq_none_iff]

theorem defined?_bagSupply?_eq_some_iff {source : AttributeSource} :
    defined? (bagSupply? source style attr) = some s ↔ ∃ bag e, style = some bag ∧ bag.find? attr = some e ∧
      ¬ e.value.isUndefined ∧ s = ⟨bag.selected e,source,e.style⟩ := by
  constructor
  · intro found
    obtain ⟨isFound,isDefined⟩ := Option.filter_eq_some_iff.1 found
    obtain ⟨bag,rfl,inBag⟩ := Option.bind_eq_some_iff.1 isFound
    obtain ⟨e,listed,rfl⟩ := Option.map_eq_some_iff.1 inBag
    exact ⟨bag,e,rfl,listed,by simpa [Bag.selected] using isDefined,rfl⟩
  · rintro ⟨bag,e,rfl,listed,isDefined,rfl⟩
    simp [defined?,bagSupply?,listed,Bag.selected,isDefined]

theorem defined?_bagSupply?_eq_none_iff {source : AttributeSource} :
    defined? (bagSupply? source style attr) = none ↔ ∀ bag ∈ style, ∀ e ∈ bag.find? attr, e.value.isUndefined := by
  rw [Option.eq_none_iff_forall_ne_some]
  constructor
  · intro nothing bag isStyle e listed
    by_contra isDefined
    exact nothing _ (defined?_bagSupply?_eq_some_iff.2 ⟨bag,e,isStyle,listed,isDefined,rfl⟩)
  · intro nothing s found
    obtain ⟨bag,e,isStyle,listed,isDefined,_⟩ := defined?_bagSupply?_eq_some_iff.1 found
    exact isDefined (nothing bag isStyle e listed)

theorem themeSupply?_eq_some_iff :
    themeSupply? (some t) attr = some s ↔ ∃ value id, t.Has attr (some (value,id)) ∧ s = ⟨value,.theme,id⟩ := by
  simp [themeSupply?,Theme.has_iff,Option.map_eq_some_iff,eq_comm (a := s)]

theorem themeSupply?_eq_none_iff : themeSupply? (some t) attr = none ↔ t.Has attr none := by
  simp [themeSupply?,Theme.has_iff]

/-- What the layers before the theme have for an attribute. -/
def given (value : Option Value) (style : Option Bag) (attr : ResourceId) : Option Supply :=
  (explicitSupply? value).or (bagSupply? .defaultStyle style attr)

/-- A value that is brought along is defined. -/
theorem defined?_given : defined? (given value style attr) =
    (explicitSupply? value).or (defined? (bagSupply? .defaultStyle style attr)) := by
  unfold given
  cases found : explicitSupply? value with
  | none => rfl
  | some s =>
    obtain ⟨v,_,isDefined,rfl⟩ := explicitSupply?_eq_some_iff.1 found
    simp [defined?,Selected.detached,isDefined]

/-- An attribute is supplied with the first that is defined. -/
theorem supplied_iff {supply : Option Supply} :
    Supplied t value style attr supply ↔ (defined? (given value style attr)).or (themeSupply? (some t) attr) = supply := by
  rw [defined?_given]
  constructor
  · rintro (⟨isValue,isDefined⟩ | ⟨noValue,isStyle,listed,isDefined⟩ | ⟨noValue,noEntry,has⟩ | ⟨noValue,noEntry,hasNot⟩)
    · rw [explicitSupply?_eq_some_iff.2 ⟨_,isValue,isDefined,rfl⟩]
      rfl
    · rw [explicitSupply?_eq_none_iff.2 noValue,
        defined?_bagSupply?_eq_some_iff.2 ⟨_,_,isStyle,listed,isDefined,rfl⟩]
      rfl
    · rw [explicitSupply?_eq_none_iff.2 noValue,defined?_bagSupply?_eq_none_iff.2 noEntry,
        themeSupply?_eq_some_iff.2 ⟨_,_,has,rfl⟩]
      rfl
    · rw [explicitSupply?_eq_none_iff.2 noValue,defined?_bagSupply?_eq_none_iff.2 noEntry,
        themeSupply?_eq_none_iff.2 hasNot]
      rfl
  · intro found
    cases supply with
    | some s =>
      rw [Option.or_eq_some_iff,Option.or_eq_some_iff,Option.or_eq_none_iff] at found
      rcases found with (explicit | ⟨noValue,inStyle⟩) | ⟨⟨noValue,noEntry⟩,inTheme⟩
      · obtain ⟨v,isValue,isDefined,rfl⟩ := explicitSupply?_eq_some_iff.1 explicit
        exact .explicit isValue isDefined
      · obtain ⟨bag,e,isStyle,listed,isDefined,rfl⟩ := defined?_bagSupply?_eq_some_iff.1 inStyle
        exact .defaultStyle (explicitSupply?_eq_none_iff.1 noValue) isStyle listed isDefined
      · obtain ⟨found,id,has,rfl⟩ := themeSupply?_eq_some_iff.1 inTheme
        exact .theme (explicitSupply?_eq_none_iff.1 noValue) (defined?_bagSupply?_eq_none_iff.1 noEntry) has
    | none =>
      rw [Option.or_eq_none_iff,Option.or_eq_none_iff] at found
      obtain ⟨⟨noValue,noEntry⟩,hasNot⟩ := found
      exact .nothing (explicitSupply?_eq_none_iff.1 noValue) (defined?_bagSupply?_eq_none_iff.1 noEntry)
        (themeSupply?_eq_none_iff.1 hasNot)

/-- What an attribute is supplied with is defined, as a theme that was reached by styles has no undefined value. -/
theorem Supplied.defined (reached : t.Reached) (supplied : Supplied t value style attr (some s)) :
    ¬ s.value.value.isUndefined := by
  cases supplied with
  | explicit _ isDefined => exact isDefined
  | defaultStyle _ _ _ isDefined => exact isDefined
  | theme _ _ has =>
    obtain ⟨_,_,_,ends⟩ := has
    cases ends with
    | value present => exact reached.defined _ _ present

theorem Supplied.no_attribute (supplied : Supplied t value style attr (some s)) (fromTheme : s.source = .theme) :
    s.value.value.type ≠ .themeAttribute := by
  cases supplied with
  | explicit => cases fromTheme
  | defaultStyle => cases fromTheme
  | theme _ _ has =>
    obtain ⟨_,_,_,ends⟩ := has
    cases ends with
    | value _ noAttribute => exact noAttribute

/-- What an attribute is supplied with is reported, and nothing else. -/
theorem finish_eq_iff (reached : t.Reached) {result : ResolvedAttribute} :
    (finish r (some t) none attr (given value style attr)).1 = result ↔
      ∃ supply, Supplied t value style attr supply ∧ Reports r t attr supply result := by
  rw [finish_eq]
  have reports {supply : Option Supply} (supplied : Supplied t value style attr supply) :
      Reports r t attr supply result ↔ (outcome r (some t) none attr supply).1 = result := by
    refine reports_iff ?_ ?_
    · rintro s rfl
      exact supplied.defined reached
    · rintro s rfl
      exact supplied.no_attribute
  constructor
  · intro same
    have supplied := supplied_iff.2 (rfl : (defined? (given value style attr)).or (themeSupply? (some t) attr) = _)
    exact ⟨_,supplied,(reports supplied).2 same⟩
  · rintro ⟨supply,supplied,reported⟩
    rw [supplied_iff.1 supplied]
    exact (reports supplied).1 reported

end

/-! ## The default style -/

/-- The default style: what the theme has for an attribute, if that is a reference, or a style as such. -/
inductive NamesStyle (t : Theme) (attr id : ResourceId) : ResourceId → Prop
  | theme {s : Selected} {style : ResourceId} : t.Has attr (some (s,style)) → s.value.type = .reference →
      NamesStyle t attr id s.value.data
  | given : (∀ s style, t.Has attr (some (s,style)) → s.value.type ≠ .reference) → NamesStyle t attr id id

/-- A theme that was reached by styles has nothing at zero, so zero need not be told apart. -/
theorem defaultStyle_eq (reached : t.Reached) (id : ResourceId) : defaultStyle t attr id =
    match t.lookup? attr with
    | some (s,_) => if s.value.type = .reference then s.value.data else id
    | none => id := by
  have nothing : attr = 0 → t.lookup? attr = none := by
    rintro rfl
    cases present : t.entries.get? 0 with
    | none => simp [Theme.lookup?,maxHops,Theme.lookupWithin,present]
    | some e => exact absurd (reached.isValid present) (by decide)
  unfold defaultStyle Theme.value?
  split
  next zero => rw [nothing zero]
  next =>
    cases t.lookup? attr <;> rfl

theorem namesStyle_iff (reached : t.Reached) {id style : ResourceId} :
    NamesStyle t attr id style ↔ defaultStyle t attr id = style := by
  rw [defaultStyle_eq reached]
  constructor
  · rintro (⟨has,isReference⟩ | noReference)
    · rw [Theme.has_iff.1 has]
      exact if_pos isReference
    · cases found : t.lookup? attr with
      | none => rfl
      | some value => exact if_neg (noReference value.1 value.2 (Theme.has_iff.2 found))
  · rintro rfl
    cases found : t.lookup? attr with
    | none =>
      refine .given fun s style has => ?_
      cases found.symm.trans (Theme.has_iff.1 has)
    | some value =>
      obtain ⟨s,style⟩ := value
      by_cases isReference : s.value.type = .reference
      · simp only [isReference,if_true]
        exact .theme (Theme.has_iff.2 found) isReference
      · simp only [isReference,if_false]
        refine .given fun s' style' has => ?_
        obtain ⟨rfl,rfl⟩ := Prod.mk.inj (Option.some.inj (found.symm.trans (Theme.has_iff.1 has)))
        exact isReference

/-! ## All attributes -/

section
variable {m : Manager} {values : Option (List Value)} {attrs : List ResourceId} (defaultAttr defaultId : ResourceId)

/-- The default style is the one that the manager has at the start. -/
theorem resolveAttributes_eq (owned : t.owner = m.tag) (fit : (values.getD []).length ≤ attrs.length) :
    ∃ m', resolveAttributes m t defaultAttr defaultId values attrs =
      .ok (.ofValues (attrs.zipIdx.map fun (attr,position) =>
        (finish m.registry (some t) none attr
          (given (values.getD [])[position]? (bagOf? m (defaultStyle t defaultAttr defaultId)).1 attr)).1),m') := by
  have registry := (Manager.Asked.bagOf? m (defaultStyle t defaultAttr defaultId)).registry
  simp only [resolveAttributes,Theme.check,owned,if_true]
  rw [if_neg (Nat.not_lt.2 fit)]
  refine ⟨_,congrArg Except.ok (Prod.ext ?_ rfl)⟩
  simp only [finishAll,registry,List.map_map]
  rfl

/-- Attributes are found if there are no more values than attributes, each as it is supplied: by the value in its slot,
    by the default style, which is the one that the theme names or else the one given, by the theme, or not at all. -/
theorem resolveAttributes_supplied (reached : t.Reached) (owned : t.owner = m.tag)
    (fit : (values.getD []).length ≤ attrs.length) :
    ∃ style results m', resolveAttributes m t defaultAttr defaultId values attrs = .ok (results,m') ∧
      (∀ id, NamesStyle t defaultAttr defaultId id ↔ id = style) ∧
      results.values.length = attrs.length ∧
      ∀ (i : Nat) (attr : ResourceId), attrs[i]? = some attr → ∀ result, results.values[i]? = some result ↔
        ∃ supply, Supplied t (values.getD [])[i]? (bagOf? m style).1 attr supply ∧
          Reports m.registry t attr supply result := by
  obtain ⟨m',found⟩ := resolveAttributes_eq defaultAttr defaultId owned fit
  refine ⟨defaultStyle t defaultAttr defaultId,_,m',found,?_,by simp,?_⟩
  · intro id
    rw [namesStyle_iff reached,eq_comm]
  · intro i attr at_i result
    rw [← finish_eq_iff reached]
    simp [at_i]

end

/-- A manager with a style for buttons, a style for themes that names it, a number and a reference to nothing. -/
def withThemeStyle : Manager :=
  let entry (content : Content) : Entry := ⟨⟨"app","style","S"⟩,[⟨{},content⟩]⟩
  let button := entry (.bag 0 [(0x7f010001,.themeAttribute 0x7f010003),(0x7f010002,.undefined)])
  let theme := entry (.bag 0 [(0x7f010002,.themeAttribute 0x7f010004),(0x7f010003,.reference 0x7f030000),
    (0x7f010004,⟨.decimal,9⟩),(0x7f010005,.reference 0x7f020000)])
  let number := entry (.value ⟨.decimal,5⟩)
  let nothing := entry (.value (.reference 0))
  let entries := [(0x7f020000,button),(0x7f020001,theme),(0x7f030000,number),(0x7f030001,nothing)]
  let table : Table := { packages := .ofList [(0x7f,"app")], entries := .ofList entries }
  { registry := { sources := [{ path := "base", table }] } }

/-- An undefined value leaves an attribute to the default style, which the theme names, and the value there leads through
    the theme to a number. An undefined value of the style leaves one to the theme. A value that leads to the reference
    to nothing is empty. -/
theorem resolveAttributes_supplied_styled :
    let theme := ((Theme.new withThemeStyle).rebase withThemeStyle (some [⟨0x7f020001,true⟩])).1
    let report (a : ResolvedAttribute) := (a.source,a.sourceId,a.value.value)
    ∃ results m', resolveAttributes withThemeStyle theme 0x7f010005 0
        (some [.undefined,.undefined,.reference 0x7f030001]) [0x7f010001,0x7f010002,0x7f010006,0x7f010007] =
          .ok (results,m') ∧
      results.values[0]?.map report = some (.defaultStyle,0x7f020000,⟨.decimal,5⟩) ∧
      results.values[1]?.map report = some (.theme,0x7f020001,⟨.decimal,9⟩) ∧
      results.values[2]?.map report = some (.explicit,0,.empty) ∧
      results.values[3]?.map report = some (.undefined,0,.undefined) := by
  intro theme report
  let values : List Value := [.undefined,.undefined,.reference 0x7f030001]
  let attrs : List ResourceId := [0x7f010001,0x7f010002,0x7f010006,0x7f010007]
  have reached : theme.Reached := .rebase _ _ (.new _)
  have owned : theme.owner = withThemeStyle.tag := by decide +kernel
  have fit : ((some values).getD []).length ≤ attrs.length := by decide
  obtain ⟨style,results,m',found,named,_,each⟩ := resolveAttributes_supplied 0x7f010005 0 reached owned fit
  have button : 0x7f020000 = style := (named _).1 ((namesStyle_iff reached).2 (by decide +kernel))
  subst button
  let supply (i : Nat) (attr : ResourceId) : Option Supply :=
    (defined? (given values[i]? (bagOf? withThemeStyle 0x7f020000).1 attr)).or (themeSupply? (some theme) attr)
  have supplied (i : Nat) (attr : ResourceId) (at_i : attrs[i]? = some attr) {reported}
      (leads : (supply i attr).map (fun s => (s.source,s.sourceId,
        ((theme.follow withThemeStyle.registry s.value).result.getD s.value).orEmpty.value)) = some reported) :
      results.values[i]?.map report = some reported := by
    obtain ⟨s,isSupply,rfl⟩ := Option.map_eq_some_iff.1 leads
    have result := (each i attr at_i _).2 ⟨_,supplied_iff.2 isSupply,.supplied (Theme.leadsTo_iff.2 rfl) rfl⟩
    rw [result]
    rfl
  have missing : supply 3 0x7f010007 = none := by decide +kernel
  have result := (each 3 0x7f010007 rfl _).2 ⟨_,supplied_iff.2 missing,.nothing⟩
  refine ⟨results,m',found,supplied 0 0x7f010001 rfl ?_,supplied 1 0x7f010002 rfl ?_,supplied 2 0x7f010006 rfl ?_,?_⟩
  · decide +kernel
  · decide +kernel
  · decide +kernel
  · rw [result]
    rfl

end Retrieval

end AndroidResources
