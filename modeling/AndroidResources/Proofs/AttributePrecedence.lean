import AndroidResources.Proofs.CacheTransparency
import AndroidResources.Proofs.ThemeEntries

/-!
# Which layer an attribute comes from

An attribute of an element is meant to come from the first of four layers that has a defined value: the
element, its style, the default style and the theme. An undefined value hides those of the styles below it,
though not that of the theme; this is the only deviation (`Retrieval.Layers.Hidden`).
-/
namespace AndroidResources

namespace Retrieval

/-! ## Layers -/

/-- What each layer has for an attribute. -/
structure Layers where
  element : Option Supply
  elementStyle : Option Supply
  defaultStyle : Option Supply
  theme : Option Supply

/-- Where an undefined value in front hides nothing, the first value is the first one that is defined. -/
theorem findSome?_defined? {layers : List (Option Supply)}
    (shown : ∀ s, layers.findSome? id = some s → s.value.value.isUndefined → ∀ layer ∈ layers, defined? layer = none) :
    layers.findSome? defined? = defined? (layers.findSome? id) := by
  induction layers with
  | nil => rfl
  | cons first rest ih =>
    cases first with
    | none => exact ih fun s found isUndefined layer mem => shown s found isUndefined layer (List.mem_cons_of_mem _ mem)
    | some s =>
      cases isUndefined : s.value.value.isUndefined with
      | false =>
        have first : defined? (some s) = some s := by simp [defined?,isUndefined]
        rw [List.findSome?_cons,first]
        exact first.symm
      | true =>
        have nothing := shown s rfl isUndefined
        rw [List.findSome?_eq_none_iff.2 nothing]
        exact (nothing (some s) List.mem_cons_self).symm

namespace Layers

/-- The layers before the theme, the first one first. -/
def upper (l : Layers) : List (Option Supply) := [l.element,l.elementStyle,l.defaultStyle]

/-- All layers, the first one first. -/
def all (l : Layers) : List (Option Supply) := l.upper ++ [l.theme]

/-- What the first layer with a defined value has. -/
def firstDefined? (l : Layers) : Option Supply := l.all.findSome? defined?

/-- What the first layer before the theme with any value has. -/
def firstPresent? (l : Layers) : Option Supply := l.upper.findSome? id

/-- Whether the first value before the theme is undefined and a later one is not. -/
def Hidden (l : Layers) : Prop :=
  (∃ s, l.firstPresent? = some s ∧ s.value.value.isUndefined) ∧ ∃ layer ∈ l.upper, (defined? layer).isSome

instance (l : Layers) : Decidable l.Hidden :=
  inferInstanceAs (Decidable (_ ∧ _))

variable {l : Layers}

theorem firstPresent?_eq : l.firstPresent? = l.element.or (l.elementStyle.or l.defaultStyle) := by
  rcases l with ⟨_ | _,_ | _,_ | _,_⟩ <;> rfl

theorem firstDefined?_eq : l.firstDefined? = (l.upper.findSome? defined?).or (defined? l.theme) := by
  rw [firstDefined?,all,List.findSome?_append,List.findSome?_singleton]

/-- The first value decides where it hides none. -/
theorem firstDefined?_of_not_hidden (shown : ¬ l.Hidden) :
    l.firstDefined? = (defined? l.firstPresent?).or (defined? l.theme) := by
  rw [firstDefined?_eq,findSome?_defined?]
  · rfl
  · intro s first isUndefined layer mem
    rw [← Option.not_isSome_iff_eq_none]
    exact fun isDefined => shown ⟨⟨s,first,isUndefined⟩,layer,mem,isDefined⟩

/-- What is hidden is not the theme's. -/
theorem firstDefined?_of_hidden (hidden : l.Hidden) : ∃ s, l.firstDefined? = some s ∧ some s ∈ l.upper := by
  obtain ⟨_,layer,mem,isDefined⟩ := hidden
  cases found : l.upper.findSome? defined? with
  | none =>
    rw [List.findSome?_eq_none_iff.1 found layer mem] at isDefined
    cases isDefined
  | some s =>
    obtain ⟨layer,mem,isDefined⟩ := List.exists_of_findSome?_eq_some found
    obtain ⟨rfl,_⟩ := Option.filter_eq_some_iff.1 isDefined
    exact ⟨s,by rw [firstDefined?_eq,found]; rfl,mem⟩

theorem defined?_firstPresent?_of_hidden (hidden : l.Hidden) : defined? l.firstPresent? = none := by
  obtain ⟨⟨s,first,isUndefined⟩,_⟩ := hidden
  rw [first]
  simp [defined?,isUndefined]

end Layers

/-! ## Results -/

/-- The value of an attribute from what a layer has, with the look-ups on the way. -/
def outcome (r : Registry) (theme : Option Theme) (set : Option AttributeSet) (attr : ResourceId) :
    Option Supply → ResolvedAttribute × List ResourceId
  | none => (.missing attr,[])
  | some s =>
    let walk := follow r theme s
    let value := settle (isIndirect s.value.value.type) (walk.result.getD s.value)
    (⟨attr,value,s.source,s.sourceId,textOf r set value⟩,walk.lookups)

variable {r : Registry} {theme : Option Theme} {set : Option AttributeSet} {attr : ResourceId}

theorem finish_eq (supply : Option Supply) :
    finish r theme set attr supply = outcome r theme set attr ((defined? supply).or (themeSupply? theme attr)) := by
  unfold finish
  split
  next nothing => rw [nothing]; rfl
  next s found => rw [found]; rfl

/-- The source that is reported is that of the layer. -/
theorem outcome_source (supply : Option Supply) :
    (outcome r theme set attr supply).1.source = (supply.map Supply.source).getD .undefined := by
  cases supply <;> rfl

/-! ## Elements -/

/-- What each layer has for an attribute of an element. -/
def layersOf (m : Manager) (t : Theme) (set : Option AttributeSet) (defaultAttr defaultId attr : ResourceId) :
    Layers where
  element := setSupply? set attr
  elementStyle := bagSupply? .xmlStyle (bagOf? m (elementStyle t set)).1 attr
  defaultStyle := bagSupply? .defaultStyle (bagOf? m (defaultStyle t defaultAttr defaultId)).1 attr
  theme := themeSupply? (some t) attr

section
variable {m : Manager} {t : Theme} {defaultAttr defaultId : ResourceId}

theorem source_of_bagSupply {s : Supply} {source : AttributeSource} {bag : Option Bag}
    (found : bagSupply? source bag attr = some s) : s.source = source := by
  obtain ⟨bag,_,found⟩ := Option.bind_eq_some_iff.1 found
  obtain ⟨e,_,rfl⟩ := Option.map_eq_some_iff.1 found
  rfl

/-- What a style supplies stands in its bag. -/
theorem entry_of_bagSupply {s : Supply} {source : AttributeSource} {id : ResourceId}
    (found : bagSupply? source (bagOf? m id).1 attr = some s) :
    ∃ bag, (m.bag? id).1 = some bag ∧ ∃ e ∈ bag.entries, s = ⟨bag.selected e,source,e.style⟩ := by
  obtain ⟨bag,isStyle,inBag⟩ := Option.bind_eq_some_iff.1 found
  obtain ⟨e,isEntry,rfl⟩ := Option.map_eq_some_iff.1 inBag
  have listed : e ∈ bag.entries := List.mem_reverse.1 (List.mem_of_find?_eq_some isEntry)
  unfold bagOf? at isStyle
  split at isStyle
  · cases isStyle
  · exact ⟨bag,isStyle,e,listed,rfl⟩

theorem source_of_setSupply {s : Supply} (found : setSupply? set attr = some s) : s.source = .xmlAttribute := by
  obtain ⟨set,_,found⟩ := Option.bind_eq_some_iff.1 found
  obtain ⟨v,_,rfl⟩ := Option.map_eq_some_iff.1 found
  rfl

/-- What a layer before the theme has says so. -/
theorem upper_source {s : Supply} (mem : some s ∈ (layersOf m t set defaultAttr defaultId attr).upper) :
    s.source ≠ .theme ∧ s.source ≠ .undefined := by
  simp only [Layers.upper,layersOf,List.mem_cons,List.not_mem_nil,or_false] at mem
  rcases mem with element | elementStyle | defaultStyle
  · simp [source_of_setSupply element.symm]
  · simp [source_of_bagSupply elementStyle.symm]
  · simp [source_of_bagSupply defaultStyle.symm]

/-- A theme that was reached by styles has no undefined value. -/
theorem themeSupply_defined {s : Supply} (reached : ∀ t ∈ theme, t.Reached) (found : themeSupply? theme attr = some s) :
    ¬ s.value.value.isUndefined := by
  obtain ⟨⟨value,style⟩,isFound,rfl⟩ := Option.map_eq_some_iff.1 found
  obtain ⟨t,isTheme,isFound⟩ := Option.bind_eq_some_iff.1 isFound
  exact Theme.lookupWithin_defined (reached t isTheme).defined maxHops isFound

theorem defined?_theme (reached : t.Reached) : defined? (themeSupply? (some t) attr) = themeSupply? (some t) attr := by
  have theirs : ∀ t' ∈ some t, t'.Reached := by simpa using reached
  cases found : themeSupply? (some t) attr with
  | none => rfl
  | some s => simpa [defined?] using themeSupply_defined theirs found

theorem themeSupply_source {s : Supply} (found : themeSupply? theme attr = some s) : s.source = .theme := by
  obtain ⟨_,_,rfl⟩ := Option.map_eq_some_iff.1 found
  rfl

/-- Questions in between do not change what a bag is. -/
theorem bagOf?_of_asked {m' : Manager} (asked : m.Asked m') (id : ResourceId) : (bagOf? m' id).1 = (bagOf? m id).1 := by
  unfold bagOf?
  split
  · rfl
  · exact asked.bag?_eq id

/-- What an element is given for an attribute: what the first layer before the theme has is finished. -/
def retrieved (m : Manager) (t : Theme) (set : Option AttributeSet) (defaultAttr defaultId attr : ResourceId) :
    ResolvedAttribute :=
  (finish m.registry (some t) set attr (layersOf m t set defaultAttr defaultId attr).firstPresent?).1

/-- All bags are those that the manager has at the start. -/
theorem applyStyle_eq (set : Option AttributeSet) (defaultAttr defaultId : ResourceId) (attrs : List ResourceId)
    (owned : t.owner = m.tag) :
    ∃ m', applyStyle m t set defaultAttr defaultId attrs =
      .ok (.ofValues (attrs.map (retrieved m t set defaultAttr defaultId)),m') := by
  have first := Manager.Asked.bagOf? m (defaultStyle t defaultAttr defaultId)
  have both := first.trans (Manager.Asked.bagOf? _ (elementStyle t set))
  have registry := both.registry
  have element := bagOf?_of_asked first (elementStyle t set)
  simp only [applyStyle,Theme.check,owned,if_true]
  generalize (bagOf? m (defaultStyle t defaultAttr defaultId)).2 = m₁ at *
  refine ⟨_,congrArg Except.ok (Prod.ext ?_ rfl)⟩
  simp only [finishAll,registry,element,List.map_map]
  refine congrArg AttributeResults.ofValues (List.map_congr_left ?_)
  intro attr _
  simp only [Function.comp,retrieved,Layers.firstPresent?_eq,layersOf]

theorem retrieved_of_shown (reached : t.Reached) (shown : ¬ (layersOf m t set defaultAttr defaultId attr).Hidden) :
    retrieved m t set defaultAttr defaultId attr =
      (outcome m.registry (some t) set attr (layersOf m t set defaultAttr defaultId attr).firstDefined?).1 := by
  rw [retrieved,finish_eq,Layers.firstDefined?_of_not_hidden shown]
  simp only [layersOf,defined?_theme reached]

theorem retrieved_of_hidden (hidden : (layersOf m t set defaultAttr defaultId attr).Hidden) :
    retrieved m t set defaultAttr defaultId attr =
      (outcome m.registry (some t) set attr (layersOf m t set defaultAttr defaultId attr).theme).1 := by
  rw [retrieved,finish_eq,Layers.defined?_firstPresent?_of_hidden hidden]
  rfl

/-- No source is reported exactly when no layer has a defined value. -/
theorem outcome_undefined_iff :
    (outcome r theme set attr (layersOf m t set defaultAttr defaultId attr).firstDefined?).1.source = .undefined ↔
      ∀ layer ∈ (layersOf m t set defaultAttr defaultId attr).all, defined? layer = none := by
  rw [outcome_source,← List.findSome?_eq_none_iff,← Layers.firstDefined?]
  cases found : (layersOf m t set defaultAttr defaultId attr).firstDefined? with
  | none => simp
  | some s =>
    obtain ⟨layer,mem,isDefined⟩ := List.exists_of_findSome?_eq_some found
    obtain ⟨rfl,_⟩ := Option.filter_eq_some_iff.1 isDefined
    rcases List.mem_append.1 mem with upper | theme
    · simp [(upper_source upper).2]
    · simp [themeSupply_source (List.mem_singleton.1 theme).symm]

/-- Where a value is hidden, another source is reported than the layer's that has it. -/
theorem source_of_hidden (hidden : (layersOf m t set defaultAttr defaultId attr).Hidden) :
    (outcome r theme set attr (layersOf m t set defaultAttr defaultId attr).theme).1.source ≠
      ((layersOf m t set defaultAttr defaultId attr).firstDefined?.map Supply.source).getD .undefined := by
  obtain ⟨s,found,mem⟩ := Layers.firstDefined?_of_hidden hidden
  obtain ⟨notTheme,notUndefined⟩ := upper_source mem
  rw [outcome_source,found]
  cases theirs : (layersOf m t set defaultAttr defaultId attr).theme with
  | none => exact notUndefined.symm
  | some s' =>
    intro same
    exact notTheme (same.symm.trans (themeSupply_source theirs))

/-- The value of an attribute, in a theme that was reached by styles, is that of the first layer with a defined
    value, and reported as that, exactly if no undefined value hides it. If one does, it is that of the theme. -/
theorem applyStyle_firstDefined (set : Option AttributeSet) (defaultAttr defaultId : ResourceId)
    (attrs : List ResourceId) (reached : t.Reached) (owned : t.owner = m.tag) :
    ∃ results m', applyStyle m t set defaultAttr defaultId attrs = .ok (results,m') ∧
      results.values.length = attrs.length ∧
      ∀ (i : Nat) (attr : ResourceId), attrs[i]? = some attr →
        ∃ result, results.values[i]? = some result ∧
          let layers := layersOf m t set defaultAttr defaultId attr
          (¬ layers.Hidden → result = (outcome m.registry (some t) set attr layers.firstDefined?).1 ∧
            (result.source = .undefined ↔ ∀ layer ∈ layers.all, defined? layer = none)) ∧
          (layers.Hidden → result = (outcome m.registry (some t) set attr layers.theme).1) ∧
          (result.source = (layers.firstDefined?.map Supply.source).getD .undefined ↔ ¬ layers.Hidden) := by
  obtain ⟨m',applied⟩ := applyStyle_eq set defaultAttr defaultId attrs owned
  refine ⟨_,m',applied,by simp,fun i attr at_i => ?_⟩
  refine ⟨retrieved m t set defaultAttr defaultId attr,by simp [at_i],?_,retrieved_of_hidden,?_⟩
  · intro shown
    rw [retrieved_of_shown reached shown]
    exact ⟨rfl,outcome_undefined_iff⟩
  · constructor
    · intro reported hidden
      rw [retrieved_of_hidden hidden] at reported
      exact source_of_hidden hidden reported
    · intro shown
      rw [retrieved_of_shown reached shown,outcome_source]

end

/-- A manager with a style that sets one attribute. -/
def withStyle : Manager :=
  let style : Entry := ⟨⟨"app","style","S"⟩,[⟨{},.bag 0 [(0x7f010001,⟨.decimal,5⟩)]⟩]⟩
  let table : Table := { packages := .ofList [(0x7f,"app")], entries := .ofList [(0x7f020000,style)] }
  { registry := { sources := [{ path := "base", table }] } }

/-- An element of that style that has a value of its own. -/
def styledElement (own : Value) : AttributeSet :=
  { style := .reference 0x7f020000, attributes := [(0x7f010001,own)] }

/-- A value of the element itself goes before that of its style. -/
theorem applyStyle_firstDefined_own :
    ∃ results m', applyStyle withStyle (.new withStyle) (some (styledElement ⟨.decimal,7⟩)) 0 0 [0x7f010001] =
        .ok (results,m') ∧
      ∃ result, results.values[0]? = some result ∧ result.source = .xmlAttribute := by
  obtain ⟨results,m',applied,_,each⟩ :=
    applyStyle_firstDefined (some (styledElement ⟨.decimal,7⟩)) 0 0 [0x7f010001] (.new withStyle) rfl
  obtain ⟨result,at_zero,_,_,source⟩ := each 0 0x7f010001 rfl
  have reported := source.2 (by decide +kernel)
  exact ⟨results,m',applied,result,at_zero,reported.trans (by decide +kernel)⟩

/-- An undefined value of the element itself hides the value of its style: no source is reported. -/
theorem applyStyle_undefined_hides :
    ((layersOf withStyle (.new withStyle) (some (styledElement .undefined)) 0 0 0x7f010001).firstDefined?.map
        Supply.source) = some .xmlStyle ∧
      ((applyStyle withStyle (.new withStyle) (some (styledElement .undefined)) 0 0 [0x7f010001]).toOption.map
        fun found => found.1.values.map ResolvedAttribute.source) = some [.undefined] := by
  decide +kernel

end Retrieval

end AndroidResources
