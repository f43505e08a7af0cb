import AndroidResources.Proofs.AttributeValues
import AndroidResources.Proofs.BagAncestry

/-!
# Consulted styles

The styles that are listed for an element are its own with its parents and the default style with its parents. Bags are
put together along the same parents, so that whatever a style supplies comes from a style that is listed, also where it is
inherited or set in a second source (`Retrieval.applyStyle_consulted`).
-/
namespace AndroidResources

namespace Retrieval
variable {m : Manager} {t : Theme} {set : Option AttributeSet} {attr defaultAttr defaultId id : ResourceId}

/-! ## The style of an element -/

/-- The style that an element takes: the one that it refers to, the one that the theme has for the attribute that it
    names, or none. -/
inductive TakesStyle (t : Theme) : Option AttributeSet → ResourceId → Prop
  | own {set : AttributeSet} : set.style.type = .reference → TakesStyle t (some set) set.style.data
  | theme {set : AttributeSet} {s : Selected} {style : ResourceId} : set.style.type = .themeAttribute →
      t.Has set.style.data (some (s,style)) → s.value.type = .reference → TakesStyle t (some set) s.value.data
  | nothing {set : AttributeSet} : set.style.type ≠ .reference →
      (set.style.type = .themeAttribute → ∀ s style, t.Has set.style.data (some (s,style)) → s.value.type ≠ .reference) →
      TakesStyle t (some set) 0
  | absent : TakesStyle t none 0

theorem TakesStyle.eq_elementStyle (takes : TakesStyle t set id) : elementStyle t set = id := by
  cases takes with
  | own isReference => simp [elementStyle,isReference]
  | theme isAttribute has isReference => simp [elementStyle,isAttribute,Theme.value?,Theme.has_iff.1 has,isReference]
  | @nothing set noReference noTheme =>
    by_cases isAttribute : set.style.type = .themeAttribute
    · cases found : t.lookup? set.style.data with
      | none => simp [elementStyle,isAttribute,Theme.value?,found]
      | some value =>
        have noReference := noTheme isAttribute value.1 value.2 (Theme.has_iff.2 found)
        simp [elementStyle,isAttribute,Theme.value?,found,noReference]
    · simp [elementStyle,isAttribute,noReference]
  | absent => rfl

theorem takesStyle_elementStyle (t : Theme) (set : Option AttributeSet) : TakesStyle t set (elementStyle t set) := by
  cases set with
  | none => exact .absent
  | some set =>
    by_cases isReference : set.style.type = .reference
    · have takes : TakesStyle t (some set) set.style.data := .own isReference
      rwa [takes.eq_elementStyle]
    · by_cases inTheme : ∃ s style, set.style.type = .themeAttribute ∧ t.Has set.style.data (some (s,style)) ∧
          s.value.type = .reference
      · obtain ⟨s,style,isAttribute,has,isReference⟩ := inTheme
        have takes : TakesStyle t (some set) s.value.data := .theme isAttribute has isReference
        rwa [takes.eq_elementStyle]
      · have takes : TakesStyle t (some set) 0 :=
          .nothing isReference fun isAttribute s style has isReference => inTheme ⟨s,style,isAttribute,has,isReference⟩
        rwa [takes.eq_elementStyle]

theorem takesStyle_iff : TakesStyle t set id ↔ elementStyle t set = id := by
  constructor
  · exact TakesStyle.eq_elementStyle
  · rintro rfl
    exact takesStyle_elementStyle t set

/-! ## What styles supply -/

/-- What a style supplies comes from one of its generations. -/
theorem sourceId_of_bagSupply (sound : m.Sound) {source : AttributeSource} {s : Supply} {ids : List ResourceId}
    (supplied : bagSupply? source (bagOf? m id).1 attr = some s) (stack : m.registry.stack id = .ok ids) :
    s.sourceId ∈ ids := by
  obtain ⟨bag,found,e,listed,rfl⟩ := entry_of_bagSupply supplied
  obtain ⟨lineage,isLineage,composed⟩ := sound.bag?_eq_some_iff.1 found
  obtain rfl := Except.ok.inj (isLineage.stack_eq.symm.trans stack)
  exact isLineage.style_mem composed listed

/-- What a style is reported for is what it supplies. -/
theorem supply_of_retrieved (styled : (retrieved m t set defaultAttr defaultId attr).source = .xmlStyle ∨
    (retrieved m t set defaultAttr defaultId attr).source = .defaultStyle) :
    ∃ s, some s ∈ (layersOf m t set defaultAttr defaultId attr).upper ∧
      (retrieved m t set defaultAttr defaultId attr).source = s.source ∧
      (retrieved m t set defaultAttr defaultId attr).sourceId = s.sourceId := by
  rw [retrieved,finish_eq] at *
  cases found : (defined? (layersOf m t set defaultAttr defaultId attr).firstPresent?).or (themeSupply? (some t) attr) with
  | none => simp [found,outcome,ResolvedAttribute.missing] at styled
  | some s =>
    rcases Option.or_eq_some_iff.1 found with upper | ⟨_,inTheme⟩
    · obtain ⟨first,_⟩ := Option.filter_eq_some_iff.1 upper
      obtain ⟨layer,mem,rfl⟩ := List.exists_of_findSome?_eq_some first
      exact ⟨s,mem,rfl,rfl⟩
    · have fromTheme := themeSupply_source inTheme
      simp [found,outcome,fromTheme] at styled

theorem styleStack_ok {style : ResourceId} {stack : List ResourceId}
    (consulted : styleStack m t style defaultAttr defaultId = .ok stack) :
    t.owner = m.tag ∧ ∃ own default, m.registry.stack style = .ok own ∧
      m.registry.stack (defaultStyle t defaultAttr defaultId) = .ok default ∧ stack = own ++ default := by
  obtain ⟨_,checked,consulted⟩ := bind_eq_ok_iff.1 consulted
  obtain ⟨own,isOwn,consulted⟩ := bind_eq_ok_iff.1 consulted
  obtain ⟨default,isDefault,consulted⟩ := bind_eq_ok_iff.1 consulted
  exact ⟨Theme.check_eq_ok_iff.1 checked,own,default,isOwn,isDefault,(Except.ok.inj consulted).symm⟩

/-- An element takes one style. Where that and the default style can be listed with their parents, each attribute that is
    reported to come from either comes from one of those listed. -/
theorem applyStyle_consulted (sound : m.Sound) (t : Theme) (set : Option AttributeSet) (defaultAttr defaultId : ResourceId)
    (attrs : List ResourceId) :
    ∃ style, (∀ id, TakesStyle t set id ↔ id = style) ∧
      ∀ stack, styleStack m t style defaultAttr defaultId = .ok stack →
        ∃ results m', applyStyle m t set defaultAttr defaultId attrs = .ok (results,m') ∧
          ∀ a ∈ results.values, a.source = .xmlStyle ∨ a.source = .defaultStyle → a.sourceId ∈ stack := by
  refine ⟨elementStyle t set,fun id => takesStyle_iff.trans eq_comm,fun stack consulted => ?_⟩
  obtain ⟨owned,own,default,isOwn,isDefault,rfl⟩ := styleStack_ok consulted
  obtain ⟨m',applied⟩ := applyStyle_eq set defaultAttr defaultId attrs owned
  refine ⟨_,m',applied,fun a mem styled => ?_⟩
  rw [AttributeResults.values_ofValues] at mem
  obtain ⟨attr,_,rfl⟩ := List.mem_map.1 mem
  obtain ⟨s,supplied,source,sourceId⟩ := supply_of_retrieved styled
  rw [sourceId,List.mem_append]
  rw [source] at styled
  simp only [Layers.upper,layersOf,List.mem_cons,List.not_mem_nil,or_false] at supplied
  rcases supplied with element | elementStyle | defaultStyle
  · simp [source_of_setSupply element.symm] at styled
  · exact .inl (sourceId_of_bagSupply sound elementStyle.symm isOwn)
  · exact .inr (sourceId_of_bagSupply sound defaultStyle.symm isDefault)

/-- The values that an element's style sets, in the second of its definitions, and inherits are among what its style and
    its parent set. -/
theorem applyStyle_consulted_layered :
    let element : AttributeSet := { style := .reference 0x7f020001 }
    let attrs : List ResourceId := [0x7f010001,0x7f010003]
    ∃ stack results m', styleStack Manager.layered (.new Manager.layered) 0x7f020001 0 0 = .ok stack ∧
      applyStyle Manager.layered (.new Manager.layered) (some element) 0 0 attrs = .ok (results,m') ∧
      results.values.map (fun a => (a.source,a.sourceId)) = [(.xmlStyle,0x7f020000),(.xmlStyle,0x7f020001)] ∧
      ∀ a ∈ results.values, a.sourceId ∈ stack := by
  intro element attrs
  have sound : Manager.layered.Sound := (Manager.current_of_empty rfl).sound
  obtain ⟨style,taken,each⟩ := applyStyle_consulted sound (.new Manager.layered) (some element) 0 0 attrs
  have own : 0x7f020001 = style := (taken _).1 (.own rfl)
  subst own
  have consulted : styleStack Manager.layered (.new Manager.layered) 0x7f020001 0 0 = .ok [0x7f020001,0x7f020000] := by rfl
  obtain ⟨results,m',applied,sources⟩ := each _ consulted
  have reported : (applyStyle Manager.layered (.new Manager.layered) (some element) 0 0 attrs).toOption.map
      (fun found => found.1.values.map fun a => (a.source,a.sourceId)) =
        some [(.xmlStyle,0x7f020000),(.xmlStyle,0x7f020001)] := by decide +kernel
  rw [applied] at reported
  have reported : results.values.map (fun a => (a.source,a.sourceId)) =
      [(.xmlStyle,0x7f020000),(.xmlStyle,0x7f020001)] := Option.some.inj reported
  refine ⟨_,results,m',consulted,applied,reported,fun a mem => sources a mem (.inl ?_)⟩
  have listed : (a.source,a.sourceId) ∈ results.values.map fun a => (a.source,a.sourceId) := List.mem_map_of_mem mem
  rw [reported] at listed
  rcases List.mem_pair.1 listed with same | same
  · exact (Prod.mk.inj same).1
  · exact (Prod.mk.inj same).1

end Retrieval

end AndroidResources
