import AndroidResources.Proofs.AttributeShape
import AndroidResources.Proofs.LookupBest
import AndroidResources.Proofs.ThemeHistory

/-!
# Texts of attributes

The text of a string is looked up in the pool of its source, or if it has no source, in that of the element. No position
is looked up in a pool that it does not belong to (`World.run_texted`): all strings but the element's own have a valid
cookie (`Selected.Pooled`), whether they come from a style, along references, or from a theme that has outlived its
sources or was copied from another manager's. This holds as long as there are cookies for all sources: the one behind
2³² - 1 others has the invalid cookie, and its strings are taken for the element's (`World.run_texted_foreign`).
-/
namespace AndroidResources

/-- Whether a value that is a string has a cookie. -/
def Selected.Pooled (s : Selected) : Prop :=
  s.value.type = .string → s.cookie.isValid

theorem Selected.Pooled.behind {next : Selected} (pooled : next.Pooled) (current : Selected) :
    (next.behind current).Pooled :=
  pooled

/-- Whether all strings of a theme have cookies. -/
def Theme.Pooled (t : Theme) : Prop :=
  ∀ attr e, t.entries.get? attr = some e → e.value.type = .string → e.cookie.isValid

/-- Whether each source has a valid cookie. -/
def Registry.ValidCookies (r : Registry) : Prop :=
  ∀ i < r.sources.length, (r.cookieAt i).isValid

/-! ## Values with a source -/

namespace Registry
variable {r : Registry} {s u : Selected}

theorem ValidCookies.of_source (valid : r.ValidCookies) {position : Nat} {source : Source}
    (isSource : r.sources[position]? = some source) : (r.cookieAt position).isValid :=
  valid position (List.getElem?_eq_some_iff.1 isSource).1

theorem ValidCookies.gives (valid : r.ValidCookies) {bag : ResourceId} {key : UInt32} {v : Value} {c : Cookie}
    (gives : r.Gives bag key v c) : c.isValid := by
  obtain ⟨_,_,isSource,rfl,_⟩ := gives
  exact valid.of_source isSource

theorem ValidCookies.selected (valid : r.ValidCookies) {id : ResourceId} {density : Option UInt16} {isBag : Bool}
    (found : r.selected? id density = some (s,isBag)) : s.Pooled := by
  obtain ⟨⟨c,used⟩,isFound,same⟩ := Option.map_eq_some_iff.1 found
  obtain ⟨rfl,_⟩ := Prod.mk.inj same
  obtain ⟨position,_,isSource,_,cookie,_⟩ := offers_of_mem (select?_mem (select?_of_find? isFound).1).1
  have own : (selectedOf id c).cookie = r.cookieAt position := cookie
  intro _
  rw [own]
  exact valid.of_source isSource

/-- A chain ends with the value that it starts with, with one that was looked up, or with no string. -/
theorem ValidCookies.walk (valid : r.ValidCookies) {hops : Nat} {visited : List ResourceId} (pooled : s.Pooled)
    (found : (r.walk hops visited s).result = some u) : u.Pooled := by
  induction hops generalizing visited s with
  | zero => cases found
  | succ hops ih =>
    unfold Registry.walk at found
    split at found
    · obtain rfl := Option.some.inj found
      exact pooled
    simp only at found
    split at found
    · obtain rfl := Option.some.inj found
      intro string
      cases string
    split at found
    · cases found
    split at found
    · cases found
    next next isBag isNext =>
      have next_pooled : (next.behind s).Pooled := (valid.selected isNext).behind s
      split at found
      · obtain rfl := Option.some.inj found
        exact next_pooled
      · exact ih next_pooled found

theorem ValidCookies.follow (valid : r.ValidCookies) (pooled : s.Pooled) (found : (r.follow s).result = some u) :
    u.Pooled :=
  valid.walk pooled found

end Registry

namespace Theme
variable {t : Theme} {r : Registry} {s u : Selected}

theorem Pooled.lookup (pooled : t.Pooled) {attr style : ResourceId} (found : t.lookup? attr = some (s,style)) :
    s.Pooled := by
  obtain ⟨_,_,_,ends⟩ := has_iff.2 found
  cases ends with
  | value present _ => exact pooled _ _ present

/-- A value leads through a theme to itself, to one of the theme, or to what either stands for. -/
theorem Pooled.follow (pooled : t.Pooled) (valid : r.ValidCookies) (start : s.Pooled)
    (found : (t.follow r s).result = some u) : u.Pooled := by
  cases leadsTo_iff.2 found with
  | direct _ stands => exact valid.follow start (Registry.standsFor_iff.1 stands)
  | behind _ has stands =>
    exact valid.follow ((pooled.lookup (has_iff.1 has)).behind s) (Registry.standsFor_iff.1 stands)

end Theme

namespace Retrieval
variable {r : Registry} {theme : Option Theme} {set : Option AttributeSet} {attr : ResourceId} {s : Supply}

theorem pooled_follow (valid : r.ValidCookies) (themes : ∀ t ∈ theme, t.Pooled) (pooled : s.value.Pooled) {u : Selected}
    (found : (follow r theme s).result = some u) : u.Pooled := by
  unfold follow at found
  split at found
  · exact valid.follow pooled found
  split at found
  · obtain rfl := Option.some.inj found
    exact pooled
  split at found
  next t => exact (themes t rfl).follow valid pooled found
  next => exact valid.follow pooled found

/-- What a supply with a cookie leads to has one if it is a string. -/
theorem pooled_outcome (valid : r.ValidCookies) (themes : ∀ t ∈ theme, t.Pooled) (pooled : s.value.Pooled) :
    (outcome r theme set attr (some s)).1.value.Pooled := by
  have reached : ((follow r theme s).result.getD s.value).Pooled := by
    cases found : (follow r theme s).result with
    | none => exact pooled
    | some u => exact pooled_follow valid themes pooled found
  simp only [outcome,settle]
  split
  · intro string
    cases string
  · exact reached

theorem outcome_of_string (string : s.value.value.type = .string) :
    (outcome r theme set attr (some s)).1.value = s.value := by
  have direct : isIndirect s.value.value.type = false := by simp [isIndirect,string]
  simp only [outcome,direct,follow_of_direct direct,Option.getD_some]
  simp [settle,Value.isNullReference,string]

end Retrieval

/-! ## Texts -/

/-- Whether a result that is a string has its text from the pool that it belongs to: that of the element, if it is what the
    element has for the attribute, or that of the source that its cookie names now, or it has none where the cookie names no
    source. -/
inductive ResolvedAttribute.Texted (r : Registry) (set : Option AttributeSet) (a : ResolvedAttribute) : Prop
  | own {element : AttributeSet} : set = some element → a.source = .xmlAttribute →
      element.find? a.attr = some a.value.value → a.value.cookie = .invalid →
      a.string = element.string? a.value.value.data → Texted r set a
  | pool {s : Source} : r.source? a.value.cookie = some s → a.string = s.table.strings.get? a.value.value.data →
      Texted r set a
  | lost : r.source? a.value.cookie = none → a.string = none → Texted r set a

/-- Where the cookie names no source, only what is the element's own has a text. -/
theorem ResolvedAttribute.Texted.own_of_text {r : Registry} {set : Option AttributeSet} {a : ResolvedAttribute}
    (texted : a.Texted r set) (nameless : r.source? a.value.cookie = none) (text : a.string.isSome) :
    a.source = .xmlAttribute := by
  cases texted with
  | own _ ofElement => exact ofElement
  | pool named => simp [nameless] at named
  | lost _ none => simp [none] at text

/-- Whether all strings among results have their texts from the pools that they belong to. -/
def AttributeResults.Texted (results : AttributeResults) (r : Registry) (set : Option AttributeSet) : Prop :=
  ∀ a ∈ results.values, a.value.value.type = .string → a.Texted r set

namespace Retrieval
variable {r : Registry} {theme : Option Theme} {set : Option AttributeSet} {attr : ResourceId}

theorem texted_of_valid {a : ResolvedAttribute} (string : a.value.value.type = .string)
    (text : a.string = textOf r set a.value) (valid : a.value.cookie.isValid) : a.Texted r set := by
  rw [textOf,if_pos string,if_pos valid,Registry.string?,if_pos string] at text
  cases named : r.source? a.value.cookie with
  | none => exact .lost named (by rw [text,named]; rfl)
  | some s => exact .pool named (by rw [text,named]; rfl)

/-- Without an element there is no pool but those of the sources. -/
theorem texted_of_no_set {a : ResolvedAttribute} (string : a.value.value.type = .string)
    (text : a.string = textOf r none a.value) : a.Texted r none := by
  by_cases valid : a.value.cookie.isValid
  · exact texted_of_valid string text valid
  · have invalid : a.value.cookie = .invalid := by simpa [Cookie.isValid] using valid
    rw [textOf,if_pos string,if_neg valid] at text
    refine .lost ?_ text
    rw [invalid]
    exact Registry.source?_of_no_position Registry.position?_invalid

theorem outcome_text {supply : Option Supply} (string : (outcome r theme set attr supply).1.value.value.type = .string) :
    (outcome r theme set attr supply).1.string = textOf r set (outcome r theme set attr supply).1.value := by
  cases supply with
  | none => cases string
  | some s => rfl

/-- Where all else that is supplied has cookies, only the element's own string is looked up in its pool. -/
theorem texted_outcome (valid : r.ValidCookies) (themes : ∀ t ∈ theme, t.Pooled) {supply : Option Supply}
    (supplies : ∀ s ∈ supply, setSupply? set attr = some s ∨ s.value.Pooled)
    (string : (outcome r theme set attr supply).1.value.value.type = .string) :
    (outcome r theme set attr supply).1.Texted r set := by
  have text := outcome_text string
  cases supply with
  | none => cases string
  | some s =>
    have pooled (start : s.value.Pooled) : (outcome r theme set attr (some s)).1.Texted r set :=
      texted_of_valid string text (pooled_outcome valid themes start string)
    rcases supplies s rfl with isOwn | start
    · -- A string of the element stands for itself, and everything else that it has leads to strings of sources.
      by_cases direct : s.value.value.type = .string
      · obtain ⟨element,isElement,given⟩ := Option.bind_eq_some_iff.1 isOwn
        obtain ⟨v,isValue,rfl⟩ := Option.map_eq_some_iff.1 given
        have value : (outcome r theme set attr (some ⟨.detached v,.xmlAttribute,element.sourceId⟩)).1.value =
            .detached v := outcome_of_string direct
        refine .own isElement rfl ?_ ?_ ?_
        · rw [value]
          exact isValue
        · rw [value]
          rfl
        · rw [text,value,textOf,if_pos direct,isElement]
          rfl
      · exact pooled fun string => absurd string direct
    · exact pooled start

theorem texted_finish (valid : r.ValidCookies) (themes : ∀ t ∈ theme, t.Pooled) {supply : Option Supply}
    (supplies : ∀ s ∈ supply, setSupply? set attr = some s ∨ s.value.Pooled)
    (string : (finish r theme set attr supply).1.value.value.type = .string) :
    (finish r theme set attr supply).1.Texted r set := by
  rw [finish_eq] at string ⊢
  refine texted_outcome valid themes (fun s found => ?_) string
  rcases Option.or_eq_some_iff.1 found with upper | ⟨_,inTheme⟩
  · exact supplies s (Option.filter_eq_some_iff.1 upper).1
  · obtain ⟨⟨value,style⟩,isFound,rfl⟩ := Option.map_eq_some_iff.1 inTheme
    obtain ⟨t,isTheme,isFound⟩ := Option.bind_eq_some_iff.1 isFound
    exact .inr ((themes t isTheme).lookup isFound)

/-! ## All attributes -/

section
variable {m m' : Manager} {t : Theme} {results : AttributeResults} {defaultAttr defaultId : ResourceId}
  {attrs : List ResourceId}

theorem texted_resolveAttributes {values : Option (List Value)}
    (found : resolveAttributes m t defaultAttr defaultId values attrs = .ok (results,m')) :
    results.Texted m.registry none := by
  obtain ⟨owned,fit⟩ := resolveAttributes_ok_iff.1 ⟨results,m',found⟩
  obtain ⟨m'',same⟩ := resolveAttributes_eq defaultAttr defaultId owned fit
  obtain ⟨rfl,_⟩ := Prod.mk.inj (Except.ok.inj (found.symm.trans same))
  intro a mem string
  rw [AttributeResults.values_ofValues] at mem
  obtain ⟨⟨_,_⟩,_,rfl⟩ := List.mem_map.1 mem
  simp only [finish_eq] at string ⊢
  exact texted_of_no_set string (outcome_text string)

theorem texted_applyStyle (valid : m.registry.ValidCookies) (sourced : m.Sourced) (pooled : t.Pooled)
    (found : applyStyle m t set defaultAttr defaultId attrs = .ok (results,m')) : results.Texted m.registry set := by
  obtain ⟨m'',same⟩ := applyStyle_eq set defaultAttr defaultId attrs (applyStyle_ok_iff.1 ⟨results,m',found⟩)
  obtain ⟨rfl,_⟩ := Prod.mk.inj (Except.ok.inj (found.symm.trans same))
  have style {s : Supply} {source : AttributeSource} {id attr : ResourceId}
      (supplied : bagSupply? source (bagOf? m id).1 attr = some s) : s.value.Pooled := by
    obtain ⟨bag,isBag,e,listed,rfl⟩ := entry_of_bagSupply supplied
    exact fun _ => valid.gives (sourced.givesAll isBag e listed)
  intro a mem string
  rw [AttributeResults.values_ofValues] at mem
  obtain ⟨attr,_,rfl⟩ := List.mem_map.1 mem
  refine texted_finish valid (by simpa using pooled) (fun s first => ?_) string
  obtain ⟨layer,mem,rfl⟩ := List.exists_of_findSome?_eq_some first
  simp only [Layers.upper,layersOf,List.mem_cons,List.not_mem_nil,or_false] at mem
  rcases mem with element | elementStyle | defaultStyle
  · exact .inl element.symm
  · exact .inr (style elementStyle.symm)
  · exact .inr (style defaultStyle.symm)

theorem texted_retrieveAttributes (valid : m.registry.ValidCookies) (element : AttributeSet) (attrs : List ResourceId) :
    (retrieveAttributes m element attrs).1.Texted m.registry (some element) := by
  intro a mem string
  simp only [retrieveAttributes,finishAll,AttributeResults.values_ofValues,List.map_map] at mem
  obtain ⟨attr,_,rfl⟩ := List.mem_map.1 mem
  exact texted_finish valid (by simp) (fun s supplied => .inl supplied) string

end

end Retrieval

/-! ## Histories -/

namespace World
variable {w : World} {events : List Event} {event : Event} {i n : Nat} {t : Theme}

/-- A manager gives the invalid cookie to a source only if that is the 2³²nd one over all its lists. -/
theorem validCookies_of_room (room : Manager.installed (operationsOn n events) ≤ 0xffffffff) :
    ((run events).managers n).registry.ValidCookies := by
  intro i inside
  rw [← Manager.next_numbering] at room
  have next := (run_numbers events n).next
  have number := (run_numbers events n).number_cookieAt room inside
  exact Cookie.isValid_iff.2 (by omega)

/-- An event keeps the strings of a manager's themes: a style brings those of the manager's own sources, and a copy for
    another manager only those that have a source there. -/
theorem perform_pooled (tags : ∀ k, (w.managers k).tag = k) (sourced : (w.managers n).Sourced)
    (valid : (w.managers n).registry.ValidCookies) (pooled : ∀ j t, w.themes j = some t → t.owner = n → t.Pooled)
    (isTheme : (w.perform event).themes i = some t) (bound : t.owner = n) : t.Pooled := by
  intro attr e isEntry string
  cases perform_becomes isTheme with
  | unchanged before => exact pooled i t before bound attr e isEntry string
  | new => simp [Theme.new] at isEntry
  | @applied k applied old _ _ _ before applies =>
    obtain ⟨owned,rfl,_⟩ := Theme.apply_ok (.refl _) applies
    have own : old.owner = n := (Theme.add_owner ..).symm.trans bound
    obtain rfl : k = n := by rw [← tags k,← owned,own]
    rcases Theme.given_of_add sourced isEntry with present | given
    · exact pooled i old before own attr e present string
    · exact valid.gives given
  | @rebased k stack old before =>
    obtain rfl : k = n := by rw [← tags k,← bound,Theme.rebase_owner]
    exact valid.gives (Theme.given_of_rebase sourced isEntry)
  | @copied k j l old other copy before isOther copies =>
    obtain ⟨_,_,rfl⟩ := Theme.setTo_ok copies
    simp only at isEntry
    split at isEntry
    next same => exact pooled j other isOther (same.symm.trans bound) attr e isEntry string
    next =>
      obtain ⟨_,_,_,kept⟩ := Theme.mem_transferAll isEntry
      exact kept string
  | cleared => simp [Theme.clear] at isEntry

/-- The strings of a manager's themes have valid cookies at all times. -/
theorem run_pooled (room : Manager.installed (operationsOn n events) ≤ 0xffffffff)
    (isTheme : (run events).themes i = some t) (bound : t.owner = n) : t.Pooled := by
  induction events using List.reverseRecOn generalizing i t with
  | nil => cases isTheme
  | append_singleton events event ih =>
    have earlier := Nat.le_trans (installed_le_concat n events event) room
    rw [run_concat] at isTheme
    exact perform_pooled (run_tag events) (run_sourced events n) (validCookies_of_room earlier)
      (fun j t isTheme bound => ih earlier isTheme bound) isTheme bound

/-- A manager that is given the same sources over and over: its cookies start behind all lists but the last. -/
theorem run_replicate_presetSources (sources : List Source) (k : Nat) :
    run (List.replicate (k + 1) (.operate 0 (.act (.presetSources sources)))) =
      ({} : World).withManager 0
        { registry := { sources, base := .ofNat (k * sources.length) }, generation := k + 1 } := by
  induction k with
  | zero =>
    rw [Nat.zero_mul]
    rfl
  | succ k ih =>
    rw [List.replicate_succ',run_concat,ih,Nat.succ_mul,UInt32.ofNat_add]
    simp only [perform,withManager,Function.update_self,Function.update_idem]
    rfl

/-- The sources count each time that they are given. -/
theorem installed_replicate_append (sources : List Source) (k : Nat) (events : List Event) :
    Manager.installed (operationsOn n (List.replicate k (.operate n (.act (.presetSources sources))) ++ events)) =
      k * sources.length + Manager.installed (operationsOn n events) := by
  have installs : Manager.Operation.installs? (.act (.presetSources sources)) = some sources := rfl
  simp [Manager.installed,operationsOn,Event.operation?,List.filterMap_replicate_of_some installs]

/-- Whatever has been done with managers and themes, a string among the attributes that are retrieved with a theme of a
    manager, or without one, has its text from the pool of the source that its cookie names now, from the element's own
    pool if it is the element's own value, or none. With 2³² sources over all its lists, the manager would be out of
    cookies. -/
theorem run_texted (events : List Event) (n : Nat) (room : Manager.installed (operationsOn n events) ≤ 0xffffffff)
    (attrs : List ResourceId) :
    let m := (run events).managers n
    (∀ i t, (run events).themes i = some t → t.owner = n → ∀ defaultAttr defaultId,
      (∀ values,
        ((values.getD []).length ≤ attrs.length →
          ∃ found, Retrieval.resolveAttributes m t defaultAttr defaultId values attrs = .ok found) ∧
        ∀ results m', Retrieval.resolveAttributes m t defaultAttr defaultId values attrs = .ok (results,m') →
          results.Texted m.registry none) ∧
      ∀ set,
        (∃ found, Retrieval.applyStyle m t set defaultAttr defaultId attrs = .ok found) ∧
        ∀ results m', Retrieval.applyStyle m t set defaultAttr defaultId attrs = .ok (results,m') →
          results.Texted m.registry set) ∧
    ∀ element, (Retrieval.retrieveAttributes m element attrs).1.Texted m.registry (some element) := by
  intro m
  have valid := validCookies_of_room room
  refine ⟨fun i t isTheme bound defaultAttr defaultId => ?_,fun element => ?_⟩
  · have owned : t.owner = m.tag := bound.trans (run_tag events n).symm
    refine ⟨fun values => ⟨fun fit => ?_,fun results m' found => ?_⟩,fun set => ⟨?_,fun results m' found => ?_⟩⟩
    · obtain ⟨m',found⟩ := Retrieval.resolveAttributes_eq defaultAttr defaultId owned fit
      exact ⟨_,found⟩
    · exact Retrieval.texted_resolveAttributes found
    · obtain ⟨m',found⟩ := Retrieval.applyStyle_eq set defaultAttr defaultId attrs owned
      exact ⟨_,found⟩
    · exact Retrieval.texted_applyStyle valid (run_sourced events n) (run_pooled room isTheme bound) found
  · exact Retrieval.texted_retrieveAttributes valid element attrs

/-- A theme's string that was copied from another manager's theme and whose source is gone has no text, though the element
    has a string at the same position of its own pool. -/
theorem run_texted_stale :
    let style : Entry := ⟨⟨"app","style","Main"⟩,[⟨{},.bag 0 [(0x7f010001,⟨.string,0⟩)]⟩]⟩
    let main : Source :=
      { path := "main"
        table :=
          { packages := .ofList [(0x7f,"app")]
            entries := .ofList [(0x7f020000,style)]
            strings := (({} : StringPool).intern "main").2 } }
    let events : List Event := [.operate 0 (.act (.setSources [main] true)),.operate 1 (.act (.presetSources [main])),
      .newTheme 0 0,.newTheme 1 1,.apply 0 0 ⟨0x7f020000,true⟩,.setTo 1 1 0 0,
      .operate 1 (.act (.setSources [{ path := "other" }] true))]
    let m := (run events).managers 1
    let element := ({} : AttributeSet).pushString 0x7f010002 "own"
    Manager.installed (operationsOn 1 events) ≤ 0xffffffff ∧
      ∃ t results m', (run events).themes 1 = some t ∧ t.owner = 1 ∧
      Retrieval.applyStyle m t (some element) 0 0 [0x7f010001,0x7f010002] = .ok (results,m') ∧
      results.values.map (fun a => (a.value.value,a.source,a.string)) =
        [(⟨.string,0⟩,.theme,none),(⟨.string,0⟩,.xmlAttribute,some "own")] ∧
      results.Texted m.registry (some element) := by
  intro style main events m element
  have room : Manager.installed (operationsOn 1 events) ≤ 0xffffffff := by decide
  have reported : (((run events).themes 1).bind fun t =>
      (Retrieval.applyStyle m t (some element) 0 0 [0x7f010001,0x7f010002]).toOption.map fun found =>
        found.1.values.map fun a => (a.value.value,a.source,a.string)) =
      some [(⟨.string,0⟩,.theme,none),(⟨.string,0⟩,.xmlAttribute,some "own")] := by decide +kernel
  obtain ⟨t,isTheme,values⟩ := Option.bind_eq_some_iff.1 reported
  have owner : ((run events).themes 1).map Theme.owner = some 1 := by decide +kernel
  rw [isTheme] at owner
  have bound : t.owner = 1 := Option.some.inj owner
  obtain ⟨⟨⟨results,m'⟩,applied⟩,texted⟩ :=
    ((run_texted events 1 room [0x7f010001,0x7f010002]).1 1 t isTheme bound 0 0).2 (some element)
  have values : results.values.map (fun a => (a.value.value,a.source,a.string)) =
      [(⟨.string,0⟩,.theme,none),(⟨.string,0⟩,.xmlAttribute,some "own")] := by
    rw [applied] at values
    exact Option.some.inj values
  exact ⟨room,t,results,m',isTheme,bound,applied,values,texted results m' applied⟩

/-- Behind 2³² - 1 sources in 65535 lists, the next source has the invalid cookie, and the string that a theme has from
    it is looked up in the element's pool. -/
theorem run_texted_foreign :
    let style : Entry := ⟨⟨"app","style","Main"⟩,[⟨{},.bag 0 [(0x7f010001,⟨.string,0⟩)]⟩]⟩
    let main : Source :=
      { path := "main"
        table :=
          { packages := .ofList [(0x7f,"app")]
            entries := .ofList [(0x7f020000,style)]
            strings := (({} : StringPool).intern "main").2 } }
    let fillers : List Event :=
      List.replicate 65535 (.operate 0 (.act (.presetSources (List.replicate 65537 { path := "filler" }))))
    let events : List Event := fillers ++
      [.operate 0 (.act (.setSources [main] true)),.newTheme 0 0,.apply 0 0 ⟨0x7f020000,true⟩]
    let m := (run events).managers 0
    let element := ({} : AttributeSet).pushString 0x7f010002 "own"
    Manager.installed (operationsOn 0 events) = 0x100000000 ∧
      ∃ t results m', (run events).themes 0 = some t ∧ t.owner = 0 ∧
      Retrieval.applyStyle m t (some element) 0 0 [0x7f010001] = .ok (results,m') ∧
      results.values.map (fun a => (a.value.value,a.value.cookie,a.source,a.string)) =
        [(⟨.string,0⟩,.invalid,.theme,some "own")] ∧
      ¬ results.Texted m.registry (some element) := by
  intro style main fillers events m element
  have installed : Manager.installed (operationsOn 0 events) = 0x100000000 := by
    rw [installed_replicate_append,List.length_replicate]
    rfl
  -- The lists of fillers only count; what is evaluated is the manager that they leave.
  have numbered : run events = [.newTheme 0 0,.apply 0 0 ⟨0x7f020000,true⟩].foldl perform
      (({} : World).withManager 0
        { registry := { sources := [main], base := 0xffffffff }, generation := 65536 }) := by
    have filled : run fillers = _ := run_replicate_presetSources (List.replicate 65537 { path := "filler" }) 65534
    have split_at : run events = List.foldl perform (run fillers) _ := List.foldl_append
    rw [split_at,filled,List.foldl_cons]
    simp only [perform,withManager,Function.update_self,Function.update_idem,Manager.operate,Manager.act,
      Manager.setSources,Manager.install,List.length_replicate]
    rfl
  have reported : (((run events).themes 0).bind fun t =>
      (Retrieval.applyStyle m t (some element) 0 0 [0x7f010001]).toOption.map fun found =>
        found.1.values.map fun a => (a.value.value,a.value.cookie,a.source,a.string)) =
      some [(⟨.string,0⟩,.invalid,.theme,some "own")] := by
    simp only [m,numbered]
    decide +kernel
  have owner : ((run events).themes 0).map Theme.owner = some 0 := by
    rw [numbered]
    decide +kernel
  obtain ⟨t,isTheme,values⟩ := Option.bind_eq_some_iff.1 reported
  rw [isTheme] at owner
  have bound : t.owner = 0 := Option.some.inj owner
  obtain ⟨results,m',applied⟩ := Retrieval.applyStyle_ok_iff.2 (bound.trans (run_tag events 0).symm)
  have values : results.values.map (fun a => (a.value.value,a.value.cookie,a.source,a.string)) =
      [(⟨.string,0⟩,.invalid,.theme,some "own")] := by
    rw [applied] at values
    exact Option.some.inj values
  refine ⟨installed,t,results,m',isTheme,bound,applied,values,fun texted => ?_⟩
  obtain ⟨a,only,told⟩ := List.map_eq_singleton_iff.1 values
  simp only [Prod.mk.injEq] at told
  obtain ⟨value,cookie,source,string⟩ := told
  have nameless : m.registry.source? a.value.cookie = none := by
    rw [cookie]
    exact Registry.source?_of_no_position Registry.position?_invalid
  have own : a.source = .xmlAttribute :=
    (texted a (by simp [only]) (by rw [value])).own_of_text nameless (by simp [string])
  rw [source] at own
  cases own

end World

end AndroidResources
