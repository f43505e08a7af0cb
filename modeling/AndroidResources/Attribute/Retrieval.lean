import AndroidResources.Attribute.Set
import AndroidResources.Theme

/-!
# Attribute retrieval

An attribute of an element is taken from the first layer that has it: the element itself, its style, the
default style, and behind them the theme. What a layer has is then followed to what it stands for.
-/
namespace AndroidResources

/-- The layer that an attribute's value is taken from. -/
inductive AttributeSource where
  /-- No layer. -/
  | undefined
  /-- What the caller brings along. -/
  | explicit
  | xmlAttribute
  | xmlStyle
  | defaultStyle
  | theme
  deriving DecidableEq, Inhabited

namespace AttributeSource

def name : AttributeSource → String
  | undefined => "Undefined"
  | explicit => "Explicit"
  | xmlAttribute => "XmlAttribute"
  | xmlStyle => "XmlStyle"
  | defaultStyle => "DefaultStyle"
  | theme => "Theme"

def key : AttributeSource → String
  | undefined => "undefined"
  | explicit => "explicit"
  | xmlAttribute => "xml_attribute"
  | xmlStyle => "xml_style"
  | defaultStyle => "default_style"
  | theme => "theme"

end AttributeSource

/-- What a layer has for an attribute. -/
structure Supply where
  value : Selected
  source : AttributeSource
  /-- The style or XML resource that has the value, zero if there is none. -/
  sourceId : ResourceId

/-- The value of an attribute. -/
structure ResolvedAttribute where
  attr : ResourceId
  value : Selected
  source : AttributeSource
  sourceId : ResourceId
  /-- The text of a string. -/
  string : Option String

namespace ResolvedAttribute

/-- An attribute without a value. -/
def missing (attr : ResourceId) : ResolvedAttribute :=
  ⟨attr,.detached .undefined,.undefined,0,none⟩

/-- Whether there is a value; one that is empty on purpose counts. -/
def isDefined (a : ResolvedAttribute) : Bool :=
  a.value.value.type ≠ .null || a.value.value.data = 1

end ResolvedAttribute

/-- The positions of the attributes that have a value. -/
def definedAt (values : List ResolvedAttribute) : List Nat :=
  values.zipIdx.filterMap fun (a,position) => if a.isDefined then some position else none

theorem definedAt_concat (values : List ResolvedAttribute) (a : ResolvedAttribute) :
    definedAt (values ++ [a]) = if a.isDefined then definedAt values ++ [values.length] else definedAt values := by
  simp only [definedAt,List.zipIdx_append,List.filterMap_append]
  cases isDefined : a.isDefined <;> simp [isDefined]

/-- The values of attributes in the order in which they were asked for. -/
structure AttributeResults where
  values : List ResolvedAttribute := []
  /-- The positions of the attributes that have a value. -/
  indices : List Nat := []
  indices_eq : indices = definedAt values := by rfl

namespace AttributeResults

instance : Inhabited AttributeResults := ⟨{}⟩

/-- The results with one more, whose position is noted if it has a value. -/
def push (results : AttributeResults) (a : ResolvedAttribute) : AttributeResults where
  values := results.values ++ [a]
  indices := if a.isDefined then results.indices ++ [results.values.length] else results.indices
  indices_eq := by rw [definedAt_concat,results.indices_eq]

/-- Results that are added one by one. -/
def ofValues (values : List ResolvedAttribute) : AttributeResults :=
  values.foldl push {}

theorem ofValues_concat (values : List ResolvedAttribute) (a : ResolvedAttribute) :
    ofValues (values ++ [a]) = (ofValues values).push a :=
  List.foldl_append

theorem values_foldl_push (results : AttributeResults) (values : List ResolvedAttribute) :
    (values.foldl push results).values = results.values ++ values := by
  induction values generalizing results with
  | nil => simp
  | cons a rest ih => simp [ih,push]

@[simp] theorem values_ofValues (values : List ResolvedAttribute) : (ofValues values).values = values :=
  values_foldl_push {} values

end AttributeResults

namespace Retrieval

/-! ## One attribute -/

/-- Whether a value stands for another one. -/
def isIndirect (type : ValueType) : Bool :=
  type = .reference || type = .themeAttribute

/-- What a layer has, if it is defined there. -/
def defined? (supply : Option Supply) : Option Supply :=
  supply.filter fun s => !s.value.value.isUndefined

/-- What the theme has. -/
def themeSupply? (theme : Option Theme) (attr : ResourceId) : Option Supply :=
  (theme.bind fun t => t.lookup? attr).map fun (value,style) => ⟨value,.theme,style⟩

/-- The way of a value from a layer to what it stands for; values of the theme have left it already, and
    an empty value stands for itself. -/
def follow (r : Registry) (theme : Option Theme) (s : Supply) : Walk :=
  if s.source = .theme then r.follow s.value
  else if s.value.value.type = .null then { result := some s.value }
  else
    match theme with
    | some t => t.follow r s.value
    | none => r.follow s.value

/-- A value that turns out to be nothing, when it was defined as something else, is empty on purpose. -/
def settle (indirect : Bool) (s : Selected) : Selected :=
  if s.value.isNullReference || (indirect && s.value.isUndefined) then
    { s with value := .empty, cookie := .invalid }
  else s

/-- The text of a string: of its source, or of the element's own pool when it has no source. -/
def textOf (r : Registry) (set : Option AttributeSet) (s : Selected) : Option String :=
  if s.value.type = .string then
    if s.cookie.isValid then r.string? s else set.bind fun set => set.string? s.value.data
  else none

/-- The value of an attribute from what the layers before the theme have, with the look-ups on the way. -/
def finish (r : Registry) (theme : Option Theme) (set : Option AttributeSet) (attr : ResourceId)
    (supply : Option Supply) : ResolvedAttribute × List ResourceId :=
  match (defined? supply).or (themeSupply? theme attr) with
  | none => (.missing attr,[])
  | some s =>
    let walk := follow r theme s
    let value := settle (isIndirect s.value.value.type) (walk.result.getD s.value)
    (⟨attr,value,s.source,s.sourceId,textOf r set value⟩,walk.lookups)

/-! ## Layers -/

/-- What a bag has for an attribute. -/
def bagSupply? (source : AttributeSource) (bag : Option Bag) (attr : ResourceId) : Option Supply :=
  bag.bind fun bag => (bag.find? attr).map fun e => ⟨bag.selected e,source,e.style⟩

/-- What an element has for an attribute. -/
def setSupply? (set : Option AttributeSet) (attr : ResourceId) : Option Supply :=
  set.bind fun set => (set.find? attr).map fun v => ⟨.detached v,.xmlAttribute,set.sourceId⟩

/-- What a caller brings along in a slot; an undefined value stands for nothing. -/
def explicitSupply? (value : Option Value) : Option Supply :=
  (value.filter fun v => !v.isUndefined).map fun v => ⟨.detached v,.explicit,0⟩

/-- The default style: what the theme has for an attribute, if that is a reference, or a style as such. -/
def defaultStyle (theme : Theme) (attr style : ResourceId) : ResourceId :=
  if attr = 0 then style
  else
    match theme.value? attr with
    | some s => if s.value.type = .reference then s.value.data else style
    | none => style

/-- A bag, unless its id is zero. -/
def bagOf? (m : Manager) (id : ResourceId) : Option Bag × Manager :=
  if id = 0 then (none,m) else m.bag? id

/-- The style of an element, zero if there is none. -/
def elementStyle (theme : Theme) (set : Option AttributeSet) : ResourceId :=
  let style := set.bind fun set =>
    if set.style.type = .themeAttribute then (theme.value? set.style.data).map Selected.value
    else some set.style
  match style with
  | some v => if v.type = .reference then v.data else 0
  | none => 0

/-! ## All attributes -/

/-- Finishes attributes in order, noting all look-ups. -/
def finishAll (m : Manager) (theme : Option Theme) (set : Option AttributeSet)
    (supplies : List (ResourceId × Option Supply)) : AttributeResults × Manager :=
  let finished := supplies.map fun (attr,supply) => finish m.registry theme set attr supply
  (.ofValues (finished.map (·.1)),m.noteAll (finished.flatMap (·.2)))

/-- Attributes from explicit values, one for each attribute as far as they go, the default style and the
    theme. -/
def resolveAttributes (m : Manager) (theme : Theme) (defaultAttr defaultId : ResourceId)
    (values : Option (List Value)) (attrs : List ResourceId) :
    Except ResourceError (AttributeResults × Manager) := do
  theme.check m
  let values := values.getD []
  if attrs.length < values.length then
    throw (.invalidArgument
      (Nat.repr values.length ++ " values for " ++ Nat.repr attrs.length ++ " attributes"))
  let (style,m) := bagOf? m (defaultStyle theme defaultAttr defaultId)
  let supplies := attrs.zipIdx.map fun (attr,position) =>
    (attr,(explicitSupply? values[position]?).or (bagSupply? .defaultStyle style attr))
  pure (finishAll m (some theme) none supplies)

/-- Attributes of an element, from its own, its style, the default style and the theme. -/
def applyStyle (m : Manager) (theme : Theme) (set : Option AttributeSet) (defaultAttr defaultId : ResourceId)
    (attrs : List ResourceId) : Except ResourceError (AttributeResults × Manager) := do
  theme.check m
  let (style,m) := bagOf? m (defaultStyle theme defaultAttr defaultId)
  let (elementStyle,m) := bagOf? m (elementStyle theme set)
  let supplies := attrs.map fun attr =>
    (attr,(setSupply? set attr).or
      ((bagSupply? .xmlStyle elementStyle attr).or (bagSupply? .defaultStyle style attr)))
  pure (finishAll m (some theme) set supplies)

/-- Attributes of an element from its own alone. -/
def retrieveAttributes (m : Manager) (set : AttributeSet) (attrs : List ResourceId) :
    AttributeResults × Manager :=
  finishAll m none (some set) (attrs.map fun attr => (attr,setSupply? (some set) attr))

/-- The styles that an element's attributes are looked up in: its own with its parents, then the default
    style with its parents. -/
def styleStack (m : Manager) (theme : Theme) (elementStyle defaultAttr defaultId : ResourceId) :
    Except ResourceError (List ResourceId) := do
  theme.check m
  let own ← m.registry.stack elementStyle
  let default ← m.registry.stack (defaultStyle theme defaultAttr defaultId)
  pure (own ++ default)

end Retrieval

end AndroidResources
