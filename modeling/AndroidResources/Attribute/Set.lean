import AndroidResources.Registry.Lookup
import AndroidResources.Value.Literal

/-!
# Attribute sets

The attributes of an XML element, with a pool of their own for their strings, and the element's style.
-/
namespace AndroidResources

/-- The attributes of an element. -/
structure AttributeSet where
  /-- A reference, a theme attribute or nothing. -/
  style : Value := .undefined
  /-- The resource of the file that the element stands in. -/
  sourceId : ResourceId := 0
  attributes : List (ResourceId × Value) := []
  strings : StringPool := {}
  deriving Inhabited

namespace AttributeSet

/-- The set with one more attribute. -/
def push (s : AttributeSet) (attr : ResourceId) (v : Value) : AttributeSet :=
  { s with attributes := s.attributes ++ [(attr,v)] }

/-- The set with one more attribute that is a string. -/
def pushString (s : AttributeSet) (attr : ResourceId) (text : String) : AttributeSet :=
  let (position,strings) := s.strings.intern text
  { s with strings }.push attr ⟨.string,position⟩

/-- The last value of an attribute. -/
def find? (s : AttributeSet) (attr : ResourceId) : Option Value :=
  s.attributes.reverse.lookup attr

/-- The string at a position of the set's own pool. -/
def string? (s : AttributeSet) (position : UInt32) : Option String :=
  s.strings.get? position

/-! ## Reading -/

/-- A literal of a value or a string, names being looked up in a registry. -/
def readLiteral (r : Registry) (text : String) : Except ResourceError Literal :=
  match Literal.ofText text with
  | .error error => .error (.table error)
  | .ok (.name name isAttribute) =>
    match r.id? name (if isAttribute then some "attr" else none) none with
    | some id => .ok (.value (if isAttribute then .themeAttribute id else .reference id))
    | none => .error (.invalidArgument ("unknown resource " ++ text))
  | .ok literal => .ok literal

/-- The id of an attribute's name, which may be an id in hexadecimal. -/
def readName (r : Registry) (name : String) : Except ResourceError ResourceId :=
  let byName := match r.id? name (some "attr") none with
    | some id => .ok id
    | none => .error (.invalidArgument ("unknown attribute " ++ name))
  match Literal.ofText ("?" ++ name) with
  | .ok (.value v) => if v.type = .themeAttribute then .ok v.data else byName
  | _ => byName

/-- The value of an element's style, which must not be a string. -/
def readStyle (r : Registry) (text : String) : Except ResourceError Value := do
  match ← readLiteral r text with
  | .value v => pure v
  | _ => throw (.invalidArgument ("style " ++ Text.quoted text ++ " is not a reference"))

/-- The set with an attribute in text form. -/
def read (r : Registry) (s : AttributeSet) (named : String × String) : Except ResourceError AttributeSet := do
  let attr ← readName r named.1
  match ← readLiteral r named.2 with
  | .value v => pure (s.push attr v)
  | .string text => pure (s.pushString attr text)
  | .name name _ => throw (.invalidArgument ("unresolved name " ++ name))

/-- A set in text form. -/
def ofText (r : Registry) (style : Option String) (attributes : List (String × String)) :
    Except ResourceError AttributeSet := do
  let style ← match style with
    | none => pure .undefined
    | some text => readStyle r text
  attributes.foldlM (read r) { style }

end AttributeSet

end AndroidResources
