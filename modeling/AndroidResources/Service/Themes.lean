import AndroidResources.Service.Basic

/-!
# Themes of a service

Themes, and the attributes of elements in their themes. A theme goes with the manager that it belongs to;
only by a rebase does it go over to another one.
-/
namespace AndroidResources.Service

/-! ## Themes -/

/-- A theme without styles. -/
def createTheme (manager : Handle) : Operation Handle := do
  addTheme (.new (← managerUnder manager))

def destroyTheme (theme : Handle) : Operation Unit := do
  let _ ← themeUnder theme
  modify fun s => { s with themes := (s.themes.remove theme).2 }

/-- Applies a style to a theme, be it missing or not. -/
def applyToTheme (manager theme : Handle) (style : ResourceId) (force : Bool) : Operation Unit := do
  let m ← managerUnder manager
  let (_,t,m) ← attempt ((← themeUnder theme).apply m ⟨style,force⟩)
  keepTheme theme t
  keepManager manager m

/-- Applies the first styles of a list afresh for a manager. -/
def rebaseTheme (manager theme : Handle) (styles : List ResourceId) (force : List Bool) (count : Nat) :
    Operation Unit := do
  if styles.length < count ∨ force.length < count then
    throw (.invalidArgument (Nat.repr count ++ " styles requested, " ++ Nat.repr styles.length ++ " ids and " ++
      Nat.repr force.length ++ " flags given"))
  let stack := ((styles.zip force).take count).map fun (style,force) => ⟨style,force⟩
  let m ← managerUnder manager
  let (t,m) := (← themeUnder theme).rebase m (some stack)
  keepTheme theme t
  keepManager manager m

/-- Makes a theme a copy of another one, possibly of another manager. A theme is a copy of itself. -/
def copyTheme (manager theme otherManager other : Handle) : Operation Unit := do
  let (m,otherManager) := (← underBoth (fun s => s.managers) manager otherManager).both
  match ← underBoth (fun s => s.themes) theme other with
  | .same t => attempt (t.check m)
  | .distinct t other => keepTheme theme (← attempt (t.setTo m other otherManager))

def clearTheme (theme : Handle) : Operation Unit := do
  keepTheme theme (← themeUnder theme).clear

/-- A theme together with its manager. -/
def boundTheme (manager theme : Handle) : Operation Theme := do
  let m ← managerUnder manager
  let t ← themeUnder theme
  attempt (t.check m)
  pure t

/-- The value of an attribute. -/
def themeValue (manager theme : Handle) (attr : ResourceId) (resolve : Bool) :
    Operation (Option FlatValue) := do
  flattenResolved manager resolve ((← boundTheme manager theme).value? attr)

/-- The dimensions over which a theme varies. -/
def themeChanges (theme : Handle) : Operation Int := do
  pure (signed (← themeUnder theme).changes.bits)

def themeLines (manager theme : Handle) : Operation (List String) := do
  let t ← boundTheme manager theme
  askRegistry manager t.lines

/-! ## Attributes -/

/-- Keeps a manager, and writes the values of attributes into the caller's memory. -/
def deliver (manager : Handle) (found : Except ResourceError (AttributeResults × Manager)) :
    Operation Nat := do
  let (results,m) ← attempt found
  keepManager manager m
  fill fun b => b.writeResults results

/-- What a caller brings along in a slot: the attribute to take the value from, zero standing for none. -/
def broughtValue (attr : ResourceId) : Value :=
  if attr = 0 then .undefined else .themeAttribute attr

/-- Attributes from what the caller brings along, the default style and the theme. -/
def resolveAttributes (manager theme : Handle) (defaultAttr defaultId : ResourceId)
    (values : Option (List ResourceId)) (attrs : List ResourceId) : Operation Nat := do
  let m ← managerUnder manager
  let t ← themeUnder theme
  let values := values.map fun values => values.map broughtValue
  deliver manager (Retrieval.resolveAttributes m t defaultAttr defaultId values attrs)

/-- Attributes of an element, from its own, its style, the default style and the theme. -/
def applyStyle (manager theme : Handle) (set : Option AttributeSet) (defaultAttr defaultId : ResourceId)
    (attrs : List ResourceId) : Operation Nat := do
  let m ← managerUnder manager
  let t ← themeUnder theme
  deliver manager (Retrieval.applyStyle m t set defaultAttr defaultId attrs)

/-- Attributes of an element from its own alone. -/
def retrieveAttributes (manager : Handle) (set : AttributeSet) (attrs : List ResourceId) :
    Operation Nat := do
  let m ← managerUnder manager
  deliver manager (.ok (Retrieval.retrieveAttributes m set attrs))

/-- The styles that an element's attributes are looked up in. -/
def styleStack (manager theme : Handle) (elementStyle defaultAttr defaultId : ResourceId) :
    Operation (List Int) := do
  let m ← managerUnder manager
  let t ← themeUnder theme
  let stack ← attempt (Retrieval.styleStack m t elementStyle defaultAttr defaultId)
  pure (stack.map signed)

end AndroidResources.Service
