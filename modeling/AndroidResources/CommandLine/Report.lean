import AndroidResources.Attribute.Retrieval
import AndroidResources.Json.Printer

/-!
# Reports

What commands show, as JSON and as lines of text.
-/
namespace AndroidResources.CommandLine

/-- Something to show in either form. -/
structure Report where
  json : Json
  lines : List String

namespace Report

/-- A report as it is printed. -/
def text (r : Report) (asJson : Bool) : String :=
  if asJson then r.json.pretty ++ "\n" else String.join (r.lines.map fun line => line ++ "\n")

/-- A text, or null. -/
def optional (s : Option String) : Json :=
  (s.map Json.string).getD .null

def texts (ss : List String) : Json :=
  .array (ss.map Json.string)

/-- Texts with commas between them. -/
def listed (ss : List String) : String :=
  String.intercalate ", " ss

end Report

open Report

/-- The name of a resource, or its id when it has none. -/
def label (r : Registry) (id : ResourceId) : String :=
  ((r.name? id).map ResourceName.text).getD (Text.hexId id)

/-- The name of a resource, or its id, unless it is none. -/
def label? (r : Registry) (id : ResourceId) : Option String :=
  if id = 0 then none else some (label r id)

/-! ## Values -/

/-- What is shown of a value. -/
structure ValueReport where
  id : Option String
  type : String
  data : String
  value : String
  source : Option String
  configuration : String
  changes : List String

namespace ValueReport

def of (r : Registry) (s : Selected) : ValueReport where
  id := label? r s.id
  type := s.value.type.name
  data := Text.hexId s.value.data
  value := r.valueText s
  source := (r.source? s.cookie).map Source.path
  configuration := s.configuration.name
  changes := s.changes.toList.map Dimension.name

def json (v : ValueReport) : Json :=
  .object [("resid",optional v.id),("data_type",.string v.type),("data",.string v.data),("value",.string v.value),
    ("source",optional v.source),("config",.string v.configuration),
    ("changing_configurations",texts v.changes)]

def lines (v : ValueReport) (indent : String) : List String :=
  let shown := ["Value: " ++ v.value,"Type: " ++ v.type ++ " (" ++ v.data ++ ")"] ++
    (v.id.map fun id => "Resource: " ++ id).toList ++
    ["Source: " ++ v.source.getD "-","Config: " ++ v.configuration] ++
    (if v.changes = [] then [] else ["Varies by: " ++ listed v.changes])
  shown.map fun line => indent ++ line

end ValueReport

/-- A value as JSON, or null. -/
def optionalValue (v : Option ValueReport) : Json :=
  (v.map ValueReport.json).getD .null

/-! ## Packages -/

def packagesReport (r : Registry) (overlays loaders : Bool) : Report :=
  let packages := (r.assignedPackages overlays loaders).map fun (id,name) => ("0x" ++ Text.hex 2 id.toNat,name)
  let sources := r.sources.zipIdx.map fun (s,position) => (position,s.path,s.flags.names)
  { json := .object [
      ("packages",.array (packages.map fun (id,name) => .object [("id",.string id),("name",.string name)])),
      ("sources",.array (sources.map fun (position,path,marks) =>
        .object [("cookie",.integer position),("path",.string path),("flags",texts marks)]))]
    lines := ["Packages:"] ++ packages.map (fun (id,name) => "  " ++ id ++ " " ++ name) ++ ["","Sources:"] ++
      sources.map fun (position,path,marks) =>
        "  #" ++ Nat.repr position ++ " " ++ path ++ if marks = [] then "" else " (" ++ listed marks ++ ")" }

/-! ## Resources and bags -/

def resourceReport (r : Registry) (id : ResourceId) (resolved : Bool) (s : Selected) (trace : Option String) :
    Report :=
  let value := ValueReport.of r s
  { json := .object ([("name",.string (label r id)),("resolved",.bool resolved),("value",value.json)] ++
      (trace.map fun trace => ("trace",Json.string trace)).toList)
    lines := ("Resource: " ++ label r id) :: value.lines "  " ++
      (trace.map fun trace => ["",trace]).getD [] }

/-- How the key of a bag's entry is shown: its name, or its position in an array. -/
def keyText (r : Registry) (bag : Bag) (e : BagEntry) : String :=
  match bag.kind with
  | .array => "[" ++ Nat.repr (e.key - ResourceId.arrayBase).toNat ++ "]"
  | .style | .attributeMap => label r e.key

def bagReport (r : Registry) (id : ResourceId) (bag : Bag) : Report :=
  let parent := label? r bag.parent
  let entries := bag.entries.map fun e =>
    (keyText r bag e,r.valueText (bag.selected e),e.value.type.name,label r e.style)
  { json := .object [("name",.string (label r id)),("kind",.string bag.kind.name),("parent",optional parent),
      ("entries",.array (entries.map fun (key,value,type,style) =>
        .object [("key",.string key),("value",.string value),("data_type",.string type),("from",.string style)]))]
    lines := ["Bag: " ++ label r id ++ " (" ++ bag.kind.name ++ ")"] ++
      (parent.map fun parent => "Parent: " ++ parent).toList ++
      entries.map fun (key,value,type,style) =>
        "  " ++ key ++ " = " ++ value ++ " (" ++ type ++ ", from " ++ style ++ ")" }

/-! ## Themes and attributes -/

/-- What is shown of a theme's attribute: its value, and the style that it comes from when it is shown as
    it stands in the theme. -/
structure ThemeAttribute where
  attr : String
  style : Option String
  value : Option ValueReport

def ThemeAttribute.lines (a : ThemeAttribute) : List String :=
  match a.value, a.style with
  | some value, some style => ["  " ++ a.attr ++ " = " ++ value.value ++ " (from " ++ style ++ ")"]
  | some value, none => ("  " ++ a.attr ++ ":") :: value.lines "    "
  | none, _ => ["  " ++ a.attr ++ " = -"]

def themeReport (r : Registry) (t : Theme) (attributes : List ThemeAttribute) : Report :=
  let styles := t.stack.map fun applied => label r applied.style
  let changes := t.changes.toList.map Dimension.name
  { json := .object [("styles",texts styles),("changing_configurations",texts changes),
      ("attributes",.array (attributes.map fun a =>
        .object [("attr",.string a.attr),("from",optional a.style),("value",optionalValue a.value)]))]
    lines := ["Theme: " ++ String.intercalate " > " styles] ++
      (if changes = [] then [] else ["Varies by: " ++ listed changes]) ++
      attributes.flatMap ThemeAttribute.lines }

/-- The value of an element's attribute as it is shown, with the text of a string. -/
def attributeValue? (r : Registry) (a : ResolvedAttribute) : Option ValueReport :=
  if a.isDefined then
    let value := ValueReport.of r a.value
    some { value with value := a.string.getD value.value }
  else none

def attributeLine (r : Registry) (a : ResolvedAttribute) : String :=
  let name := label r a.attr
  match attributeValue? r a, label? r a.sourceId with
  | none, _ => name ++ " = -"
  | some value, some source => name ++ " = " ++ value.value ++ " (" ++ a.source.name ++ ", " ++ source ++ ")"
  | some value, none => name ++ " = " ++ value.value ++ " (" ++ a.source.name ++ ")"

def attributesReport (r : Registry) (results : AttributeResults) : Report where
  json := .array (results.values.map fun a =>
    .object [("attr",.string (label r a.attr)),("source",.string a.source.key),
      ("from",optional (label? r a.sourceId)),("value",optionalValue (attributeValue? r a))])
  lines := results.values.map (attributeLine r)

def stackReport (r : Registry) (styles : List ResourceId) : Report where
  json := texts (styles.map (label r))
  lines := "Style stack:" :: styles.zipIdx.map fun (id,position) =>
    "  " ++ Nat.repr (position + 1) ++ ". " ++ label r id

/-! ## Locales -/

def localesReport (locales : List String) (configurations : Option (List String)) : Report where
  json := .object (("locales",texts locales) ::
    (configurations.map fun names => ("configurations",texts names)).toList)
  lines := "Locales:" :: locales.map (fun tag => "  " ++ tag) ++
    (configurations.map fun names => "" :: "Configurations:" :: names.map fun name => "  " ++ name).getD []

end AndroidResources.CommandLine
