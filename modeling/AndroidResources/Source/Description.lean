import AndroidResources.Source.Basic
import AndroidResources.Table.Description

/-!
# Source descriptions

The JSON form of a source: the members of a table's description next to the source's marks and files.
What a source says beyond these must still be sound and not nested too deeply.
-/
namespace AndroidResources

/-- A source in text form. -/
structure SourceDescription where
  flags : SourceFlags := {}
  assets : OrderedMap String String := {}
  packages : List PackageDescription := []

namespace SourceDescription

/-- The nesting that a description may have. -/
def maxDepth : Nat := 127

/-- A file with its text. -/
def assetOfMember? (member : String × Json) : Option (String × String) :=
  (Json.toText? member.2).map fun content => (member.1,content)

/-- The files of a description, the last one counting where a path repeats. -/
def assetsOfJson? : Json → Option (OrderedMap String String)
  | .object members => (members.mapM assetOfMember?).map OrderedMap.ofList
  | _ => none

/-- A mark, which is not set when it is missing. -/
def mark? (members : List (String × Json)) (name : String) : Option Bool := do
  Json.optional? Json.toBool? false (← Json.member? members name)

def ofJson? (j : Json) : Option SourceDescription :=
  match j with
  | .object members => do
    if !j.isProper || maxDepth < j.depth then failure
    some {
      flags := {
        system := ← mark? members "system"
        loader := ← mark? members "loader"
        overlay := ← mark? members "overlay"
        lowerPriority := ← mark? members "lower_priority" }
      assets := ← Json.optional? assetsOfJson? {} (← Json.member? members "assets")
      packages := ← packagesOf? (← Json.member? members "packages") }
  | _ => none

/-- Reads a description. -/
def ofText (s : String) : Except ResourceError SourceDescription :=
  match (Json.parse? s).bind ofJson? with
  | some description => .ok description
  | none => .error .malformedSource

def toJson (d : SourceDescription) : Json :=
  .object [("system",.bool d.flags.system),("overlay",.bool d.flags.overlay),("loader",.bool d.flags.loader),
    ("lower_priority",.bool d.flags.lowerPriority),
    ("assets",.object (d.assets.toList.map fun (path,content) => (path,.string content))),
    packagesMember d.packages]

/-- The described source; the files hold the text of their descriptions. -/
def build (d : SourceDescription) (path : String) (imports : List Table) : Except ResourceError Source :=
  match (TableDescription.mk d.packages).build imports with
  | .error error => .error (.table error)
  | .ok table =>
    .ok (d.assets.toList.foldl (fun s (name,content) => s.withAsset name content.toUTF8.toList)
      { path, table, flags := d.flags })

end SourceDescription

/-- The source in a file, of which there may be no content. -/
def Source.load (path : String) (content : Option String) (imports : List Table) : Except ResourceError Source :=
  match content with
  | none => .error .fileNotFound
  | some text => do (← SourceDescription.ofText text).build path imports

end AndroidResources
