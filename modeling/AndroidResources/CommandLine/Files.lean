import AndroidResources.OrderedMap

/-!
# Files

The files that a command line names. A directory stands for the descriptions in it, in the order of their
paths, and hidden files and directories do not count; a file that is named itself always does. What does
not exist stands for nothing, and no path leads through it or through a file, not even back by `..`.
-/
namespace AndroidResources.CommandLine

/-- The names that lead to a place, from `.`, the directory that the command runs in, from the ones above
    it or from the root `/` on. -/
abbrev Place := List String

/-- Where a path starts. -/
def Place.start (path : String) : Place :=
  if path.startsWith "/" then ["/"] else ["."]

/-- The place one name further on, where `..` takes back the name before it. -/
def Place.next (place : Place) (name : String) : Place :=
  if name = "" || name = "." then place
  else if name = ".." then
    match place.getLast? with
    | some "." => [".."]
    | some ".." => place ++ [".."]
    | some "/" => place
    | _ => place.dropLast
  else place ++ [name]

/-- The place that a path is written for, whether or not it exists. -/
def Place.ofPath (path : String) : Place :=
  (path.splitOn "/").foldl Place.next (.start path)

/-- What stands at a place. -/
inductive Entry where
  | directory
  | file (content : String)
  deriving DecidableEq

/-- The files and directories that there are, by place. -/
abbrev FileSet := OrderedMap Place Entry

/-- Adds a directory and those that it is in. -/
def FileSet.addDirectory (files : FileSet) (place : Place) : FileSet :=
  (List.range place.length).foldl (fun files n => files.insert (place.take (n + 1)) .directory) files

/-- Adds a file and the directories that it is in. -/
def FileSet.addFile (files : FileSet) (place : Place) (content : String) : FileSet :=
  (files.addDirectory place.dropLast).insert place (.file content)

/-- Whether a place is a directory; the starts of paths always are. -/
def FileSet.isDirectory (files : FileSet) (place : Place) : Bool :=
  place = ["."] || place = ["/"] || files.get? place = some .directory

/-- The place that a path leads to: every name on it is looked up in a directory. -/
def FileSet.locate? (files : FileSet) (path : String) : Option Place :=
  (path.splitOn "/").foldlM (fun place name =>
    if files.isDirectory place then some (place.next name) else none) (.start path)

/-- The last name on a path; a path that ends without a name stands as a whole. -/
def lastName (path : String) : String :=
  let names := (path.splitOn "/").filter fun name => name ≠ ""
  match names.reverse.dropWhile (· = ".") with
  | [] => path
  | name :: _ => if name = ".." then path else name

/-- Whether a name is one of a hidden file or directory. -/
def isHidden (name : String) : Bool :=
  name.startsWith "."

/-- What follows the last point in a name; a point at its start does not count. -/
def extension? (name : String) : Option String :=
  match name.toList.reverse.span (· ≠ '.') with
  | (_,[]) => none
  | (_,[_]) => none
  | (last,_) => some (String.ofList last.reverse)

/-- Whether a file is a description by its name; the case of its letters does not count. -/
def isDescription (name : String) : Bool :=
  match extension? name with
  | some ending => ending.toList.map Char.toLower = ['j','s','o','n']
  | none => false

/-- A path with names behind it. -/
def join (path : String) (names : List String) : String :=
  (if path.endsWith "/" then path else path ++ "/") ++ String.intercalate "/" names

/-- The descriptions within the directory at a path, with their paths. -/
def descriptionsIn (files : FileSet) (path : String) (place : Place) : List (String × String) :=
  if isHidden (lastName path) then []
  else
    files.toList.filterMap fun (inner,entry) =>
      match entry, place.isPrefixOf? inner with
      | .file content, some names =>
        if names.any isHidden || !(names.getLast?.any isDescription) then none
        else some (join path names,content)
      | _, _ => none

/-- The files that a path stands for, with their paths. -/
def filesAt (files : FileSet) (path : String) : List (String × String) :=
  match files.locate? path with
  | none => []
  | some place =>
    match files.get? place with
    | some (.file content) => [(path,content)]
    | _ => descriptionsIn files path place

end AndroidResources.CommandLine
