import AndroidResources.Asset
import AndroidResources.Table.Basic

/-!
# Sources

A source is a table together with files, under a path and with marks that say where it ranks. The paths
of its files do not start with a slash.
-/
namespace AndroidResources

/-- Marks of a source. -/
structure SourceFlags where
  /-- Part of the platform. -/
  system : Bool := false
  /-- Brought in by a loader. -/
  loader : Bool := false
  /-- Made to replace resources of others. -/
  overlay : Bool := false
  /-- Behind every source that is not. -/
  lowerPriority : Bool := false
  deriving DecidableEq, Inhabited

namespace SourceFlags

/-- Each mark with its name and bit, in the order in which they are listed. -/
def listed (f : SourceFlags) : List (String × Nat × Bool) :=
  [("system",1,f.system),("loader",4,f.loader),("overlay",8,f.overlay),("lower_priority",16,f.lowerPriority)]

/-- The names of the marks that are set. -/
def names (f : SourceFlags) : List String :=
  f.listed.filterMap fun (name,_,set) => if set then some name else none

/-- The marks as a mask. -/
def bits (f : SourceFlags) : Nat :=
  f.listed.foldl (fun mask (_,bit,set) => if set then mask + bit else mask) 0

/-- Whether two sets of marks share one. -/
def intersects (f g : SourceFlags) : Bool :=
  (f.system && g.system) || (f.loader && g.loader) || (f.overlay && g.overlay) ||
    (f.lowerPriority && g.lowerPriority)

end SourceFlags

/-- A path without slashes in front of it. -/
def withoutLeadingSlashes (path : String) : String :=
  String.ofList (path.toList.dropWhile (· = '/'))

/-- A source of resources and assets. -/
structure Source where
  path : String
  table : Table := {}
  flags : SourceFlags := {}
  assets : OrderedMap String (List UInt8) := {}
  deriving Inhabited

namespace Source

/-- The source with a file. -/
def withAsset (s : Source) (name : String) (data : List UInt8) : Source :=
  { s with assets := s.assets.insert (withoutLeadingSlashes name) data }

/-- Opens a file. -/
def open? (s : Source) (name : String) : Option Asset :=
  let name := withoutLeadingSlashes name
  (s.assets.get? name).map fun data => { name, data }

/-- What stands in front of the paths within a directory. -/
def directoryStem (directory : String) : List Char :=
  let cs := Text.trimmed (· = '/') directory.toList
  if cs = [] then [] else cs ++ ['/']

/-- Merges equal neighbours. -/
def withoutRepeats : List String → List String
  | a :: b :: rest => if a = b then withoutRepeats (b :: rest) else a :: withoutRepeats (b :: rest)
  | names => names

/-- The names of the files and directories within a directory, in the order of the paths. -/
def list (s : Source) (directory : String) : List String :=
  let stem := directoryStem directory
  withoutRepeats (s.assets.keys.filterMap fun path =>
    (List.isPrefixOf? stem path.toList).map fun rest => String.ofList (rest.takeWhile (· ≠ '/')))

end Source

end AndroidResources
