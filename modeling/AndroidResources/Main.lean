import AndroidResources.CommandLine.Run

/-!
# The program

Reads the files that the command line names, and prints what the command leaves.
-/
namespace AndroidResources.CommandLine

/-- Adds the files at a path; directories are gone through, and what cannot be read is left out. -/
partial def gather (files : FileSet) (path : String) (place : Place) : IO FileSet := do
  let target := (← IO.currentDir) / path
  if ← target.isDir then
    (← target.readDir).foldlM (fun files entry =>
      gather files (join path [entry.fileName]) (place ++ [entry.fileName])) (files.addDirectory place)
  else
    try
      pure (files.addFile place (← IO.FS.readFile target))
    catch _ => pure files

/-- Adds the directories that a path leads through. -/
def gatherWay (files : FileSet) (path : String) : IO FileSet := do
  let names := path.splitOn "/"
  (List.range names.length).foldlM (fun files n => do
    let way := String.intercalate "/" (names.take n)
    if ← ((← IO.currentDir) / way).isDir then pure (files.addDirectory (.ofPath way)) else pure files) files

/-- The files that a command line needs. -/
def gatherAll (words : List String) : IO FileSet :=
  match Invocation.ofWords words with
  | .error _ => pure {}
  | .ok invocation =>
    invocation.setup.sources.foldlM (fun files path => do
      gather (← gatherWay files path) path (.ofPath path)) {}

end AndroidResources.CommandLine

open AndroidResources.CommandLine in
/-- Carries the command line out. -/
def main (words : List String) : IO UInt32 := do
  let output := run (← gatherAll words) words
  IO.print output.stdout
  IO.eprint output.stderr
  pure (.ofNat output.exit)
