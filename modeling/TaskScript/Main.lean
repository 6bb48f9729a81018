/-
The program itself: it takes a picture of the files below the current directory, makes
the call, writes what has changed and reports.  Scripts are run by the programs at hand.
-/
import TaskScript.CommandLine
import TaskScript.Shell.Interpreter

namespace TaskScript.Main

/-- How far down directories are looked into. -/
def depthLimit : Nat := 64

/-- The files and directories below a directory of the system. -/
def snapshot (location : Location) : Nat → IO.FS.DirEntry → IO (List (Location × Node))
  | 0, _ => return []
  | depth + 1, entry => do
      let place := location ++ [entry.fileName]
      try
        let inner ← entry.path.readDir
        return (place, .directory) :: (← inner.toList.mapM (snapshot place depth)).flatten
      catch _ =>
        try return [(place, .file (← IO.FS.readFile entry.path))] catch _ => return []

/-- The directories on the way to a location. -/
def ancestors (location : Location) : List (Location × Node) :=
  (List.range location.length).map fun length => (location.take (length + 1), .directory)

def workspaceHere : IO Workspace := do
  let here ← IO.currentDir
  let current := (Path.pieces here.toString.toList).filter (!·.isEmpty)
  let current := current.map String.ofList
  let below ← (← here.readDir).toList.mapM (snapshot current depthLimit)
  return { current, nodes := ancestors current ++ below.flatten }

/-- Writes every file and directory that was not there before as it is now. -/
def store (before after : Workspace) : IO Unit :=
  for (location, node) in after.nodes do
    if before.node? location ≠ some node then
      let path := "/" ++ "/".intercalate location
      match node with
      | .directory => IO.FS.createDirAll path
      | .file contents => IO.FS.writeFile path contents

end TaskScript.Main

open TaskScript in
def main (arguments : List String) : IO UInt32 := do
  let before ← Main.workspaceHere
  let outcome := CommandLine.run Shell.runner arguments before
  Main.store before outcome.workspace
  IO.print outcome.stdout
  for failure in outcome.failures do
    IO.eprintln failure.message
  match outcome.error? with
  | some error => IO.eprintln ("Error: " ++ error)
  | none =>
      match CommandLine.Request.parse arguments with
      | .error error => IO.eprintln ("error: " ++ error.message)
      | .ok _ => pure ()
  return UInt32.ofNat outcome.exitCode
