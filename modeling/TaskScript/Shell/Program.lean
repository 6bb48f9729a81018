/-
The programs by their names and where they are found.  The shell and the program that
changes variables for another call are the only ones that call others.
-/
import TaskScript.Shell.Dialect
import TaskScript.Shell.Program.Columns
import TaskScript.Shell.Program.Expression
import TaskScript.Shell.Program.Files
import TaskScript.Shell.Program.Lines
import TaskScript.Shell.Program.Sorting
import TaskScript.Shell.Program.Translate
import TaskScript.Shell.Program.Values

namespace TaskScript.Shell

inductive Program where
  | shell (dialect : Dialect)
  /-- It changes variables for another call. -/
  | launcher
  | plain (run : Call → Effect)

namespace Program

def all : List (String × Program) :=
  [("sh", .shell .dash), ("dash", .shell .dash), ("bash", .shell .bash), ("env", .launcher),
    ("basename", .plain baseName), ("cat", .plain concatenate), ("cp", .plain (transferAll false)),
    ("cut", .plain columns), ("dirname", .plain directoryName), ("echo", .plain echo),
    ("expr", .plain express), ("false", .plain fun call => { call.start with status := 1 }),
    ("head", .plain head), ("ls", .plain list), ("mkdir", .plain makeDirectories),
    ("mv", .plain (transferAll true)), ("nl", .plain numberLines),
    ("printenv", .plain writeVariables), ("printf", .plain print),
    ("pwd", .plain writeCurrentPath), ("rev", .plain reverseCharacters),
    ("rm", .plain remove), ("rmdir", .plain removeDirectories), ("seq", .plain sequence),
    ("sleep", .plain sleep), ("sort", .plain sortLines), ("tac", .plain reverseLines),
    ("tail", .plain tail), ("tee", .plain tee), ("test", .plain test), ("touch", .plain touch),
    ("tr", .plain translate), ("true", .plain Call.start), ("uniq", .plain uniqueLines),
    ("wc", .plain wordCount)]

/-- Where programs are found. -/
def places : List Location := [["bin"], ["usr", "bin"]]

/-- The directories around the programs. -/
def system : Workspace :=
  { current := []
    nodes := [(["bin"], .directory), (["usr"], .directory), (["usr", "bin"], .directory)] }

/-- The program that a path from the root on leads to. -/
def at? (path : String) : Option Program :=
  match system.locate path with
  | .ok location =>
      if Path.isAbsolute path && places.contains location.dropLast then
        location.getLast?.bind fun name => all.lookup name
      else none
  | .error _ => none

/-- The program that a command means, and its path: a path has to lead to it, a bare name
is looked up along the search path, which has the places of the programs in it unless it
is given. -/
def find? (searchPath? : Option String) (command : String) : Option (String × Program) :=
  let candidates : List String :=
    if command.toList.contains '/' then [command]
    else
      ((searchPath?.getD "/bin:/usr/bin").splitOn ":").map fun place => Path.join place command
  candidates.findSome? fun path => (at? path).map (path, ·)

end Program

end TaskScript.Shell
