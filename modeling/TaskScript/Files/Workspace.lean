/-
A tree of files as a value.  Nodes are kept under the names from the root on; relative
paths start at the current directory.  A step through a path needs a directory to
step in, also when it leads nowhere or back; a path that leads nowhere says why.
-/
import TaskScript.Ascending
import TaskScript.Files.Path

namespace TaskScript

inductive Node where
  | directory
  | file (contents : String)
  deriving DecidableEq, Repr

/-- The names on the way from the root. -/
abbrev Location := List String

/-- Why nothing can be done at a path. -/
inductive PathError where
  | missing
  | notDirectory
  | isDirectory
  /-- The path or a name on it has too many bytes. -/
  | tooLong
  /-- Something is there already. -/
  | taken
  | nullCharacter
  deriving DecidableEq, Repr

def PathError.message : PathError → String
  | .missing => "No such file or directory"
  | .notDirectory => "Not a directory"
  | .isDirectory => "Is a directory"
  | .tooLong => "File name too long"
  | .taken => "File exists"
  | .nullCharacter => "Invalid argument"

structure Workspace where
  current : Location
  nodes : List (Location × Node) := []
  deriving DecidableEq, Repr

namespace Workspace

def node? (workspace : Workspace) (location : Location) : Option Node :=
  if location.isEmpty then some .directory else workspace.nodes.lookup location

/-- Names of files are at most this many bytes long. -/
def nameLimit : Nat := 255

/-- Paths are at most this many bytes long. -/
def pathLimit : Nat := 4095

/-- One step from a directory. -/
def step (workspace : Workspace) (location : Location) (piece : List Char) :
    Except PathError Location :=
  match workspace.node? location with
  | none => .error .missing
  | some (.file _) => .error .notDirectory
  | some .directory =>
      if Path.isIdle piece then .ok location
      else if piece = ['.', '.'] then .ok location.dropLast
      else
        let name := String.ofList piece
        if nameLimit < name.utf8ByteSize then .error .tooLong else .ok (location ++ [name])

/-- Steps through pieces from where a path with them starts. -/
def walk (workspace : Workspace) (path : String) (pieces : List (List Char)) :
    Except PathError Location :=
  if path.toList.contains '\x00' then .error .nullCharacter
  else if path.isEmpty then .error .missing
  else if pathLimit < path.utf8ByteSize then .error .tooLong
  else
    let start := if Path.isAbsolute path then [] else workspace.current
    pieces.foldlM workspace.step start

/-- Where a path leads, which need not exist if all before it does. -/
def locate (workspace : Workspace) (path : String) : Except PathError Location :=
  workspace.walk path (Path.pieces path.toList)

/-- What a path leads to. -/
def find (workspace : Workspace) (path : String) : Except PathError Node := do
  match workspace.node? (← workspace.locate path) with
  | some node => .ok node
  | none => .error .missing

def isDirectory (workspace : Workspace) (path : String) : Bool :=
  match workspace.find path with
  | .ok .directory => true
  | _ => false

def exists? (workspace : Workspace) (path : String) : Bool :=
  match workspace.find path with
  | .ok _ => true
  | .error _ => false

def read (workspace : Workspace) (path : String) : Except PathError String := do
  match ← workspace.find path with
  | .file contents => .ok contents
  | .directory => .error .isDirectory

def read? (workspace : Workspace) (path : String) : Option String :=
  (workspace.read path).toOption

/-- Puts a node at a location in the place of what is there. -/
def put (workspace : Workspace) (location : Location) (node : Node) : Workspace :=
  if workspace.nodes.any (·.1 == location) then
    { workspace with
      nodes := workspace.nodes.map fun entry => if entry.1 = location then (location, node) else entry }
  else { workspace with nodes := workspace.nodes ++ [(location, node)] }

/-- Without what is at a location or below it. -/
def without (workspace : Workspace) (location : Location) : Workspace :=
  { workspace with nodes := workspace.nodes.filter fun entry => !location.isPrefixOf entry.1 }

/-- Writes a file; a directory is not replaced by one, nor is one made where the path
ends in a slash. -/
def write (workspace : Workspace) (path contents : String) : Except PathError Workspace := do
  if path.toList.getLast? = some '/' then
    let before := ((Path.pieces path.toList).reverse.dropWhile List.isEmpty).drop 1
    let _ ← workspace.walk path ([] :: before).reverse
    throw .isDirectory
  else
    let location ← workspace.locate path
    match workspace.node? location with
    | some .directory => throw .isDirectory
    | some (.file _) | none => return workspace.put location (.file contents)

def write? (workspace : Workspace) (path contents : String) : Option Workspace :=
  (workspace.write path contents).toOption

/-- Makes one directory where nothing is yet, in a directory that is there.  Slashes at
the end do not matter. -/
def makeDirectory (workspace : Workspace) (path : String) : Except PathError Workspace :=
  match (Path.pieces path.toList).reverse.dropWhile List.isEmpty with
  | [] => .error (if path.isEmpty then .missing else .taken)
  | last :: before => do
      let parent ← workspace.walk path before.reverse
      let location ← workspace.step parent last
      match workspace.node? location with
      | some _ => .error .taken
      | none => .ok (workspace.put location .directory)

/-- Makes one directory unless it is there. -/
def ensureDirectory (workspace : Workspace) (path : String) : Except PathError Workspace :=
  match workspace.makeDirectory path with
  | .error .taken => if workspace.isDirectory path then .ok workspace else .error .taken
  | made => made

/-- Ensures the first of the paths; where something is missing on the way to it, the
others first. -/
def ensureAlong (workspace : Workspace) : List String → Except PathError Workspace
  | [] => .ok workspace
  | path :: parents =>
      match workspace.ensureDirectory path with
      | .error .missing => do (← workspace.ensureAlong parents).ensureDirectory path
      | result => result

/-- Makes every directory on a path that is not there.  A path whose last piece is a dot
needs its directory beforehand; the empty path needs none. -/
def makeDirectories (workspace : Workspace) (path : String) : Except PathError Workspace :=
  workspace.ensureAlong (Path.ancestors path)

/-- The names below a location, from it on, in ascending order; a directory comes right
before what it holds. -/
def descendants (workspace : Workspace) (location : Location) : List Location :=
  let below := workspace.nodes.filterMap fun entry =>
    if location.isPrefixOf entry.1 ∧ entry.1 ≠ location then
      some (entry.1.drop location.length)
    else none
  below.mergeSort fun a b => Path.compareComponents (a.map .name) (b.map .name) != .gt

/-- The names in a directory, in ascending order. -/
def children (workspace : Workspace) (location : Location) : List String :=
  (workspace.descendants location).filterMap fun
    | [name] => some name
    | _ => none

/-- The files below a location, by the paths that lead to them from there. -/
def filesBelow (workspace : Workspace) (location : Location) : List (String × String) :=
  (workspace.descendants location).filterMap fun names =>
    match workspace.node? (location ++ names) with
    | some (.file contents) => some ("/".intercalate names, contents)
    | _ => none

end Workspace

end TaskScript
