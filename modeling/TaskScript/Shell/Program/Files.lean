/-
Programs that make, list and remove files and directories.
-/
import TaskScript.Shell.Program.Basic

namespace TaskScript.Shell.Program

/-- Writes the input out and into files. -/
def tee (call : Call) : Effect :=
  call.withOptions { flags := "aip", names := [("append", 'a')] } fun choices =>
    choices.operands.foldl (fun effect operand =>
      let before :=
        if choices.has 'a' then (effect.workspace.read? operand).getD "" else ""
      match effect.workspace.write operand (before ++ Text.decodeBytes call.input) with
      | .ok workspace => { effect with workspace }
      | .error error => effect.complain s!"{call.name}: {plainName operand}: {error.message}")
      ({ call.start with input := [] }.write call.input)

/-- Makes empty files where there are none; a dash stands for the output. -/
def touch (call : Call) : Effect :=
  call.withOptions
    { flags := "acfhm", valued := "drt", names := [("no-create", 'c')] } fun choices =>
    if choices.operands.isEmpty then call.misused ["missing file operand"]
    else
      choices.operands.foldl (fun effect operand =>
        if effect.workspace.exists? operand || operand = "-" then effect
        else
          match effect.workspace.find operand, effect.workspace.write operand "" with
          | _, .ok workspace => if choices.has 'c' then effect else { effect with workspace }
          | .error error, .error .isDirectory =>
              effect.complain
                s!"{call.name}: setting times of {quotedName operand}: {error.message}"
          | _, .error error =>
              effect.complain s!"{call.name}: cannot touch {quotedName operand}: {error.message}")
        call.start

/-- The beginnings of a path that end with a name before a slash and a later name;
`before` comes last character first. -/
def beginnings (before : List Char) : List Char → List String
  | [] | [_] => []
  | c :: next :: rest =>
      let longer := beginnings (c :: before) (next :: rest)
      if c ≠ '/' ∧ next = '/' ∧ rest.any (· ≠ '/') then
        String.ofList (c :: before).reverse :: longer
      else longer

/-- Makes all directories on a path; the fault comes with the path that it is about. -/
def makePath (workspace : Workspace) (path : String) :
    Except (String × PathError) Workspace := do
  let made ← (beginnings [] path.toList).foldlM (fun (workspace : Workspace) beginning =>
    match workspace.ensureDirectory beginning with
    | .ok workspace => .ok workspace
    | .error .taken => .error (beginning, .notDirectory)
    | .error error => .error (beginning, error)) workspace
  (made.ensureDirectory path).mapError (path, ·)

def makeDirectories (call : Call) : Effect :=
  call.withOptions { flags := "pv", valued := "m", names := [("parents", 'p')] } fun choices =>
    if choices.operands.isEmpty then call.missingOperand
    else
      choices.operands.foldl (fun effect operand =>
        let made :=
          if choices.has 'p' then makePath effect.workspace operand
          else (effect.workspace.makeDirectory operand).mapError (operand, ·)
        match made with
        | .ok workspace => { effect with workspace }
        | .error (path, error) =>
            effect.complain
              s!"{call.name}: cannot create directory {quotedName path}: {error.message}")
        call.start

/-- Whether a path ends with a piece that stands for a directory by its place. -/
def endsInDots (path : String) : Bool :=
  match (Path.pieces path.toList).reverse.dropWhile List.isEmpty with
  | last :: _ => last == ['.'] || last == ['.', '.']
  | [] => false

/-- Removes files and, if that is asked for, directories with all they hold. -/
def remove (call : Call) : Effect :=
  call.withOptions
    { flags := "dfirRvI"
      names := [("force", 'f'), ("recursive", 'r'), ("dir", 'd')] } fun choices =>
    let whole := choices.has 'r' || choices.has 'R'
    if choices.operands.isEmpty then
      if choices.has 'f' then call.start else call.missingOperand
    else
      choices.operands.foldl (fun effect operand =>
        let workspace := effect.workspace
        let removed (location : Location) : Effect :=
          { effect with workspace := workspace.without location }
        let refuse (text : String) : Effect :=
          effect.complain s!"{call.name}: cannot remove {quotedName operand}: {text}"
        match workspace.find operand, workspace.locate operand with
        | .ok (.file _), .ok location => removed location
        | .ok .directory, .ok location =>
            if whole && endsInDots operand then
              effect.complain
                (s!"{call.name}: refusing to remove '.' or '..' directory: skipping " ++
                  quotedName operand)
            else if whole then removed location
            else if !choices.has 'd' then refuse "Is a directory"
            else if (workspace.children location).isEmpty then removed location
            else refuse "Directory not empty"
        | .error error, _ | _, .error error =>
            if choices.has 'f' ∧ (error = .missing ∨ error = .notDirectory) then effect
            else refuse error.message)
        call.start

/-- Removes directories that hold nothing. -/
def removeDirectories (call : Call) : Effect :=
  call.withOptions {} fun choices =>
    if choices.operands.isEmpty then call.missingOperand
    else
      choices.operands.foldl (fun effect operand =>
        let refuse (text : String) : Effect :=
          effect.complain s!"{call.name}: failed to remove {quotedName operand}: {text}"
        match effect.workspace.find operand, effect.workspace.locate operand with
        | .ok (.file _), _ => refuse "Not a directory"
        | .ok .directory, .ok location =>
            if (effect.workspace.children location).isEmpty then
              { effect with workspace := effect.workspace.without location }
            else refuse "Directory not empty"
        | .error error, _ | _, .error error => refuse error.message) call.start

/-- Why something is not copied or moved. -/
inductive TransferFault where
  | unreadable (source : String) (error : PathError)
  | isDirectory (source : String)
  | same (source target : String)
  | intoItself (source target : String)
  | overwritesDirectory (target : String)
  | overwritesFile (source target : String)
  | uncreatable (source target : String) (error : PathError)

/-- How the program that copies words a fault, or the one that moves. -/
def TransferFault.message (moves : Bool) : TransferFault → String
  | .unreadable source error => s!"cannot stat {quotedName source}: {error.message}"
  | .isDirectory source => s!"-r not specified; omitting directory {quotedName source}"
  | .same source target => s!"{quotedName source} and {quotedName target} are the same file"
  | .intoItself source target =>
      if moves then
        s!"cannot move {quotedName source} to a subdirectory of itself, {quotedName target}"
      else s!"cannot copy a directory, {quotedName source}, into itself, {quotedName target}"
  | .overwritesDirectory target =>
      s!"cannot overwrite directory {quotedName target} with non-directory"
  | .overwritesFile source target =>
      s!"cannot overwrite non-directory {quotedName target} with directory {quotedName source}"
  | .uncreatable source target error =>
      if moves then
        s!"cannot move {quotedName source} to {quotedName target}: {error.message}"
      else s!"cannot create regular file {quotedName target}: {error.message}"

/-- Puts what is at one path at another, with all that it holds. -/
def transfer (workspace : Workspace) (moves whole : Bool) (source target : String) :
    Except TransferFault Workspace := do
  let node ← (workspace.find source).mapError (.unreadable source)
  let origin ← (workspace.locate source).mapError (.unreadable source)
  if node = .directory ∧ !whole then throw (.isDirectory source)
  let missing (error : PathError) : TransferFault := .uncreatable source target error
  let place ← (workspace.locate target).mapError fun error =>
    missing (if target.toList.getLast? = some '/' then .notDirectory else error)
  if origin = place then throw (.same source target)
  if node = .directory ∧ origin.isPrefixOf place then throw (.intoItself source target)
  match node, workspace.node? place with
  | .file _, some .directory => throw (.overwritesDirectory target)
  | .directory, some (.file _) => throw (.overwritesFile source target)
  | _, _ => pure ()
  let parent := workspace.node? place.dropLast
  if parent ≠ some .directory then
    throw (missing (if parent = none then .missing else .notDirectory))
  let below := workspace.nodes.filter fun entry => origin.isPrefixOf entry.1
  let copied := below.foldl (fun (workspace : Workspace) (location, node) =>
    workspace.put (place ++ location.drop origin.length) node) workspace
  return if moves then copied.without origin else copied

/-- Copies files or moves them: the last operand is where to, and a directory there takes
them in. -/
def transferAll (moves : Bool) (call : Call) : Effect :=
  call.withOptions
    { flags := "afinpruRTv", names := [("recursive", 'r'), ("archive", 'a'), ("force", 'f')] }
    fun choices =>
      let whole := moves || ['r', 'R', 'a'].any choices.has
      match choices.operands.reverse with
      | [] => call.misused ["missing file operand"]
      | [source] => call.misused [s!"missing destination file operand after {quotedName source}"]
      | target :: reversed =>
          let opens := call.workspace.isDirectory target
          if !opens ∧ 1 < reversed.length then
            let reason :=
              match call.workspace.find target with
              | .ok _ => PathError.notDirectory.message
              | .error error => error.message
            call.start.complain s!"{call.name}: target {quotedName target}: {reason}"
          else
            reversed.reverse.foldl (fun effect source =>
              let destination := if opens then Path.join target (lastPiece source) else target
              match transfer effect.workspace moves whole source destination with
              | .ok workspace => { effect with workspace }
              | .error fault => effect.complain s!"{call.name}: {fault.message moves}") call.start
where
  lastPiece (path : String) : String :=
    match (Path.pieces path.toList).reverse.dropWhile List.isEmpty with
    | piece :: _ => String.ofList piece
    | [] => ""

/-- The names in directories, a line each. -/
def list (call : Call) : Effect :=
  call.withOptions
    { flags := "1aAdr", refusal := 2
      names := [("all", 'a'), ("almost-all", 'A'), ("reverse", 'r')] } fun choices =>
    let inOrder (names : List String) : List String :=
      let sorted := names.mergeSort fun a b => decide (a ≤ b)
      if choices.has 'r' then sorted.reverse else sorted
    let targets := if choices.operands.isEmpty then ["."] else choices.operands
    let effect := targets.foldl (fun effect target =>
      match effect.workspace.find target with
      | .ok _ => effect
      | .error error =>
          effect.complain
            s!"{call.name}: cannot access {quotedName target}: {error.message}" 2) call.start
    let opens (target : String) : Bool := call.workspace.isDirectory target && !choices.has 'd'
    let present := inOrder (targets.filter call.workspace.exists?)
    let files := present.filter (!opens ·)
    let effect := effect.writeText (String.join (files.map (· ++ "\n")))
    (present.filter opens).foldl (fun effect target =>
      let names := ((call.workspace.locate target).toOption.map call.workspace.children).getD []
      let names :=
        if choices.has 'a' then "." :: ".." :: names
        else if choices.has 'A' then names
        else names.filter (·.toList.head? != some '.')
      let gap := if effect.out.isEmpty then "" else "\n"
      let effect :=
        if 1 < targets.length then effect.writeText s!"{gap}{target}:\n" else effect
      effect.writeText (String.join ((inOrder names).map (· ++ "\n")))) effect

example : beginnings [] "/a//b/c/".toList = ["/a", "/a//b"] := by decide

end TaskScript.Shell.Program
