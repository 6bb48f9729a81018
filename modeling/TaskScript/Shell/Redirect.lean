/-
Redirections: channels that a command finds elsewhere while it is carried out.
-/
import TaskScript.Number.Reading
import TaskScript.Shell.Expand

namespace TaskScript.Shell

/-- Files that stand for channels. -/
def channelFiles : List (String × Nat) :=
  [("/dev/stdin", 0), ("/dev/stdout", 1), ("/dev/stderr", 2)]

/-- Leads a channel to a file; the fault says what is wrong with it. -/
def openFile (state : State) (number : Nat) (opening : Opening) (name : String) :
    Except String State :=
  match opening, channelFiles.lookup name with
  | .share, _ =>
      if name = "-" then .ok (state.connect number none)
      else
        match decimal? name with
        | none => .error "Syntax error: Bad fd number"
        | some other =>
            match state.channel? other with
            | some channel => .ok (state.connect number (some channel))
            | none => .error s!"{name}: Bad file descriptor"
  | _, some other => .ok (state.connect number (state.channel? other))
  | opening, none =>
      if name = "/dev/null" then .ok (state.connect number (some .void))
      else
        match opening with
        | .read | .share =>
            match state.workspace.read name with
            | .ok contents => .ok (state.feed number (Text.encodeText contents))
            | .error .isDirectory => .ok (state.feed number [])
            | .error error => .error (state.dialect.openFault false name error)
        | .write | .append | .readWrite =>
            let contents :=
              if opening = .write then "" else (state.workspace.read? name).getD ""
            match state.workspace.write name contents, state.workspace.locate name with
            | .ok workspace, .ok location =>
                .ok ({ state with workspace }.connect number (some (.file location)))
            | .error error, _ | _, .error error =>
                .error (state.dialect.openFault true name error)

/-- Leads channels elsewhere, up to the first redirection that fails. -/
def redirect (substitute : Substitute) : List Redirect → Action Bool
  | [] => return true
  | .document number body :: rest => do
      let text ← expandWhole substitute body
      modify fun state => state.feed number (Text.encodeText text)
      redirect substitute rest
  | .file number opening name :: rest => do
      let name ← expandWhole substitute name
      match openFile (← get) number opening name with
      | .ok state => do
          set state
          redirect substitute rest
      | .error fault => do
          Action.complain fault
          Action.setStatus (← get).dialect.failureStatus
          return false

/-- Carries out an action and then, however it ends, leads the channels where they led
before. -/
def keepingChannels (action : Action Unit) : Action Unit := do
  let channels := (← get).channels
  tryCatch action fun halt => do
    modify fun state => { state with channels }
    throw halt
  modify fun state => { state with channels }

end TaskScript.Shell
