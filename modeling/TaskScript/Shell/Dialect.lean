/-
The shells that can be called.  They read the same scripts; what goes wrong they word in
ways of their own and count differently, and one echoes escapes only if told to.
-/
import TaskScript.Files.Workspace

namespace TaskScript.Shell

inductive Dialect where
  | dash
  | bash
  deriving DecidableEq, Repr

namespace Dialect

/-- What comes before a complaint about a line of a script; line zero is none in
particular. -/
def place (dialect : Dialect) (program : String) (line : Nat) : String :=
  match dialect with
  | .dash => s!"{program}: {line}: "
  | .bash => if line = 0 then s!"{program}: " else s!"{program}: line {line}: "

/-- The status with which a shell ends that cannot go on. -/
def failureStatus : Dialect → Nat
  | .dash => 2
  | .bash => 1

/-- Why a file cannot be opened. -/
def openFault (dialect : Dialect) (creating : Bool) (name : String) (error : PathError) :
    String :=
  match dialect with
  | .bash => s!"{name}: {error.message}"
  | .dash =>
      let reason :=
        match error with
        | .missing | .notDirectory => if creating then "Directory nonexistent" else "No such file"
        | error => error.message
      let purpose := if creating then "create" else "open"
      s!"cannot {purpose} {name}: {reason}"

/-- Why a script cannot be read, and the status that stands for it. -/
def scriptFault (dialect : Dialect) (name : String) (error : PathError) : String × Nat :=
  let status :=
    match dialect with
    | .dash => 2
    | .bash => if error = .missing then 127 else 126
  (dialect.openFault false name error, status)

/-- Why a command cannot be carried out, and the status that stands for it. -/
def commandFault (dialect : Dialect) (workspace : Workspace) (name : String) : String × Nat :=
  let isPath := name.toList.contains '/'
  match dialect, workspace.find name with
  | .dash, found =>
      let isThere := isPath && found.toOption.isSome
      let reason := if isThere || name.isEmpty then "Permission denied" else "not found"
      (s!"{name}: {reason}", if isThere then 126 else 127)
  | .bash, found =>
      if !isPath then (s!"{name}: command not found", 127)
      else
        match found with
        | .ok (.file _) => (s!"{name}: Permission denied", 126)
        | .ok .directory => (s!"{name}: Is a directory", 126)
        | .error error => (s!"{name}: {error.message}", if error = .missing then 127 else 126)

/-- Why the current directory cannot be changed, and the status that stands for it. -/
def directoryFault (dialect : Dialect) (name : String) (error : PathError) : String × Nat :=
  match dialect with
  | .dash => (s!"can't cd to {name}", 2)
  | .bash => (s!"{name}: {error.message}", 1)

def numberFault (dialect : Dialect) (word : String) : String :=
  match dialect with
  | .dash => s!"Illegal number: {word}"
  | .bash => s!"{word}: numeric argument required"

/-- That a parameter has no value. -/
def unsetFault : Dialect → String
  | .dash => "parameter not set"
  | .bash => "unbound variable"

/-- That a parameter has no value, or only an empty one, where one has to be. -/
def emptyFault (dialect : Dialect) (orEmpty : Bool) : String :=
  match dialect, orEmpty with
  | _, false => "parameter not set"
  | .dash, true => "parameter not set or null"
  | .bash, true => "parameter null or not set"

def frozenFault : Dialect → String
  | .dash => "is read only"
  | .bash => "readonly variable"

end Dialect

end TaskScript.Shell
