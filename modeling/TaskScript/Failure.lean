/-
Why a configuration block stopped: a cause, and the contexts it was passed through,
the outermost first.
-/
import TaskScript.Import
import TaskScript.Once
import TaskScript.Registry
import TaskScript.Task.Kind

namespace TaskScript

namespace NameTaken

def message (error : NameTaken) : String :=
  s!"Cannot add domain object with name '{error.name}' because that name is already present."

end NameTaken

namespace Failure

inductive Cause where
  | nameTaken (error : NameTaken)
  | abstractKind (kind : TaskKind)
  | unreadableImport (error : Import.ParseError)
  | unassigned (error : Unassigned)
  | reassigned (error : Reassigned)
  | other (message : String)
  deriving DecidableEq, Repr

def Cause.message : Cause → String
  | nameTaken error => error.message
  | abstractKind kind => s!"This container cannot instantiate the abstract kind '{kind.name}'."
  | unreadableImport error => error.message
  | unassigned error => error.message
  | reassigned error => error.message
  | other message => message

end Failure

structure Failure where
  cause : Failure.Cause
  contexts : List String := []
  deriving DecidableEq, Repr

namespace Failure

/-- Adds an outermost context. -/
def within (failure : Failure) (context : String) : Failure :=
  { failure with contexts := context :: failure.contexts }

/-- The contexts and the cause, the outermost first. -/
def message (failure : Failure) : String :=
  ": ".intercalate (failure.contexts ++ [failure.cause.message])

def nameTaken (name : String) : Failure := { cause := .nameTaken ⟨name⟩ }

def abstractKind (kind : TaskKind) : Failure := { cause := .abstractKind kind }

def reassigned (error : Reassigned) : Failure := { cause := .reassigned error }

/-- The context of everything that goes wrong while `name` is configured. -/
def whileConfiguring (name : String) (failure : Failure) : Failure :=
  failure.within s!"failed to configure '{name}'"

end Failure

end TaskScript
