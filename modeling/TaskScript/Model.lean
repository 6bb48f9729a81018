/-
Records that are read from files, and descriptions of stored models.  A relative path
in a description is seen from the directory of the description.
-/
import TaskScript.Files.Workspace
import TaskScript.Records

namespace TaskScript

/-- Why a record could not be loaded; `what` says what it was to be. -/
inductive LoadError where
  | unreadable (what path : String)
  | malformed (what path : String)
  deriving DecidableEq, Repr

def LoadError.message : LoadError → String
  | .unreadable what path => s!"failed to read {what} {path}"
  | .malformed what path => s!"failed to parse {what} {path}"

def readRecord {α : Type} (workspace : Workspace) (what : String) (read : Json → Option α)
    (path : String) : Except LoadError α :=
  match workspace.read? path with
  | none => .error (.unreadable what path)
  | some text =>
      match (Json.parse? text).bind read with
      | none => .error (.malformed what path)
      | some value => .ok value

/-- Where the descriptions of models come from. -/
abbrev ModelLoader := String → Except LoadError ModelDescription

namespace ModelDescription

/-- The description as seen from where `path` is seen from. -/
def relocate (path : String) (model : ModelDescription) : ModelDescription :=
  if Path.isAbsolute model.path then model
  else
    match Path.parent? path with
    | some parent => { model with path := Path.join parent model.path }
    | none => model

def load (workspace : Workspace) : ModelLoader := fun path =>
  (readRecord workspace "model description" ofJson? path).map (relocate path)

end ModelDescription

end TaskScript
