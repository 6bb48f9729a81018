/-
Scripts: the imports, each once and in the order they were first needed, then the
code of the tasks with a blank line between.  Code that is blank takes no place.
-/
import TaskScript.Task
import TaskScript.Text.Escape

namespace TaskScript

/-- The items of a list, each where it stands first. -/
def firstOccurrences {α : Type} [DecidableEq α] (items : List α) : List α :=
  items.foldl (fun seen item => if item ∈ seen then seen else seen ++ [item]) []

/-- The code of one task. -/
structure Section where
  kind : TaskKind
  task : String
  code : String
  deriving DecidableEq, Repr

/-- A comment that names the task. -/
def Section.heading (part : Section) : String :=
  s!"# {part.kind.name} task '{Text.comment part.task}'"

def Section.text (comments : Bool) (part : Section) : String :=
  if comments then part.heading ++ "\n" ++ part.code else part.code

structure Script where
  imports : List Import
  sections : List Section
  deriving DecidableEq, Repr

namespace Script

/-- The script of tasks that run one after another; code that cannot be given yet is
left out. -/
def ofTasks (tasks : List Task) : Script where
  imports := firstOccurrences (tasks.flatMap (·.body.imports.items))
  sections := tasks.filterMap fun task =>
    match task.body.code with
    | .ok code =>
        if Text.allBlank code then none else some { kind := task.kind, task := task.name, code }
    | .error _ => none

def text (comments : Bool) (script : Script) : String :=
  let imports := "\n".intercalate (script.imports.map Import.code)
  let sections :=
    if script.sections.isEmpty then ""
    else "\n\n" ++ "\n\n".intercalate (script.sections.map (·.text comments))
  Text.trim (imports ++ sections)

end Script

end TaskScript
