/-
What can be wrong with a configured script, and how a report lists it.
-/
import TaskScript.Failure
import TaskScript.NonEmpty
import TaskScript.Task

namespace TaskScript

inductive Marker where
  | last
  | pregenerationLast
  deriving DecidableEq, Repr

def Marker.text : Marker → String
  | .last => "last task"
  | .pregenerationLast => "pregeneration last task"

inductive Problem where
  | unreadableImport (error : Import.ParseError)
  | nameTaken (error : NameTaken)
  | unassigned (task : String) (error : Unassigned)
  | invalidTask (kind : TaskKind) (name : String)
  | invalidVariable (name : String)
  | rejectedImport (statement : Import)
  | cycle (tasks : List String)
  | dependsOnLast (last : String) (dependents : List String)
  | danglingDependency (task : String)
  | unknownMarker (marker : Marker) (id : TaskId)
  | missingRequired (name : String)
  | configuration (failure : Failure)
  deriving DecidableEq, Repr

namespace Problem

/-- A failure of the block is a problem of its own kind when the library raised it. -/
def ofFailure (failure : Failure) : Problem :=
  match failure.cause with
  | .nameTaken error => .nameTaken error
  | .unreadableImport error => .unreadableImport error
  | .unassigned error => .unassigned "<configuration>" error
  | .abstractKind _ | .reassigned _ | .other _ => .configuration failure

def message : Problem → String
  | unreadableImport error => error.message
  | nameTaken error => error.message
  | unassigned task error => s!"Task '{task}' is not fully configured: {error.message}"
  | invalidTask kind name => s!"{kind.name} task '{name}' is configured incorrectly."
  | invalidVariable name => s!"Variable '{name}' is configured incorrectly."
  | rejectedImport statement => s!"Import '{statement.code}' failed validation."
  | cycle tasks => "Dependency cycle detected: " ++ " -> ".intercalate tasks
  | dependsOnLast last dependents =>
      s!"Nothing should depend on the last task '{last}'. These tasks depend on it: " ++
        ", ".intercalate dependents
  | danglingDependency task => s!"Task '{task}' depends on a task that is not in this generator."
  | unknownMarker marker id =>
      s!"The {marker.text} marker refers to task {id.text}, which is not in this generator."
  | missingRequired name => s!"Required variable '{name}' is not produced by any task."
  | configuration failure => s!"Configuration failed: {failure.message}"

end Problem

/-- Everything that is wrong with a script, which is something. -/
abbrev Problems := NonEmpty Problem

/-- A headline with the count, then a line for each problem. -/
def Problems.report (problems : Problems) : String :=
  s!"Script generation failed with {problems.length} error(s):\n" ++
    String.join (problems.toList.map fun problem => s!"  - {problem.message}\n")

end TaskScript
