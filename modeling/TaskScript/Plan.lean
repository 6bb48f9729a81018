/-
A configured draft, checked and put in order.  Every check is made, whatever the others
find, and all that is wrong is reported together; only a draft without a problem is
ordered, and then its code is asked for.
-/
import TaskScript.Draft
import TaskScript.Problem
import TaskScript.Script
import TaskScript.Task.TaskGraph

namespace TaskScript

/-- A draft after its block, and how the block failed if it did. -/
structure Plan extends Draft where
  failure? : Option Failure := none

/-- Runs a block on a draft. -/
def Draft.configure (draft : Draft) (block : Block Unit) : Plan :=
  match block.run.run draft with
  | (.ok (), draft) => { draft with }
  | (.error failure, draft) => { draft with failure? := some failure }

namespace Plan

def configurationProblems (plan : Plan) : List Problem :=
  plan.failure?.toList.map .ofFailure

/-- The names of the other tasks that depend on a task. -/
def dependents (plan : Plan) (position : Fin plan.tasks.size) : List String :=
  (plan.tasks.positions.filter fun other =>
    other ≠ position ∧
      (plan.tasks.task other).dependencies.contains (plan.tasks.id position)).map fun other =>
        (plan.tasks.task other).name

/-- The last task, unless another task depends on it. -/
def last? (plan : Plan) : Option (Fin plan.tasks.size) := do
  let position ← plan.last.bind plan.tasks.position?
  if (plan.dependents position).isEmpty then some position else none

def pregenerationLast? (plan : Plan) : Option (Fin plan.tasks.size) :=
  plan.pregenerationLast.bind plan.tasks.position?

def lastProblems (plan : Plan) : List Problem :=
  match plan.last with
  | none => []
  | some id =>
      match plan.tasks.position? id with
      | none => [.unknownMarker .last id]
      | some position =>
          let dependents := plan.dependents position
          if dependents.isEmpty then []
          else [.dependsOnLast (plan.tasks.task position).name dependents]

def pregenerationProblems (plan : Plan) : List Problem :=
  match plan.pregenerationLast with
  | none => []
  | some id =>
      match plan.tasks.position? id with
      | none => [.unknownMarker .pregenerationLast id]
      | some _ => []

/-- The names of the variables that some task assigns.  A task that lacks a field for
the answer counts as assigning nothing. -/
def assignedNames (plan : Plan) : List String :=
  plan.tasks.items.flatMap fun task =>
    match task.body.outputs with
    | .ok set => set.names
    | .error _ => []

def requiredProblems (plan : Plan) : List Problem :=
  (plan.required.items.filter fun wanted => wanted.name ∉ plan.assignedNames).map
    fun wanted => .missingRequired wanted.name

def variableProblems (plan : Plan) : List Problem :=
  (plan.declared.items.filter fun slot => !slot.isValid).map
    fun slot => .invalidVariable slot.name

def taskProblem? (plan : Plan) (task : Task) : Option Problem :=
  match task.isConfigured plan.env with
  | .ok true => none
  | .ok false => some (.invalidTask task.kind task.name)
  | .error error => some (.unassigned task.name error)

def taskProblems (plan : Plan) : List Problem :=
  plan.tasks.items.filterMap plan.taskProblem?

/-- The imports of all tasks. -/
def imports (plan : Plan) : ImportSet :=
  .ofList (plan.tasks.items.flatMap (·.body.imports.items))

def rejectedImports (plan : Plan) : List Import :=
  match plan.env.validateImports plan.imports with
  | .ok _ => []
  | .error rejected => rejected.toList

def importProblems (plan : Plan) : List Problem :=
  plan.rejectedImports.map .rejectedImport

/-- One problem for each task and each of its dependencies that is a task of another
list. -/
def danglingProblems (plan : Plan) : List Problem :=
  plan.tasks.items.flatMap fun task =>
    (task.dependencies.items.filter fun id => !plan.tasks.owns id).map
      fun _ => .danglingDependency task.name

def graph (plan : Plan) : Graph plan.tasks.size :=
  plan.tasks.graph plan.pregenerationLast? plan.last?

def cycleProblems (plan : Plan) : List Problem :=
  plan.graph.findCycle?.toList.map fun cycle =>
    .cycle (cycle.map fun position => (plan.tasks.task position).name)

/-- Everything that is wrong before any code is asked for. -/
def problems (plan : Plan) : List Problem :=
  plan.configurationProblems ++ plan.lastProblems ++ plan.pregenerationProblems ++
    plan.requiredProblems ++ plan.variableProblems ++ plan.taskProblems ++
    plan.importProblems ++ plan.danglingProblems ++ plan.cycleProblems

/-- The tasks in the order they run. -/
def orderedTasks (plan : Plan) : List Task :=
  plan.graph.order.map plan.tasks.task

/-- The fields that the code of the tasks lacks. -/
def codeProblems (tasks : List Task) : List Problem :=
  tasks.filterMap fun task =>
    match task.body.code with
    | .ok _ => none
    | .error error => some (.unassigned task.name error)

def script (plan : Plan) : Except Problems Script :=
  match NonEmpty.ofList? plan.problems with
  | some problems => .error problems
  | none =>
      match NonEmpty.ofList? (codeProblems plan.orderedTasks) with
      | some problems => .error problems
      | none => .ok (.ofTasks plan.orderedTasks)

/-- The text of the script, with a comment before each task if asked for. -/
def text (comments : Bool) (plan : Plan) : Except Problems String :=
  plan.script.map (·.text comments)

end Plan

end TaskScript
