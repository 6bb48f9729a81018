/-
The graph of a list of tasks: an edge from each dependency to the task that has it.
Two markers add edges: from the last task before the generation to all it does not
depend on, and from all other tasks to the last one.
-/
import TaskScript.Graph.Cycle
import TaskScript.Graph.Order
import TaskScript.Graph.Reach
import TaskScript.Task.TaskList

namespace TaskScript.TaskList

/-- Positions of the tasks in the order they were declared. -/
def positions (tasks : TaskList) : List (Fin tasks.size) := List.finRange tasks.size

/-- The dependencies of a task that are tasks of the list. -/
def localDependencies (tasks : TaskList) (position : Fin tasks.size) : List (Fin tasks.size) :=
  (tasks.task position).dependencies.items.filterMap tasks.position?

def dependencyEdges (tasks : TaskList) : List (Fin tasks.size × Fin tasks.size) :=
  tasks.positions.flatMap fun position =>
    (tasks.localDependencies position).map fun dependency => (dependency, position)

/-- The graph without markers. -/
def dependencyGraph (tasks : TaskList) : Graph tasks.size :=
  Graph.linkAll {} tasks.dependencyEdges

/-- Edges from `start` to every task it does not depend on. -/
def pregenerationEdges (tasks : TaskList) (start : Fin tasks.size) :
    List (Fin tasks.size × Fin tasks.size) :=
  let ancestors := tasks.dependencyGraph.ancestors start
  (tasks.positions.filter (· ∉ ancestors)).map fun position => (start, position)

/-- Edges from every other task to `stop`. -/
def lastEdges (tasks : TaskList) (stop : Fin tasks.size) :
    List (Fin tasks.size × Fin tasks.size) :=
  (tasks.positions.filter (· ≠ stop)).map fun position => (position, stop)

def markerEdges (tasks : TaskList) (pregeneration last : Option (Fin tasks.size)) :
    List (Fin tasks.size × Fin tasks.size) :=
  pregeneration.toList.flatMap tasks.pregenerationEdges ++ last.toList.flatMap tasks.lastEdges

def graph (tasks : TaskList) (pregeneration last : Option (Fin tasks.size)) :
    Graph tasks.size :=
  tasks.dependencyGraph.linkAll (tasks.markerEdges pregeneration last)

end TaskScript.TaskList
