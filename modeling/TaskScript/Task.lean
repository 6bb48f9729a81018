/-
Tasks: a name that keeps them apart, a body that says what they do, and the tasks
they have to run after.  Only these dependencies order tasks; sharing a variable does
not.
-/
import TaskScript.Failure
import TaskScript.Task.Assignment

namespace TaskScript

/-- A task by the list that issued it and its position there.  Identifiers of different
lists never name the same task. -/
structure TaskId where
  owner : Nat
  index : Nat
  deriving DecidableEq, Repr

instance : Ord TaskId where
  compare a b := (compare a.owner b.owner).then (compare a.index b.index)

instance : Std.TransOrd TaskId :=
  inferInstanceAs <| Std.TransCmp <| compareLex (compareOn TaskId.owner) (compareOn TaskId.index)

instance : Std.LawfulEqOrd TaskId where
  compare_self := Ordering.then_eq_eq.2 ⟨Std.ReflOrd.compare_self, Std.ReflOrd.compare_self⟩
  eq_of_compare {a b} h := by
    obtain ⟨howner, hindex⟩ := Ordering.then_eq_eq.1 h
    obtain ⟨owner, index⟩ := a
    obtain rfl := Std.LawfulEqOrd.eq_of_compare howner
    obtain rfl := Std.LawfulEqOrd.eq_of_compare hindex
    rfl

def TaskId.text (id : TaskId) : String := s!"#{id.index}"

structure Task where
  body : Body
  dependencies : AscendingSet TaskId := ∅
  name : String

instance : Named Task where
  name := Task.name

/-- A program that changes one task, its name included, and may fail on the way. -/
abbrev Setup := ExceptT Failure (StateM Task) Unit

namespace Setup

def assign (assignment : Assignment) : Setup := do
  let task ← get
  let (body, result) := task.body.assign assignment
  set { task with body }
  match result with
  | .ok () => pure ()
  | .error error => throw (Failure.reassigned error)

def dependOn (ids : List TaskId) : Setup :=
  modify fun task => { task with dependencies := task.dependencies.extend ids }

/-- The task after the program, whether it failed or not, and how it ended. -/
def on (setup : Setup) (task : Task) : Task × Except Failure Unit :=
  let (result, task) := setup.run.run task
  (task, result)

/-- The task after the program, unless it failed. -/
def apply (setup : Setup) (task : Task) : Except Failure Task :=
  match setup.on task with
  | (task, .ok ()) => .ok task
  | (_, .error failure) => .error failure

end Setup

namespace Task

def kind (task : Task) : TaskKind := task.body.kind

def isConfigured (env : Environment) (task : Task) : Reading Bool :=
  task.body.isConfigured env

/-- Adds dependencies and tells for each whether it is new. -/
def insertDependencies (task : Task) (ids : List TaskId) : Task × List Bool :=
  ids.foldl (fun (task, flags) id =>
    ({ task with dependencies := task.dependencies.insert id },
      flags ++ [!task.dependencies.contains id])) (task, [])

/-- Removes dependencies and tells for each whether it was there. -/
def eraseDependencies (task : Task) (ids : List TaskId) : Task × List Bool :=
  ids.foldl (fun (task, flags) id =>
    ({ task with dependencies := task.dependencies.erase id },
      flags ++ [task.dependencies.contains id])) (task, [])

/-- A description over several lines; what lacks a field is shown as such. -/
def summary (task : Task) : String :=
  s!"Task(\n    name={task.name},\n    kind={task.kind.name},\n" ++
    s!"    inputs=[{shown task.body.inputs}],\n    outputs=[{shown task.body.outputs}],\n" ++
    s!"    dependencies=[{dependencies}]\n)"
where
  shown : Reading VariableSet → String
    | .ok set => Variable.listed set.items
    | .error _ => "<uninitialized>"
  dependencies : String := ", ".intercalate (task.dependencies.items.map TaskId.text)

end Task

end TaskScript
