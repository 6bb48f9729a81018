/-
A script while it is being configured.  A block is a program that declares variables
and tasks, requires variables and sets the two markers; what it declared before it
failed stays declared.
-/
import TaskScript.Task.TaskList

namespace TaskScript

instance : Named Variable where
  name := Variable.name

structure Draft where
  env : Environment
  names : NameSupply
  declared : Registry Variable := {}
  tasks : TaskList
  /-- Runs right after the imports; whatever it does not depend on comes after it. -/
  pregenerationLast : Option TaskId := none
  /-- Runs after every other task. -/
  last : Option TaskId := none
  /-- Variables that some task has to assign. -/
  required : Shelf Variable := {}

/-- A program that configures a draft and may fail on the way. -/
abbrev Block (α : Type) := ExceptT Failure (StateM Draft) α

namespace Block

def drawName : Block String := do
  let draft ← get
  let (name, names) := draft.names.draw
  set { draft with names }
  return name

/-- Other drafts take this many names from the supply. -/
def drawElsewhere (count : Nat) : Block Unit :=
  modify fun draft => { draft with names := (draft.names.drawMany count).2 }

/-- Declares a variable; its name must be free. -/
def declare (name : String) : Block Variable := do
  let draft ← get
  let slot := draft.env.variableNamed name
  let (stored, declared) := draft.declared.insert slot
  set { draft with declared }
  match stored with
  | .ok _ => return slot
  | .error taken => throw (.nameTaken taken.name)

/-- Declares a variable under the next generated name that is free. -/
def declareUnique : Block Variable := do
  let draft ← get
  let (name, names) := draft.names.drawFree draft.declared.keys
  set { draft with names }
  declare name

/-- Marks a variable that some task has to assign. -/
def require (wanted : Variable) : Block Unit :=
  modify fun draft => { draft with required := (draft.required.push wanted).2 }

/-- Takes over the tasks that a declaration left, and ends as it did. -/
def store (declared : Except Failure TaskId × TaskList) : Block TaskId := do
  let (result, tasks) := declared
  modify fun draft => { draft with tasks }
  match result with
  | .ok id => return id
  | .error failure => throw failure

def create (type : TaskType) (name : String) (setup : Setup) : Block TaskId := do
  store ((← get).tasks.create type name setup)

def createKind (kind : TaskKind) (name : String) (setup : Setup) : Block TaskId := do
  store ((← get).tasks.createKind kind name setup)

/-- Declares a task under the next generated name that is free.  The name is used up
even if this fails. -/
def createUnnamed (type : TaskType) (setup : Setup) : Block TaskId := do
  let draft ← get
  let (name, names) := draft.names.drawFree draft.tasks.registry.keys
  set { draft with names }
  create type name setup

/-- The first task of the type's kind, or a new one if there is none; and whether it
is new. -/
def createOnce (type : TaskType) (setup : Setup) : Block (TaskId × Bool) := do
  match (← get).tasks.firstOfKind? type.declaredKind with
  | some id => return (id, false)
  | none => return (← createUnnamed type setup, true)

/-- Runs a program on a task; false when the identifier names no task of this draft. -/
def change (id : TaskId) (setup : Setup) : Block Bool := do
  let draft ← get
  match draft.tasks.change? id setup with
  | none => return false
  | some (tasks, result) =>
      set { draft with tasks }
      match result with
      | .ok () => return true
      | .error failure => throw failure

def markLast (id : Option TaskId) : Block Unit :=
  modify fun draft => { draft with last := id }

def markPregenerationLast (id : Option TaskId) : Block Unit :=
  modify fun draft => { draft with pregenerationLast := id }

end Block

/-- Where drafts come from: each gets task identifiers of its own, and all draw from one
supply of names. -/
structure Session where
  nextOwner : Nat := 1
  names : NameSupply := {}
  deriving DecidableEq, Repr

namespace Session

/-- A new draft, which holds the names until they are given back. -/
def start (session : Session) (env : Environment) : Draft × Session :=
  ({ env, names := session.names, tasks := { owner := session.nextOwner } },
    { session with nextOwner := session.nextOwner + 1 })

/-- Takes the supply of names back from a draft. -/
def finish (session : Session) (draft : Draft) : Session :=
  { session with names := draft.names }

end Session

end TaskScript
