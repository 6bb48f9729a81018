/-
The tasks of one script in the order they were declared.  An identifier resolves in
the list that issued it, to the task it was issued for, and nowhere else.
-/
import TaskScript.Task
import TaskScript.NameSupply

namespace TaskScript

structure TaskList where
  owner : Nat
  registry : Registry Task := {}

namespace TaskList

def size (tasks : TaskList) : Nat := tasks.registry.size

def id (tasks : TaskList) (index : Nat) : TaskId := ⟨tasks.owner, index⟩

def items (tasks : TaskList) : List Task := tasks.registry.items

/-- The position of a task of this list. -/
def position? (tasks : TaskList) (id : TaskId) : Option (Fin tasks.size) :=
  if h : id.owner = tasks.owner ∧ id.index < tasks.size then some ⟨id.index, h.2⟩ else none

def owns (tasks : TaskList) (id : TaskId) : Bool := (tasks.position? id).isSome

/-- The task at a position. -/
def task (tasks : TaskList) (position : Fin tasks.size) : Task :=
  tasks.registry.items.get position

def get? (tasks : TaskList) (id : TaskId) : Option Task :=
  (tasks.position? id).map tasks.task

def find? (tasks : TaskList) (name : String) : Option TaskId :=
  (tasks.registry.position? name).map tasks.id

/-- The first task of this kind. -/
def firstOfKind? (tasks : TaskList) (kind : TaskKind) : Option TaskId :=
  (tasks.items.findIdx? (·.kind == kind)).map tasks.id

def modify (tasks : TaskList) (id : TaskId) (change : Task → Task) : TaskList :=
  if tasks.owns id then { tasks with registry := tasks.registry.modify id.index change } else tasks

/-- Runs a program on the task of an identifier.  What it did before it failed stays. -/
def change? (tasks : TaskList) (id : TaskId) (setup : Setup) :
    Option (TaskList × Except Failure Unit) :=
  (tasks.get? id).map fun task =>
    let (task, result) := setup.on task
    (tasks.modify id fun _ => task, result)

section Declare

variable {m : Type → Type} [Monad m]

/-- Declares a task of a type, and the list that this leaves.  Nothing is stored when the
type is abstract, when the name is taken or when configuring the task fails. -/
def createM (tasks : TaskList) (type : TaskType) (name : String)
    (configure : Task → m (Except Failure Task)) : m (Except Failure TaskId × TaskList) :=
  match type.blank? with
  | none => return (.error (.abstractKind type.declaredKind), tasks)
  | some body => do
      let (created, registry) ←
        tasks.registry.createM name (fun name => { body, name }) configure
      let tasks := { tasks with registry }
      match created with
      | .ok position => return (.ok (tasks.id position), tasks)
      | .error (.taken name) | .error (.renamed name) => return (.error (.nameTaken name), tasks)
      | .error (.configuring name failure) =>
          return (.error (failure.whileConfiguring name), tasks)

/-- Declares a task of a kind that is known only when the block runs. -/
def createKindM (tasks : TaskList) (kind : TaskKind) (name : String)
    (configure : Task → m (Except Failure Task)) : m (Except Failure TaskId × TaskList) :=
  if kind.isAbstract then return (.error (.abstractKind kind), tasks)
  else
    match tasks.registry.ensureFree name with
    | .error taken => return (.error (.nameTaken taken.name), tasks)
    | .ok () =>
        match kind.blank? with
        | none => return (.error (.abstractKind kind), tasks)
        | some body => do
            match ← configure { body, name } with
            | .error failure => return (.error (failure.whileConfiguring name), tasks)
            | .ok task =>
                let (stored, registry) := tasks.registry.insert task
                let tasks := { tasks with registry }
                match stored with
                | .error taken => return (.error (.nameTaken taken.name), tasks)
                | .ok position => return (.ok (tasks.id position), tasks)

end Declare

def create (tasks : TaskList) (type : TaskType) (name : String) (setup : Setup) :
    Except Failure TaskId × TaskList :=
  Id.run (tasks.createM type name fun task => pure (setup.apply task))

def createKind (tasks : TaskList) (kind : TaskKind) (name : String) (setup : Setup) :
    Except Failure TaskId × TaskList :=
  Id.run (tasks.createKindM kind name fun task => pure (setup.apply task))

/-- The tasks in this order, each under its name. -/
def ofItems (owner : Nat) (items : List Task) : TaskList := { owner, registry := .ofItems items }

@[simp] theorem items_ofItems (owner : Nat) (items : List Task) :
    (ofItems owner items).items = items := rfl

@[simp] theorem size_ofItems (owner : Nat) (items : List Task) :
    (ofItems owner items).size = items.length := rfl

end TaskList

end TaskScript
