/-
Declaring a task.  However its kind is given, the program that configures the task runs once on
the blank task when the kind is not abstract and the name is free, and not at all when it is
abstract or the name is taken, whatever else the program does.
-/
import TaskScript.Proofs.Registry.History

namespace TaskScript

theorem TaskKind.exists_blank?_eq_some {kind : TaskKind} (hconcrete : kind.isAbstract = false) :
    ∃ body, kind.blank? = some body := by
  rw [← Option.ne_none_iff_exists', ne_eq, TaskKind.blank?_eq_none_iff, hconcrete]
  exact Bool.false_ne_true

namespace TaskList

/-- The list with one more task at the end. -/
def store (tasks : TaskList) (task : Task) : TaskList :=
  { tasks with registry := tasks.registry.store task }

@[simp] theorem name_named (task : Task) : Named.name task = task.name := rfl

section Configure

variable {m : Type → Type} [Monad m]

/-- Configures a blank task and stores it, unless that fails or gives it a name that is taken. -/
def configureM (tasks : TaskList) (blank : Task) (configure : Task → m (Except Failure Task)) :
    m (Except Failure TaskId × TaskList) := do
  match ← configure blank with
  | .error failure => return (.error (failure.whileConfiguring blank.name), tasks)
  | .ok task =>
      return if task.name ∈ tasks.registry.keys then (.error (.nameTaken task.name), tasks)
        else (.ok (tasks.id tasks.size), tasks.store task)

variable (tasks : TaskList) (name : String) (configure : Task → m (Except Failure Task))

theorem createM_eq [LawfulMonad m] (type : TaskType) :
    tasks.createM type name configure =
      match type.blank? with
      | none => pure (.error (.abstractKind type.declaredKind), tasks)
      | some body =>
          if name ∈ tasks.registry.keys then pure (.error (.nameTaken name), tasks)
          else tasks.configureM { body, name } configure := by
  unfold createM
  cases type.blank? with
  | none => rfl
  | some body =>
      simp only [Registry.createM_eq]
      by_cases htaken : name ∈ tasks.registry.keys
      · simp only [if_pos htaken, pure_bind]
      · simp only [if_neg htaken, bind_assoc, configureM]
        apply bind_congr
        intro configured
        cases configured with
        | error failure => simp only [pure_bind]
        | ok task =>
            simp only [name_named, pure_bind]
            by_cases hrenamed : task.name ∈ tasks.registry.keys
            · simp only [if_pos hrenamed]
            · simp only [if_neg hrenamed]
              rfl

theorem createKindM_eq (kind : TaskKind) :
    tasks.createKindM kind name configure =
      match kind.blank? with
      | none => pure (.error (.abstractKind kind), tasks)
      | some body =>
          if name ∈ tasks.registry.keys then pure (.error (.nameTaken name), tasks)
          else tasks.configureM { body, name } configure := by
  unfold createKindM
  cases hblank : kind.blank? with
  | none => rw [if_pos (TaskKind.blank?_eq_none_iff.mp hblank)]
  | some body =>
      have hconcrete : ¬ kind.isAbstract = true := by
        simp [← TaskKind.blank?_eq_none_iff, hblank]
      simp only [if_neg hconcrete, Registry.ensureFree_eq]
      by_cases htaken : name ∈ tasks.registry.keys
      · simp only [if_pos htaken]
      · simp only [if_neg htaken, configureM]
        apply bind_congr
        intro configured
        cases configured with
        | error failure => rfl
        | ok task =>
            simp only [Registry.insert_eq, name_named]
            by_cases hrenamed : task.name ∈ tasks.registry.keys
            · simp only [if_pos hrenamed]
            · simp only [if_neg hrenamed]
              rfl

/-- A kind that is known only when the block runs makes no difference to what comes of it. -/
theorem createKindM_eq_createM [LawfulMonad m] (kind : TaskKind) :
    tasks.createKindM kind name configure = tasks.createM (.builtIn kind) name configure := by
  rw [createKindM_eq, createM_eq]
  rfl

end Configure

section Setup

variable (tasks : TaskList) (name : String) (setup : Setup)

/-- Configures a blank task by a program that does nothing else. -/
def configure (blank : Task) : Except Failure TaskId × TaskList :=
  match setup.apply blank with
  | .error failure => (.error (failure.whileConfiguring blank.name), tasks)
  | .ok task =>
      if task.name ∈ tasks.registry.keys then (.error (.nameTaken task.name), tasks)
      else (.ok (tasks.id tasks.size), tasks.store task)

theorem create_eq (type : TaskType) :
    tasks.create type name setup =
      match type.blank? with
      | none => (.error (.abstractKind type.declaredKind), tasks)
      | some body =>
          if name ∈ tasks.registry.keys then (.error (.nameTaken name), tasks)
          else tasks.configure setup { body, name } := by
  rw [create, createM_eq]
  cases type.blank? with
  | none => rfl
  | some body =>
      dsimp only
      by_cases htaken : name ∈ tasks.registry.keys
      · rw [if_pos htaken, if_pos htaken]
        rfl
      · rw [if_neg htaken, if_neg htaken, configureM, configure, pure_bind]
        cases setup.apply { body, name } <;> rfl

theorem createKind_eq_create (kind : TaskKind) :
    tasks.createKind kind name setup = tasks.create (.builtIn kind) name setup := by
  rw [createKind, createKindM_eq_createM, create]

end Setup

theorem create_eq_ok {tasks : TaskList} {type : TaskType} {name : String} {setup : Setup}
    {body : Body} {task : Task} (hblank : type.blank? = some body)
    (hfree : name ∉ tasks.registry.keys) (htask : setup.apply { body, name } = .ok task)
    (hfresh : task.name ∉ tasks.registry.keys) :
    tasks.create type name setup = (.ok (tasks.id tasks.size), tasks.store task) := by
  rw [create_eq, hblank]
  dsimp only
  rw [if_neg hfree, configure, htask]
  exact if_neg hfresh

/-- All that a declaration can do: store the task that it made, or leave the list as it is.  A name
that is free is not refused; a configuration that renames the task is refused by the name that it
gives. -/
inductive Declares (tasks : TaskList) (type : TaskType) (name : String) (setup : Setup) : Prop where
  | stores {body : Body} {task : Task} (hblank : type.blank? = some body)
      (htask : setup.apply { body, name } = .ok task)
      (hfree : name ∉ tasks.registry.keys) (hfresh : task.name ∉ tasks.registry.keys)
      (hcreate : tasks.create type name setup = (.ok (tasks.id tasks.size), tasks.store task))
  | fails {failure : Failure} (hcreate : tasks.create type name setup = (.error failure, tasks))
      (haccepted : name ∉ tasks.registry.keys → failure ≠ .nameTaken name)

theorem declares (tasks : TaskList) (type : TaskType) (name : String) (setup : Setup) :
    tasks.Declares type name setup := by
  have hcreate := tasks.create_eq name setup type
  cases hblank : type.blank? with
  | none =>
      rw [hblank] at hcreate
      exact .fails hcreate fun _ => nofun
  | some body =>
      simp only [hblank] at hcreate
      by_cases htaken : name ∈ tasks.registry.keys
      · rw [if_pos htaken] at hcreate
        exact .fails hcreate (absurd htaken)
      · rw [if_neg htaken, configure] at hcreate
        cases htask : setup.apply { body, name } with
        | error failure =>
            simp only [htask] at hcreate
            refine .fails hcreate fun _ => ?_
            simp [Failure.whileConfiguring, Failure.within, Failure.nameTaken]
        | ok task =>
            simp only [htask] at hcreate
            by_cases hrenamed : task.name ∈ tasks.registry.keys
            · rw [if_pos hrenamed] at hcreate
              refine .fails hcreate fun hfree heq => hfree ?_
              obtain rfl : task.name = name := by simpa [Failure.nameTaken] using heq
              exact hrenamed
            · rw [if_neg hrenamed] at hcreate
              exact .stores hblank htask htaken hrenamed hcreate

end TaskList

end TaskScript
