/-
What the block of a retraining job makes of a new draft: its variables, its tasks in their order
and the marker of the last one, for every job and model.
-/
import TaskScript.Proofs.Draft.Steps
import TaskScript.Proofs.Job.Tasks

namespace TaskScript.RetrainJob

open Job

section Drafted

variable (env : Environment) (owner : Nat) (job : RetrainJob) (model : ModelDescription)
  (saveTo : String) (checkpoint : Option String)

/-- The names of the variables; the last one is there if checkpoints are written. -/
def names : List String :=
  ["base_model", "new_model", "x_train", "y_train", "x_test", "y_test"] ++
    (checkpoint.map fun _ => "checkpoint").toList

def loading : Task := loadModelTask model.path (env.variableNamed "base_model")

def layering : Task :=
  applyLayersTask model.layers job.layers (env.variableNamed "base_model")
    (env.variableNamed "new_model") ⟨owner, 0⟩

def gathering : Task :=
  loadDatasetTask job.dataset (env.variableNamed "x_train") (env.variableNamed "y_train")
    (env.variableNamed "x_test") (env.variableNamed "y_test")

/-- The tasks that make the model and load the dataset. -/
def opening : List Task :=
  [loading env model, layering env owner job model,
    compileTask job.training (env.variableNamed "new_model") ⟨owner, 1⟩, gathering env job]

def watching : List Task :=
  (checkpoint.map fun path => checkpointTask path (env.variableNamed "checkpoint")).toList

def fitting : Task :=
  trainTask job.training (env.variableNamed "new_model") (env.variableNamed "x_train")
    (env.variableNamed "y_train") (env.variableNamed "x_test") (env.variableNamed "y_test")
    (checkpoint.map fun _ => env.variableNamed "checkpoint").toList
    ([⟨owner, 2⟩, ⟨owner, 3⟩] ++ (checkpoint.map fun _ => ⟨owner, 4⟩).toList)

def saving : Task :=
  saveModelTask saveTo (env.variableNamed "new_model") ⟨owner, 4 + checkpoint.toList.length⟩

def tasks : List Task :=
  opening env owner job model ++ watching env checkpoint ++
    [fitting env owner job checkpoint, saving env owner saveTo checkpoint]

/-- The draft after the block, which draws no names. -/
def drafted (supply : NameSupply) : Draft where
  env
  names := supply
  declared := .ofItems ((names checkpoint).map env.variableNamed)
  tasks := .ofItems owner (tasks env owner job model saveTo checkpoint)
  last := some ⟨owner, 5 + checkpoint.toList.length⟩

theorem runs_block (supply : NameSupply) :
    (block job model saveTo checkpoint).Runs { env, names := supply, tasks := { owner } } ()
      (drafted env owner job model saveTo checkpoint supply) := by
  unfold block
  refine .bind (Block.runs_declare (by simp)) ?_
  refine .bind (Block.runs_declare (by simp)) ?_
  refine .bind (Block.runs_declare (by simp)) ?_
  refine .bind (Block.runs_declare (by simp)) ?_
  refine .bind (Block.runs_declare (by simp)) ?_
  refine .bind (Block.runs_declare (by simp)) ?_
  refine .bind (Block.runs_create rfl rfl rfl (by simp)) ?_
  refine .bind (Block.runs_create rfl rfl rfl (by simp)) ?_
  refine .bind (Block.runs_create rfl rfl rfl (by simp)) ?_
  refine .bind (Block.runs_create rfl rfl rfl (by simp)) ?_
  -- Training and saving are run from two drafts, by the same steps.
  rcases checkpoint with _ | path
  case' none => refine .bind (Block.runs_pure _ _) ?_
  case' some =>
    refine .bind (.bind (Block.runs_declare (by simp))
      (.bind (Block.runs_create rfl rfl rfl (by simp)) (Block.runs_pure _ _))) ?_
  all_goals
    refine .bind (Block.runs_create rfl rfl rfl (by simp)) ?_
    refine .bind (Block.runs_create rfl rfl rfl (by simp)) ?_
    exact Block.runs_markLast _ _

end Drafted

section Flow

variable {env : Environment} {owner : Nat} {job : RetrainJob} {model : ModelDescription}
  {saveTo : String} {checkpoint : Option String}

theorem nodup_gathering :
    ([env.variableNamed "x_train", env.variableNamed "y_train", env.variableNamed "x_test",
      env.variableNamed "y_test"].map Variable.name).Nodup := by
  simp [Environment.variableNamed]

theorem settled_gathering :
    (gathering env job).Settled []
      (["x_train", "y_train", "x_test", "y_test"].map env.variableNamed) :=
  settled_loadDatasetTask _ nodup_gathering

theorem assigned_base_model {before : List Task} (hmem : loading env model ∈ before) :
    Assigned before (env.variableNamed "base_model") :=
  (settled_loadModelTask _ _).assigned hmem (List.mem_singleton_self _)

theorem assigned_new_model {before : List Task} (hmem : layering env owner job model ∈ before) :
    Assigned before (env.variableNamed "new_model") :=
  (settled_applyLayersTask _ _ _ _ _).assigned hmem (List.mem_singleton_self _)

theorem layering_mem_opening : layering env owner job model ∈ opening env owner job model := by
  simp [opening]

theorem assigned_callback {before : List Task}
    (hmem : ∀ task ∈ watching env checkpoint, task ∈ before) :
    ∀ slot ∈ (checkpoint.map fun _ => env.variableNamed "checkpoint").toList,
      Assigned before slot := by
  intro slot hslot
  rcases checkpoint with _ | path
  · cases hslot
  · exact (settled_checkpointTask path _).assigned (hmem _ (List.mem_singleton_self _)) hslot

theorem fed_opening : Fed owner [] (opening env owner job model) := by
  refine ⟨(settled_loadModelTask _ _).follows [] rfl nofun nofun,
    (settled_applyLayersTask _ _ _ _ _).follows _ rfl (by simp) ?_,
    (settled_compileTask _ _ _).follows _ rfl (by simp) ?_,
    settled_gathering.follows [] rfl nofun nofun, trivial⟩
  · exact List.forall_mem_singleton.mpr (assigned_base_model (List.mem_singleton_self _))
  · exact List.forall_mem_singleton.mpr
      (assigned_new_model (List.mem_append_right _ (List.mem_singleton_self _)))

theorem fed_watching :
    Fed owner (opening env owner job model) (watching env checkpoint) := by
  cases checkpoint with
  | none => trivial
  | some path => exact ⟨(settled_checkpointTask _ _).follows [] rfl nofun nofun, trivial⟩

theorem length_watching : (watching env checkpoint).length = checkpoint.toList.length := by
  cases checkpoint <;> rfl

theorem follows_fitting :
    (fitting env owner job checkpoint).Follows owner
      (opening env owner job model ++ watching env checkpoint) := by
  apply (settled_trainTask _ _ _ _ _ _ _ _).follows _ rfl
  · cases checkpoint <;> simp [opening, watching]
  · have hgathering : gathering env job ∈
        opening env owner job model ++ watching env checkpoint := by simp [opening]
    rw [List.forall_mem_append, List.forall_mem_cons]
    refine ⟨⟨assigned_new_model (List.mem_append_left _ layering_mem_opening), ?_⟩, ?_⟩
    · exact fun slot hslot => settled_gathering.assigned hgathering hslot
    · exact assigned_callback fun task => List.mem_append_right _

theorem follows_saving :
    (saving env owner saveTo checkpoint).Follows owner
      (opening env owner job model ++ watching env checkpoint ++
        [fitting env owner job checkpoint]) := by
  apply (settled_saveModelTask _ _ _).follows _ rfl
  · simp [opening, length_watching]
    omega
  · exact List.forall_mem_singleton.mpr (assigned_new_model
      (List.mem_append_left _ (List.mem_append_left _ layering_mem_opening)))

theorem fed_tasks : Fed owner [] (tasks env owner job model saveTo checkpoint) := by
  rw [tasks, fed_append, fed_append]
  exact ⟨⟨fed_opening, fed_watching⟩, follows_fitting, follows_saving, trivial⟩

/-- The tasks have all their fields and hold variables that the block declared. -/
theorem complete_of_mem_tasks {task : Task}
    (htask : task ∈ tasks env owner job model saveTo checkpoint) :
    task.Complete ((names checkpoint).map env.variableNamed) := by
  simp only [tasks, opening, List.mem_append, List.mem_cons, List.not_mem_nil, or_false] at htask
  rcases htask with (((rfl | rfl | rfl | rfl) | hwatching) | rfl | rfl)
  · exact (settled_loadModelTask _ _).complete (by simp [names])
  · exact (settled_applyLayersTask _ _ _ _ _).complete (by simp [names])
  · exact (settled_compileTask _ _ _).complete (by simp [names])
  · exact settled_gathering.complete (by simp [names])
  · simp only [watching, Option.mem_toList, Option.map_eq_some_iff] at hwatching
    obtain ⟨path, rfl, rfl⟩ := hwatching
    exact (settled_checkpointTask _ _).complete (by simp [names])
  · exact (settled_trainTask _ _ _ _ _ _ _ _).complete (by cases checkpoint <;> simp [names])
  · exact (settled_saveModelTask _ _ _).complete (by simp [names])

theorem length_tasks :
    (tasks env owner job model saveTo checkpoint).length = 6 + checkpoint.toList.length := by
  cases checkpoint <;> rfl

theorem prepared (supply : NameSupply) :
    ({ drafted env owner job model saveTo checkpoint supply with } : Plan).Prepared := by
  apply Plan.prepared_of_items rfl rfl fed_tasks (fun _ => complete_of_mem_tasks)
  · intro id hid
    cases hid
  · intro id hid
    obtain rfl := Option.some.inj hid
    exact ⟨rfl, by rw [length_tasks]; exact Nat.add_right_comm ..⟩
  · intro wanted hwanted
    cases hwanted

end Flow

theorem isIdentifier_names (checkpoint : Option String) :
    ∀ name ∈ names checkpoint, Text.isIdentifier name = true := by
  have hfixed : ∀ name ∈ ["base_model", "new_model", "x_train", "y_train", "x_test", "y_test"],
      Text.isIdentifier name = true := by decide
  rw [names, List.forall_mem_append]
  refine ⟨hfixed, fun name hname => ?_⟩
  rw [Option.mem_toList, Option.map_eq_some_iff] at hname
  obtain ⟨path, _, rfl⟩ := hname
  decide

section Checked

variable (env : Environment) (job : RetrainJob) (model : ModelDescription) (saveTo : String)
  (checkpoint : Option String)

/-- What has to hold of the paths, the layers and the number of epochs. -/
def demands : List Demand :=
  [⟨.loadModel, "load_model", env.acceptsPath model.path⟩,
    ⟨.applyLayerDelta, "apply_layers",
      job.layers.all fun layer =>
        model.layers.any (·.name == layer.name) || layer.constructor?.isSome⟩] ++
    (checkpoint.map fun path =>
      ⟨.checkpointCallback, "checkpoint", env.acceptsPath path⟩).toList ++
    [⟨.train, "train", 0 < job.training.epochs⟩,
      ⟨.saveModel, "save_model", env.acceptsPath saveTo⟩]

theorem checks_tasks (owner : Nat) :
    Checks env (tasks env owner job model saveTo checkpoint)
      (demands env job model saveTo checkpoint) := by
  have hopening : Checks env (opening env owner job model)
      [⟨.loadModel, "load_model", env.acceptsPath model.path⟩,
        ⟨.applyLayerDelta, "apply_layers",
          job.layers.all fun layer =>
            model.layers.any (·.name == layer.name) || layer.constructor?.isSome⟩] :=
    .asks rfl (.asks (check_applyLayersTask ..)
      (.passes rfl (.passes (check_loadDatasetTask _ _ nodup_gathering) .nil)))
  have hwatching : Checks env (watching env checkpoint)
      (checkpoint.map fun path =>
        ⟨.checkpointCallback, "checkpoint", env.acceptsPath path⟩).toList := by
    cases checkpoint with
    | none => exact .nil
    | some path => exact .asks rfl .nil
  have hclosing : Checks env [fitting env owner job checkpoint, saving env owner saveTo checkpoint]
      [⟨.train, "train", 0 < job.training.epochs⟩,
        ⟨.saveModel, "save_model", env.acceptsPath saveTo⟩] :=
    .asks (check_trainTask ..) (.asks rfl .nil)
  exact (hopening.append hwatching).append hclosing

end Checked

theorem outlined (env : Environment) (owner : Nat) (job : RetrainJob) (model : ModelDescription)
    (saveTo : String) (checkpoint : Option String) (supply : NameSupply) :
    ({ drafted env owner job model saveTo checkpoint supply with } : Plan).Outlined env
      (demands env job model saveTo checkpoint) :=
  Plan.outlined_of_items (prepared supply) rfl rfl (isIdentifier_names _) (checks_tasks ..)

end TaskScript.RetrainJob
