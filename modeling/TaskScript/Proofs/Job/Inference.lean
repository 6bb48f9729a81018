/-
What the block of an inference job makes of a new draft: its variables, its tasks in their order
and the markers, for any numbers of the two names that it may draw.
-/
import TaskScript.Proofs.Draft.Steps
import TaskScript.Proofs.Job.Tasks
import TaskScript.Proofs.Naming.Spelling

namespace TaskScript.InferenceJob

open NameSupply Job

section Drafted

variable (env : Environment) (owner number data : Nat) (model : ModelDescription)
  (image : String) (preprocess postprocess : Option PluginFunction)

/-- The names of the variables; the last one is there if the image is preprocessed. -/
def names : List String :=
  ["model", "image", "prediction"] ++ (preprocess.map fun _ => nameAt data).toList

/-- The name of the variable that the model is run on. -/
def inputName : String := (preprocess.map fun _ => nameAt data).getD "image"

/-- The tasks that are there in any case and come first. -/
def opening : List Task :=
  [eagerTask (nameAt number), loadModelTask model.path (env.variableNamed "model"),
    loadImageTask image (env.variableNamed "image")]

def preparing : List Task :=
  (preprocess.map fun call =>
    callTask "preprocess" call [env.variableNamed "image"]
      [env.variableNamed (nameAt data)] ⟨owner, 2⟩).toList

def inferring : Task :=
  inferTask (env.variableNamed "model") (env.variableNamed (inputName data preprocess))
    (env.variableNamed "prediction") [⟨owner, 1⟩, ⟨owner, 2 + preprocess.toList.length⟩]

def closing : List Task :=
  (postprocess.map fun call =>
    callTask "postprocess" call [env.variableNamed "prediction"] []
      ⟨owner, 3 + preprocess.toList.length⟩).toList

def tasks : List Task :=
  opening env number model image ++ preparing env owner data preprocess ++
    [inferring env owner data preprocess] ++ closing env owner preprocess postprocess

/-- The draft after the block. -/
def drafted : Draft where
  env
  names := ⟨data + preprocess.toList.length⟩
  declared := .ofItems ((names data preprocess).map env.variableNamed)
  tasks := .ofItems owner (tasks env owner number data model image preprocess postprocess)
  pregenerationLast := some ⟨owner, 0⟩
  last := postprocess.map fun _ => ⟨owner, 4 + preprocess.toList.length⟩
  required := ⟨[env.variableNamed "prediction"]⟩

theorem runs_block (meanwhile : Nat) :
    (block model image preprocess postprocess meanwhile).Runs
      { env, names := ⟨number⟩, tasks := { owner } } ()
      (drafted env owner number (number + 1 + meanwhile) model image preprocess postprocess) := by
  unfold block
  refine .bind (Block.runs_declare (by simp)) ?_
  refine .bind (Block.runs_declare (by simp)) ?_
  refine .bind (Block.runs_declare (by simp)) ?_
  refine .bind (Block.runs_require _ _) ?_
  refine .bind (Block.runs_createOnce rfl rfl rfl rfl (by simp)) ?_
  refine .bind (Block.runs_markPregenerationLast _ _) ?_
  refine .bind (Block.runs_drawElsewhere _ _) ?_
  refine .bind (Block.runs_create rfl rfl rfl (by simp (disch := decide) [ne_nameAt])) ?_
  refine .bind (Block.runs_create rfl rfl rfl (by simp (disch := decide) [ne_nameAt])) ?_
  -- What comes after the preprocessing is run from two drafts, by the same steps.
  rcases preprocess with _ | ⟨plugin, function⟩
  case' none => refine .bind (Block.runs_pure _ _) ?_
  case' some =>
    refine .bind (.bind (Block.runs_declareUnique (by simp (disch := decide) [nameAt_ne]))
      (.bind (Block.runs_create rfl rfl rfl (by simp (disch := decide) [ne_nameAt]))
        (Block.runs_pure _ _))) ?_
  all_goals
    refine .bind (Block.runs_create rfl rfl rfl (by simp (disch := decide) [ne_nameAt])) ?_
    rcases postprocess with _ | ⟨plugin, function⟩
    · exact Block.runs_pure _ _
    · exact .bind (Block.runs_create rfl rfl rfl (by simp (disch := decide) [ne_nameAt]))
        (Block.runs_markLast _ _)

end Drafted

section Flow

variable {env : Environment} {owner number data : Nat} {model : ModelDescription}
  {image : String} {preprocess postprocess : Option PluginFunction}

theorem fed_opening : Fed owner [] (opening env number model image) :=
  ⟨(settled_eagerTask _).follows [] rfl nofun nofun,
    (settled_loadModelTask _ _).follows [] rfl nofun nofun,
    (settled_loadImageTask _ _).follows [] rfl nofun nofun, trivial⟩

theorem assigned_model {more : List Task} :
    Assigned (opening env number model image ++ more) (env.variableNamed "model") :=
  (settled_loadModelTask model.path (env.variableNamed "model")).assigned (by simp [opening])
    (List.mem_singleton_self _)

theorem assigned_image {more : List Task} :
    Assigned (opening env number model image ++ more) (env.variableNamed "image") :=
  (settled_loadImageTask image (env.variableNamed "image")).assigned (by simp [opening])
    (List.mem_singleton_self _)

theorem fed_preparing :
    Fed owner (opening env number model image) (preparing env owner data preprocess) := by
  cases preprocess with
  | none => trivial
  | some call =>
      refine ⟨(settled_callTask "preprocess" call _ (by simp) _).follows _ rfl (by simp [opening]) ?_,
        trivial⟩
      have himage := @assigned_image env number model image []
      simpa using himage

/-- Without preprocessing the model is run on the image itself. -/
theorem assigned_input :
    Assigned (opening env number model image ++ preparing env owner data preprocess)
      (env.variableNamed (inputName data preprocess)) := by
  cases preprocess with
  | none => exact assigned_image
  | some call =>
      exact (settled_callTask "preprocess" call _ (by simp) _).assigned
        (List.mem_append_right _ (List.mem_singleton_self _)) (List.mem_singleton_self _)

theorem length_preparing :
    (preparing env owner data preprocess).length = preprocess.toList.length := by
  cases preprocess <;> rfl

theorem fed_inferring :
    Fed owner (opening env number model image ++ preparing env owner data preprocess)
      [inferring env owner data preprocess] := by
  refine ⟨(settled_inferTask _ _ _ _).follows _ rfl ?_ ?_, trivial⟩
  · simp [opening, length_preparing]
    omega
  · simp [assigned_model, assigned_input]

theorem assigned_prediction {before : List Task}
    (hmem : inferring env owner data preprocess ∈ before) :
    Assigned before (env.variableNamed "prediction") :=
  (settled_inferTask _ _ _ _).assigned hmem (List.mem_singleton_self _)

theorem fed_closing :
    Fed owner (opening env number model image ++ preparing env owner data preprocess ++
      [inferring env owner data preprocess]) (closing env owner preprocess postprocess) := by
  cases postprocess with
  | none => trivial
  | some call =>
      refine ⟨(settled_callTask "postprocess" call _ (by simp) _).follows _ rfl ?_ ?_, trivial⟩
      · simp [opening, length_preparing]
        omega
      · exact List.forall_mem_singleton.mpr
          (assigned_prediction (List.mem_append_right _ (List.mem_singleton_self _)))

theorem fed_tasks :
    Fed owner [] (tasks env owner number data model image preprocess postprocess) := by
  rw [tasks, fed_append, fed_append, fed_append]
  exact ⟨⟨⟨fed_opening, fed_preparing⟩, fed_inferring⟩, fed_closing⟩

/-- The tasks have all their fields and hold variables that the block declared. -/
theorem complete_of_mem_tasks {task : Task}
    (htask : task ∈ tasks env owner number data model image preprocess postprocess) :
    task.Complete ((names data preprocess).map env.variableNamed) := by
  simp only [tasks, opening, List.mem_append, List.mem_cons, List.not_mem_nil, or_false] at htask
  rcases htask with ((((rfl | rfl | rfl) | hcall) | rfl) | hcall)
  · exact (settled_eagerTask _).complete nofun
  · exact (settled_loadModelTask _ _).complete (by simp [names])
  · exact (settled_loadImageTask _ _).complete (by simp [names])
  · simp only [preparing, Option.mem_toList, Option.map_eq_some_iff] at hcall
    obtain ⟨call, rfl, rfl⟩ := hcall
    exact (settled_callTask "preprocess" call _ (by simp) _).complete (by simp [names])
  · exact (settled_inferTask _ _ _ _).complete (by cases preprocess <;> simp [names, inputName])
  · simp only [closing, Option.mem_toList, Option.map_eq_some_iff] at hcall
    obtain ⟨call, rfl, rfl⟩ := hcall
    exact (settled_callTask "postprocess" call _ (by simp) _).complete (by simp [names])

theorem length_tasks :
    (tasks env owner number data model image preprocess postprocess).length =
      4 + preprocess.toList.length + postprocess.toList.length := by
  cases preprocess <;> cases postprocess <;> rfl

theorem prepared :
    Plan.Prepared
      { drafted env owner number data model image preprocess postprocess with } := by
  apply Plan.prepared_of_items rfl rfl fed_tasks (fun _ => complete_of_mem_tasks)
  · intro id hid
    exact ⟨(Option.some.inj hid).symm, List.cons_ne_nil _ _⟩
  · intro id hid
    rcases Option.map_eq_some_iff.mp hid with ⟨call, rfl, rfl⟩
    exact ⟨rfl, by rw [length_tasks]; rfl⟩
  · intro wanted hwanted
    obtain rfl := List.mem_singleton.mp hwanted
    have hinferring : inferring env owner data preprocess ∈
        tasks env owner number data model image preprocess postprocess := by simp [tasks]
    exact assigned_prediction hinferring

end Flow

theorem isIdentifier_names (data : Nat) (preprocess : Option PluginFunction) :
    ∀ name ∈ names data preprocess, Text.isIdentifier name = true := by
  have hfixed : ∀ name ∈ ["model", "image", "prediction"], Text.isIdentifier name = true := by
    decide
  rw [names, List.forall_mem_append]
  refine ⟨hfixed, fun name hname => ?_⟩
  rw [Option.mem_toList, Option.map_eq_some_iff] at hname
  obtain ⟨call, _, rfl⟩ := hname
  exact isIdentifier_nameAt _

section Checked

variable (env : Environment) (model : ModelDescription) (image : String)

/-- What has to hold of the paths and of the names of the functions. -/
def demands (preprocess postprocess : Option String) : List Demand :=
  [⟨.loadModel, "load_model", env.acceptsPath model.path⟩,
    ⟨.loadImage, "load_image", env.acceptsPath image⟩] ++
    (preprocess.map fun function =>
      ⟨.runPlugin, "preprocess", env.acceptsName function⟩).toList ++
    (postprocess.map fun function =>
      ⟨.runPlugin, "postprocess", env.acceptsName function⟩).toList

theorem checks_tasks (owner number data : Nat) (preprocess postprocess : Option PluginFunction) :
    Checks env (tasks env owner number data model image preprocess postprocess)
      (demands env model image (preprocess.map Prod.snd) (postprocess.map Prod.snd)) := by
  have hopening : Checks env (opening env number model image)
      [⟨.loadModel, "load_model", env.acceptsPath model.path⟩,
        ⟨.loadImage, "load_image", env.acceptsPath image⟩] :=
    .passes rfl (.asks rfl (.asks rfl .nil))
  have hinferring : Checks env [inferring env owner data preprocess] [] := .passes rfl .nil
  have hpreparing : Checks env (preparing env owner data preprocess)
      ((preprocess.map Prod.snd).map fun function =>
        ⟨.runPlugin, "preprocess", env.acceptsName function⟩).toList := by
    cases preprocess with
    | none => exact .nil
    | some call => exact .asks rfl .nil
  have hclosing : Checks env (closing env owner preprocess postprocess)
      ((postprocess.map Prod.snd).map fun function =>
        ⟨.runPlugin, "postprocess", env.acceptsName function⟩).toList := by
    cases postprocess with
    | none => exact .nil
    | some call => exact .asks rfl .nil
  have hall := ((hopening.append hpreparing).append hinferring).append hclosing
  rw [List.append_nil] at hall
  exact hall

end Checked

theorem outlined (env : Environment) (owner number data : Nat) (model : ModelDescription)
    (image : String) (preprocess postprocess : Option PluginFunction) :
    ({ drafted env owner number data model image preprocess postprocess with } : Plan).Outlined env
      (demands env model image (preprocess.map Prod.snd) (postprocess.map Prod.snd)) :=
  Plan.outlined_of_items prepared rfl rfl (isIdentifier_names _ _) (checks_tasks ..)

end TaskScript.InferenceJob
