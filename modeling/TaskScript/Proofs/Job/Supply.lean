/-
How the supply of names shows in the scripts of jobs.  What is wrong with a job does not depend on
it, a retraining job does not draw from it, and of the names that an inference job draws only that
of the preprocessed data is written, where it is assigned and where the model reads it.  All this
holds also when other scripts draw names in between.
-/
import TaskScript.Proofs.Draft.Naming
import TaskScript.Proofs.Job.Flow
import TaskScript.Proofs.Script.Places

namespace TaskScript

open NameSupply

/-- The second name that is drawn here, when `meanwhile` names are drawn elsewhere after the
first. -/
def NameSupply.second (supply : NameSupply) (meanwhile : Nat) : String :=
  (supply.draw.2.drawMany meanwhile).2.draw.1

theorem NameSupply.second_eq (supply : NameSupply) (meanwhile : Nat) :
    supply.second meanwhile = nameAt (supply.next + 1 + meanwhile) := by
  rw [second, drawMany_snd]
  rfl

/-- Dependencies do not show in a script. -/
theorem Script.ofTasks_congr {left right : List Task}
    (hsame : left.map (fun task => (task.name, task.body)) =
      right.map fun task => (task.name, task.body)) : ofTasks left = ofTasks right := by
  have hshown (tasks : List Task) : ofTasks tasks =
      { imports := firstOccurrences
          ((tasks.map fun task => (task.name, task.body)).flatMap (·.2.imports.items))
        sections := (tasks.map fun task => (task.name, task.body)).filterMap fun (name, body) =>
          sectionOf? { body, name } } := by
    rw [List.flatMap_map, List.filterMap_map]
    rfl
  rw [hshown left, hshown right, hsame]

/-- What is wrong with a plan that lacks nothing depends on its demands and on the imports. -/
theorem Plan.Outlined.problems_eq_of_imports {env : Environment} {demands : List Demand}
    {left right : Plan} (hleft : left.Outlined env demands) (hright : right.Outlined env demands)
    (hnames : env.acceptsName = Text.isIdentifier)
    (himports : left.tasks.items.flatMap (·.body.imports.items) =
      right.tasks.items.flatMap (·.body.imports.items)) :
    left.problems = right.problems := by
  rw [hleft.problems_eq_unmet_append hnames, hright.problems_eq_unmet_append hnames,
    importProblems, importProblems, rejectedImports, rejectedImports, hleft.env_eq,
    hright.env_eq, imports, imports, himports]

/-- A task that lacks nothing has a block of its own. -/
theorem Task.Settled.blocks_cons {reads assigns : List Variable} {task : Task}
    (hsettled : task.Settled reads assigns) {code : String} (hcode : task.body.code = .ok code)
    (rest : List Body) : Script.blocks (task.body :: rest) = code :: Script.blocks rest :=
  Script.blocks_cons hcode (Body.allBlank_code hsettled.builtIn hsettled.written hcode) rest

namespace InferenceJob

open Job

section Text

variable (env : Environment) (model : ModelDescription) (image : String)
  (preprocess postprocess : Option PluginFunction)

theorem imports_tasks (owner number data : Nat) :
    (tasks env owner number data model image preprocess postprocess).flatMap
        (·.body.imports.items) =
      [.tensorflow, .tensorflow, .image] := by
  cases preprocess <;> cases postprocess <;> rfl

/-- Without preprocessing no name that was drawn is written. -/
theorem text_of_unprepared (owner number data : Nat) :
    (Script.ofTasks (tasks env owner number data model image none postprocess)).text false =
      (Script.ofTasks (tasks env 0 0 0 model image none postprocess)).text false := by
  have hbodies : (tasks env owner number data model image none postprocess).map (·.body) =
      (tasks env 0 0 0 model image none postprocess).map (·.body) := by
    cases postprocess <;> rfl
  rw [Script.text_ofTasks, Script.text_ofTasks, hbodies]

/-- What stands between the assignment to the preprocessed data and the model that reads it. -/
def handover (function : String) : String :=
  ") = " ++ function ++ "(" ++ "image" ++ ")" ++ "\n\n" ++ "prediction = model.predict("

theorem code_preparing (call : PluginFunction) (after : TaskId) (name : String) :
    (callTask "preprocess" call [env.variableNamed "image"] [env.variableNamed name]
      after).body.code =
      .ok ("\n\n" ++ call.1.contents ++ "\n\n\n" ++ "(" ++ name ++
        (") = " ++ call.2 ++ "(" ++ "image" ++ ")")) := by
  apply congrArg Except.ok
  simp [-String.reduceAppend, Variable.listed, Environment.variableNamed, ToString.toString,
    String.append_assoc]

theorem code_inferring (name : String) (after : List TaskId) :
    (inferTask (env.variableNamed "model") (env.variableNamed name)
      (env.variableNamed "prediction") after).body.code =
      .ok ("prediction = model.predict(" ++ name ++ ")") := by
  apply congrArg Except.ok
  simp [Environment.variableNamed, ToString.toString, String.append_assoc]

/-- The name of the preprocessed data is written where it is assigned and where it is read. -/
theorem exists_text_of_prepared (call : PluginFunction) :
    ∃ before after, ∀ owner number data,
      (Script.ofTasks (tasks env owner number data model image (some call) postprocess)).text
          false =
        before ++ nameAt data ++ handover call.2 ++ nameAt data ++ after := by
  have himports : Text.Starts ("\n".intercalate ([.tensorflow, .image].map Import.code)) := by
    decide
  obtain ⟨before, after, hlayout⟩ := Script.exists_layout_pair himports
    (Script.blocks ((opening env 0 model image).map (·.body)))
    (Script.blocks ((closing env 0 (some call) postprocess).map (·.body)))
    ("\n\n" ++ call.1.contents ++ "\n\n\n" ++ "(") (") = " ++ call.2 ++ "(" ++ "image" ++ ")")
    "prediction = model.predict(" ")" (by decide)
  refine ⟨before, after, fun owner number data => ?_⟩
  have hbodies : (tasks env owner number data model image (some call) postprocess).map (·.body) =
      (opening env 0 model image).map (·.body) ++
        (callTask "preprocess" call [env.variableNamed "image"]
          [env.variableNamed (nameAt data)] ⟨owner, 2⟩).body ::
        (inferTask (env.variableNamed "model") (env.variableNamed (nameAt data))
          (env.variableNamed "prediction") []).body ::
        (closing env 0 (some call) postprocess).map (·.body) := by
    cases postprocess <;> rfl
  have hcall := code_preparing env call ⟨owner, 2⟩ (nameAt data)
  have hinfer := code_inferring env (nameAt data) []
  rw [Script.text_ofTasks, handover, ← hlayout, List.flatMap_map, imports_tasks, hbodies,
    Script.blocks_append, (settled_callTask _ call _ (by simp) _).blocks_cons hcall,
    (settled_inferTask _ _ _ _).blocks_cons hinfer]
  rfl

/-- What is wrong does not depend on what was drawn. -/
theorem problems_drafted (hnames : env.acceptsName = Text.isIdentifier)
    (owner number data : Nat) :
    ({ drafted env owner number data model image preprocess postprocess with } : Plan).problems =
      ({ drafted env 0 0 0 model image preprocess postprocess with } : Plan).problems := by
  apply (outlined ..).problems_eq_of_imports (outlined ..) hnames
  simp only [drafted, TaskList.items_ofItems, imports_tasks]

end Text

end InferenceJob

namespace RetrainJob

variable (env : Environment) (job : RetrainJob) (model : ModelDescription) (saveTo : String)
  (checkpoint : Option String)

/-- Who issued the identifiers of the tasks does not show. -/
theorem ofTasks_eq (owner : Nat) :
    Script.ofTasks (tasks env owner job model saveTo checkpoint) =
      Script.ofTasks (tasks env 0 job model saveTo checkpoint) := by
  apply Script.ofTasks_congr
  cases checkpoint <;> rfl

theorem imports_tasks (owner : Nat) :
    (tasks env owner job model saveTo checkpoint).flatMap (·.body.imports.items) =
      (tasks env 0 job model saveTo checkpoint).flatMap (·.body.imports.items) := by
  cases checkpoint <;> rfl

theorem problems_drafted (hnames : env.acceptsName = Text.isIdentifier) (owner : Nat)
    (supply : NameSupply) :
    ({ drafted env owner job model saveTo checkpoint supply with } : Plan).problems =
      ({ drafted env 0 job model saveTo checkpoint {} with } : Plan).problems := by
  apply (outlined ..).problems_eq_of_imports (outlined ..) hnames
  simp only [drafted, TaskList.items_ofItems]
  exact imports_tasks ..

end RetrainJob

namespace Job

/-- The text, unless something is wrong. -/
def textUnless (problems : List Problem) (text : String) : Except JobError String :=
  match NonEmpty.ofList? problems with
  | some problems => .error (.generation problems)
  | none => .ok text

section Answer

variable {loader : ModelLoader} {base : String} {env : Environment} {plugins : PluginStore}
  {model : ModelDescription} (hnames : env.acceptsName = Text.isIdentifier)

theorem mapError_text {plan : Plan} (hprepared : plan.Prepared) (comments : Bool) :
    (plan.text comments).mapError JobError.generation =
      textUnless plan.problems ((Script.ofTasks plan.tasks.items).text comments) := by
  rw [hprepared.text_eq, textUnless]
  cases NonEmpty.ofList? plan.problems <;> rfl

theorem generate_of_unloaded {job : Job} {error : LoadError}
    (hmodel : loader (Path.join base job.model) = .error error)
    (comments : Bool) (meanwhile : Nat) (session : Session) :
    job.generate loader base env plugins comments meanwhile session =
      (.error (.loading error), session) := by
  unfold generate
  rw [hmodel]

/-- A job whose block cannot be made draws no name. -/
theorem generate_of_blockless {job : Job} {error : JobError}
    (hmodel : loader (Path.join base job.model) = .ok model)
    {meanwhile : Nat} (hblock : job.block base model plugins meanwhile = .error error)
    (comments : Bool) (session : Session) :
    job.generate loader base env plugins comments meanwhile session =
      (.error error, (session.start env).2) := by
  unfold generate plan
  rw [hmodel]
  dsimp only
  rw [hblock]
  rfl

theorem names_of_plan {job : Job} {meanwhile : Nat} {session : Session} {plan : Plan}
    (hmodel : loader (Path.join base job.model) = .ok model)
    (hplan : job.plan base model plugins meanwhile (session.start env).1 = .ok plan)
    (comments : Bool) :
    (job.generate loader base env plugins comments meanwhile session).2.names = plan.names := by
  unfold generate
  rw [hmodel]
  dsimp only
  rw [hplan]
  rfl

include hnames

/-- Once everything is found, what is wrong with an inference job is the same whatever it draws. -/
theorem exists_answer_inference {job : InferenceJob}
    {preprocess postprocess : Option PluginFunction}
    (hmodel : loader (Path.join base (inference job).model) = .ok model)
    (hpreprocess : resolve plugins job.preprocess = .ok preprocess)
    (hpostprocess : resolve plugins job.postprocess = .ok postprocess) :
    ∃ problems, ∀ comments meanwhile session,
      ((inference job).generate loader base env plugins comments meanwhile session).1 =
        textUnless problems ((Script.ofTasks (InferenceJob.tasks env session.nextOwner
          session.names.next (session.names.next + 1 + meanwhile) model
            (Path.join base job.image) preprocess postprocess)).text comments) := by
  refine ⟨({ InferenceJob.drafted env 0 0 0 model (Path.join base job.image) preprocess
    postprocess with } : Plan).problems, fun comments meanwhile session => ?_⟩
  have hproblems := InferenceJob.problems_drafted env model (Path.join base job.image) preprocess
    postprocess hnames session.nextOwner session.names.next (session.names.next + 1 + meanwhile)
  have hplan : (inference job).plan base model plugins meanwhile (session.start env).1 = .ok _ :=
    plan_inference hpreprocess hpostprocess session
  rw [generate_eq_of_plan hmodel hplan, mapError_text (outlined_of_plan hplan).toPrepared,
    hproblems]
  simp only [InferenceJob.drafted, TaskList.items_ofItems]

/-- The answer to a retraining job does not depend on the session. -/
theorem exists_answer_retrain (job : RetrainJob) (comments : Bool) :
    ∃ answer, ∀ meanwhile session,
      ((retrain job).generate loader base env plugins comments meanwhile session).1 = answer := by
  cases hmodel : loader (Path.join base (retrain job).model) with
  | error error =>
      exact ⟨.error (.loading error), fun _ _ => by rw [generate_of_unloaded hmodel]⟩
  | ok model =>
      let saveTo := Path.join base job.saveTo
      let checkpoint := job.training.checkpoint.map (Path.join base)
      refine ⟨textUnless
        ({ RetrainJob.drafted env 0 job model saveTo checkpoint {} with } : Plan).problems
        ((Script.ofTasks (RetrainJob.tasks env 0 job model saveTo checkpoint)).text comments),
        fun meanwhile session => ?_⟩
      have hproblems := RetrainJob.problems_drafted env job model saveTo checkpoint hnames
        session.nextOwner session.names
      have hplan : (retrain job).plan base model plugins meanwhile (session.start env).1 = .ok _ :=
        plan_retrain job session
      rw [generate_eq_of_plan hmodel hplan, mapError_text (outlined_of_plan hplan).toPrepared,
        hproblems]
      simp only [RetrainJob.drafted, TaskList.items_ofItems]
      rw [RetrainJob.ofTasks_eq]

/-- An inference job fails alike for every supply of names, or the script is that of its tasks. -/
theorem fails_or_answers_inference (job : InferenceJob) :
    (∃ error, ∀ comments meanwhile session,
      ((inference job).generate loader base env plugins comments meanwhile session).1 =
        .error error) ∨
    ∃ model preprocess postprocess, resolve plugins job.preprocess = .ok preprocess ∧
      ∀ comments meanwhile session,
        ((inference job).generate loader base env plugins comments meanwhile session).1 =
          .ok ((Script.ofTasks (InferenceJob.tasks env session.nextOwner session.names.next
            (session.names.next + 1 + meanwhile) model (Path.join base job.image) preprocess
              postprocess)).text comments) := by
  cases hmodel : loader (Path.join base (inference job).model) with
  | error error =>
      exact .inl ⟨.loading error, fun _ _ _ => by rw [generate_of_unloaded hmodel]⟩
  | ok model =>
      rcases hpreprocess : resolve plugins job.preprocess with error | preprocess
      · have hblock (meanwhile : Nat) :
            (inference job).block base model plugins meanwhile = .error error := by
          rw [block, hpreprocess]
          rfl
        exact .inl ⟨error, fun _ _ _ => by rw [generate_of_blockless hmodel (hblock _)]⟩
      rcases hpostprocess : resolve plugins job.postprocess with error | postprocess
      · have hblock (meanwhile : Nat) :
            (inference job).block base model plugins meanwhile = .error error := by
          rw [block, hpreprocess, hpostprocess]
          rfl
        exact .inl ⟨error, fun _ _ _ => by rw [generate_of_blockless hmodel (hblock _)]⟩
      obtain ⟨problems, hanswer⟩ :=
        exists_answer_inference hnames hmodel hpreprocess hpostprocess
      cases hproblems : NonEmpty.ofList? problems with
      | some found =>
          exact .inl ⟨.generation found, fun comments meanwhile session => by
            rw [hanswer, textUnless, hproblems]⟩
      | none =>
          refine .inr ⟨model, preprocess, postprocess, rfl, fun comments meanwhile session => ?_⟩
          rw [hanswer, textUnless, hproblems]

end Answer

section Names

variable {loader : ModelLoader} {base : String} {env : Environment} {plugins : PluginStore}

theorem names_of_retrain (job : RetrainJob) (comments : Bool) (meanwhile : Nat)
    (session : Session) :
    ((retrain job).generate loader base env plugins comments meanwhile session).2.names =
      session.names := by
  cases hmodel : loader (Path.join base (retrain job).model) with
  | error error => rw [generate_of_unloaded hmodel]
  | ok model => exact names_of_plan hmodel (plan_retrain job session) comments

theorem exists_eq_some_of_resolve {call : PluginCall} {function : Option PluginFunction}
    (hresolve : resolve plugins (some call) = .ok function) :
    ∃ plugin, function = some (plugin, call.function) := by
  rw [resolve] at hresolve
  split at hresolve
  · rename_i plugin _
    exact ⟨plugin, (Except.ok.inj hresolve).symm⟩
  · cases hresolve

/-- Besides the names that are drawn elsewhere one is drawn for the eager task, and one more for
the preprocessed data. -/
theorem names_of_inference {job : InferenceJob} {model : ModelDescription}
    (hmodel : loader (Path.join base (inference job).model) = .ok model)
    (hsupplied : (inference job).Supplied plugins) (comments : Bool) (meanwhile : Nat)
    (session : Session) :
    ((inference job).generate loader base env plugins comments meanwhile session).2.names =
      (session.names.drawMany (1 + meanwhile + job.preprocess.toList.length)).2 := by
  obtain ⟨preprocess, hpreprocess⟩ := exists_resolve fun call h => hsupplied call (.inl h)
  obtain ⟨postprocess, hpostprocess⟩ := exists_resolve fun call h => hsupplied call (.inr h)
  have hlength : preprocess.toList.length = job.preprocess.toList.length := by
    have hsame := map_snd_of_resolve hpreprocess
    cases preprocess <;> cases hcall : job.preprocess <;> simp_all
  rw [names_of_plan hmodel (plan_inference hpreprocess hpostprocess session) comments,
    drawMany_snd, ← hlength, ← Nat.add_assoc, ← Nat.add_assoc]
  rfl

end Names

/-- Whether there is a script for a job depends neither on the names that are left nor on how many
of them are drawn elsewhere meanwhile.  A retraining job draws none and is answered the same for all
of them.  An inference job whose model and plugins are found draws one name, and a second one if it
preprocesses the image; without comments its script is always the same, but for the second name,
which stands at two places of it. -/
theorem only_one_drawn_name_shows (loader : ModelLoader) (base : String) (env : Environment)
    (plugins : PluginStore) (hnames : env.acceptsName = Text.isIdentifier) :
    (∀ (job : Job) (comments : Bool) (meanwhile othersMeanwhile : Nat) (session other : Session),
      (∃ text, (job.generate loader base env plugins comments meanwhile session).1 = .ok text) ↔
        ∃ text, (job.generate loader base env plugins comments othersMeanwhile other).1 =
          .ok text) ∧
    (∀ (job : RetrainJob) (comments : Bool),
      (∀ meanwhile session,
        ((retrain job).generate loader base env plugins comments meanwhile session).2.names =
          session.names) ∧
      ∃ answer, ∀ meanwhile session,
        ((retrain job).generate loader base env plugins comments meanwhile session).1 = answer) ∧
    ∀ job : InferenceJob,
      (∀ model, loader (Path.join base job.model) = .ok model →
        (inference job).Supplied plugins → ∀ comments meanwhile session,
          ((inference job).generate loader base env plugins comments meanwhile session).2.names =
            (session.names.drawMany (1 + meanwhile + job.preprocess.toList.length)).2) ∧
      (job.preprocess = none → ∃ answer, ∀ meanwhile session,
        ((inference job).generate loader base env plugins false meanwhile session).1 = answer) ∧
      ∀ call, job.preprocess = some call →
        (∃ error, ∀ meanwhile session,
          ((inference job).generate loader base env plugins false meanwhile session).1 =
            .error error) ∨
        ∃ before after, ∀ meanwhile session,
          ((inference job).generate loader base env plugins false meanwhile session).1 =
            .ok (before ++ session.names.second meanwhile ++
              InferenceJob.handover call.function ++ session.names.second meanwhile ++
              after) := by
  refine ⟨?_, ?_, ?_⟩
  · intro job comments meanwhile othersMeanwhile session other
    cases job with
    | inference job =>
        rcases fails_or_answers_inference hnames job with ⟨error, herror⟩ | ⟨_, _, _, _, hok⟩
        · rw [herror, herror]
        · exact iff_of_true ⟨_, hok comments meanwhile session⟩
            ⟨_, hok comments othersMeanwhile other⟩
    | retrain job =>
        obtain ⟨answer, hanswer⟩ := exists_answer_retrain hnames job comments
        rw [hanswer, hanswer]
  · intro job comments
    exact ⟨names_of_retrain job comments, exists_answer_retrain hnames job comments⟩
  · intro job
    refine ⟨fun model hmodel hsupplied => names_of_inference hmodel hsupplied, ?_, ?_⟩
    · intro hnone
      rcases fails_or_answers_inference hnames job with ⟨error, herror⟩ | ⟨_, _, _, hresolve, hok⟩
      · exact ⟨.error error, herror false⟩
      · rw [hnone] at hresolve
        obtain rfl := Except.ok.inj hresolve
        exact ⟨_, fun meanwhile session => by rw [hok, InferenceJob.text_of_unprepared]⟩
    · intro call hcall
      rcases fails_or_answers_inference hnames job with ⟨error, herror⟩ | ⟨_, _, _, hresolve, hok⟩
      · exact .inl ⟨error, herror false⟩
      · rw [hcall] at hresolve
        obtain ⟨plugin, rfl⟩ := exists_eq_some_of_resolve hresolve
        obtain ⟨before, after, htext⟩ := InferenceJob.exists_text_of_prepared ..
        exact .inr ⟨before, after, fun meanwhile session => by
          rw [hok, htext, NameSupply.second_eq]⟩

/-- Two sessions crop an image into variables of different names, the later one while three names
are drawn elsewhere, and in nothing else do their scripts differ. -/
theorem only_one_drawn_name_shows_cropping :
    ∃ before after,
      (cropping.generate (ModelDescription.load shelf) "." { acceptsPath := fun _ => true }
          croppers false 0 {}).1 =
        .ok (before ++ "var2" ++ InferenceJob.handover "crop" ++ "var2" ++ after) ∧
      (cropping.generate (ModelDescription.load shelf) "." { acceptsPath := fun _ => true }
          croppers false 3 { nextOwner := 7, names := ⟨41⟩ }).1 =
        .ok (before ++ "var45" ++ InferenceJob.handover "crop" ++ "var45" ++ after) ∧
      (cropping.generate (ModelDescription.load shelf) "." { acceptsPath := fun _ => true }
          croppers false 3 { nextOwner := 7, names := ⟨41⟩ }).2.names = ⟨46⟩ := by
  have hmodel : ModelDescription.load shelf (Path.join "." cropping.model) =
      .ok { name := "m", path := "./m.h5" } := by decide +kernel
  have hmet : ∀ demand ∈ cropping.demands { acceptsPath := fun _ => true } "."
      { name := "m", path := "./m.h5" }, demand.met = true := by decide
  have hplan : cropping.plan "." { name := "m", path := "./m.h5" } croppers 0
      (Session.start {} { acceptsPath := fun _ => true }).1 = .ok _ := plan_inference rfl rfl {}
  have htext := generate_eq_ok hmodel hplan false hmet
  obtain ⟨-, -, hinference⟩ := only_one_drawn_name_shows (ModelDescription.load shelf) "."
    { acceptsPath := fun _ => true } croppers rfl
  obtain ⟨hdrawn, -, hprepared⟩ := hinference
    { name := "cropping"
      model := "m.json"
      image := "i.png"
      preprocess := some ⟨"p", "crop"⟩
      postprocess := some ⟨"p", "show"⟩ }
  have hsupplied : cropping.Supplied croppers := by
    rintro call (hcall | hcall) <;> cases hcall <;> rfl
  rcases hprepared ⟨"p", "crop"⟩ rfl with ⟨error, herror⟩ | ⟨before, after, hshown⟩
  · cases htext.symm.trans (herror 0 {})
  · let later : Session := { nextOwner := 7, names := ⟨41⟩ }
    have hlater : later.names.second 3 = "var45" := by decide +kernel
    have hshownlater := hshown 3 later
    rw [hlater] at hshownlater
    exact ⟨before, after, hshown 0 {}, hshownlater, hdrawn _ hmodel hsupplied false 3 later⟩

end Job

end TaskScript
