/-
The data flow of the scripts of jobs.  The tasks run in the order they are declared, and what a
task reads was assigned by an earlier one.
-/
import TaskScript.Proofs.Job.Outcome
import TaskScript.Proofs.Script.Sections

namespace TaskScript

/-- The script is made of the tasks in the order of their declaration, and variables are assigned
before they are read. -/
structure Plan.Flows (script : Script) (plan : Plan) : Prop where
  order : plan.graph.order = plan.tasks.positions
  sections : List.Forall₂ Section.Shows script.sections plan.tasks.items
  inputs : ∀ before task after, plan.tasks.items = before ++ task :: after →
    ∃ reads, task.body.inputs = .ok reads ∧
      ∀ slot ∈ reads, ∃ earlier ∈ before, earlier.Assigns slot
  /-- The other variables that a task holds are those that it assigns itself. -/
  named : ∀ before task after, plan.tasks.items = before ++ task :: after →
    ∀ slot ∈ task.body.named, task.Assigns slot ∨ ∃ earlier ∈ before, earlier.Assigns slot

theorem Plan.Prepared.flows {plan : Plan} (hprepared : plan.Prepared) {script : Script}
    (hscript : plan.script = .ok script) : plan.Flows script := by
  obtain ⟨_, _, rfl⟩ := script_eq_ok_iff.mp hscript
  have hfollows : ∀ before task after, plan.tasks.items = before ++ task :: after →
      task.Follows plan.tasks.owner before := by
    intro before task after hsplit
    have hfed := hprepared.fed
    rw [hsplit] at hfed
    exact hfed.follows
  refine ⟨hprepared.order_eq, ?_, ?_, ?_⟩
  · rw [hprepared.orderedTasks_eq]
    apply Script.shows_sections
    intro task htask
    have hcomplete := hprepared.complete task htask
    exact ⟨hcomplete.builtIn, hcomplete.written, hcomplete.exists_code⟩
  · exact fun before task after hsplit => (hfollows before task after hsplit).inputs
  · exact fun before task after hsplit => (hfollows before task after hsplit).named

namespace Job

/-- Whenever there is a script for a job, its tasks stand in it in the order that the block of the
job declares them, and what a task reads a task before it assigned. -/
theorem reads_follow_assignments {job : Job} {loader : ModelLoader} {base : String}
    {env : Environment} {plugins : PluginStore} {comments : Bool} {meanwhile : Nat}
    {session : Session} {text : String}
    (htext : (job.generate loader base env plugins comments meanwhile session).1 = .ok text) :
    ∃ model plan script,
      loader (Path.join base job.model) = .ok model ∧
        job.plan base model plugins meanwhile (session.start env).1 = .ok plan ∧
        plan.script = .ok script ∧ script.text comments = text ∧ plan.Flows script := by
  obtain ⟨model, plan, hmodel, hplan, hanswer⟩ := exists_plan_of_generate htext
  obtain ⟨hproblems, hcode, hshown⟩ := Plan.text_eq_ok_iff.mp hanswer
  have hscript := Plan.script_eq_ok_iff.mpr ⟨hproblems, hcode, rfl⟩
  have hflows := (outlined_of_plan hplan).flows hscript
  exact ⟨model, plan, _, hmodel, hplan, hscript, hshown, hflows⟩

/-- An image is cropped before a model sees it, and what the model says is shown. -/
def cropping : Job :=
  .inference
    { name := "cropping"
      model := "m.json"
      image := "i.png"
      preprocess := some ⟨"p", "crop"⟩
      postprocess := some ⟨"p", "show"⟩ }

/-- The current directory holds the description of a model. -/
def shelf : Workspace where
  current := []
  nodes := [(["m.json"], .file "\x7b\"name\": \"m\", \"path\": \"m.h5\"\x7d")]

def croppers : PluginStore := ⟨.single ⟨"p", "pass"⟩⟩

theorem reads_follow_assignments_cropping :
    ∃ (text : String) (plan : Plan) (script : Script),
      (cropping.generate (ModelDescription.load shelf) "." { acceptsPath := fun _ => true }
          croppers true 0 {}).1 = .ok text ∧
      plan.script = .ok script ∧ script.text true = text ∧ plan.Flows script ∧
      plan.tasks.items.map Task.name =
        ["var1", "load_model", "load_image", "preprocess", "infer", "postprocess"] := by
  have hmodel : ModelDescription.load shelf (Path.join "." cropping.model) =
      .ok { name := "m", path := "./m.h5" } := by decide +kernel
  have hnames : (cropping.plan "." { name := "m", path := "./m.h5" } croppers 0
      (Session.start {} { acceptsPath := fun _ => true }).1).map (·.tasks.items.map Task.name) =
      .ok ["var1", "load_model", "load_image", "preprocess", "infer", "postprocess"] := by
    decide +kernel
  have hmet : ∀ demand ∈ cropping.demands { acceptsPath := fun _ => true } "."
      { name := "m", path := "./m.h5" }, demand.met = true := by decide
  rcases hplan : cropping.plan "." { name := "m", path := "./m.h5" } croppers 0
      (Session.start {} { acceptsPath := fun _ => true }).1 with error | plan
  · rw [hplan] at hnames
    cases hnames
  have htext := generate_eq_ok hmodel hplan true hmet
  obtain ⟨model, plan', script, hmodel', hplan', hscript, hshown, hflows⟩ :=
    reads_follow_assignments htext
  rw [hmodel] at hmodel'
  obtain rfl := Except.ok.inj hmodel'
  rw [hplan'] at hnames
  exact ⟨_, plan', script, htext, hscript, hshown, hflows, Except.ok.inj hnames⟩

end Job

end TaskScript
