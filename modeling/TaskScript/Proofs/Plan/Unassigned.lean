/-
Unassigned fields.  The code of a task asks for all its fields, so a plan with a waiting one
gives no script.  Its report need not say so: the checks before ask for fewer fields, and the
code is asked for only when they find nothing.
-/
import TaskScript.Proofs.Plan.Outcome
import TaskScript.Proofs.Task.Lacking

namespace TaskScript.Plan

/-- The code of a task fails exactly when a field waits, and then names a waiting one; so a
plan that gives a script has no waiting field. -/
theorem code_asks_for_every_field :
    (∀ body : Body, body.isBuiltIn = true →
      ((∃ error, body.code = .error error) ↔ body.waiting ≠ []) ∧
        ∀ error, body.code = .error error → error.field ∈ body.waiting) ∧
    ∀ (plan : Plan) (comments : Bool) (text : String), plan.text comments = .ok text →
      ∀ task ∈ plan.tasks.items, task.body.waiting = [] := by
  refine ⟨?_, ?_⟩
  · intro body hbuiltIn
    have hlacks := Body.lacks_code hbuiltIn
    exact ⟨hlacks.exists_error_iff, hlacks.of_error⟩
  · intro plan comments text htext task htask
    obtain ⟨code, hcode⟩ := exists_code_of_text htext htask
    exact Body.waiting_eq_nil_of_code hcode

/-- Asks a model for the output to an input that may wait. -/
def prediction (input? : Option Variable) : Body :=
  .runInference
    { model := ⟨some ⟨"m", true⟩⟩, input := ⟨input?⟩, output := ⟨some ⟨"y", true⟩⟩ }

def predicting : Plan where
  env := { acceptsPath := fun _ => true }
  names := {}
  tasks := .ofItems 1 [{ body := prediction (some ⟨"x", true⟩), name := "predict" }]

theorem code_asks_for_every_field_prediction :
    (∃ error, (prediction none).code = .error error ∧ error.field ∈ ["input"]) ∧
      ∃ text, predicting.text false = .ok text ∧
        ∀ task ∈ predicting.tasks.items, task.body.waiting = [] := by
  have htext : predicting.text false = .ok ((Script.ofTasks predicting.orderedTasks).text false) :=
    text_eq_ok_iff.mpr ⟨by cbv, by cbv, rfl⟩
  obtain ⟨hbody, hplan⟩ := code_asks_for_every_field
  obtain ⟨hfails, hfield⟩ := hbody (prediction none) (by decide)
  obtain ⟨error, herror⟩ := hfails.mpr (by decide)
  exact ⟨⟨error, herror, hfield error herror⟩, _, htext, hplan _ _ _ htext⟩

section Reports

variable {plan : Plan} {task : Task} {error : Unassigned}

theorem exists_named_iff {tasks : List Task} {P : Task → Prop} (htask : task ∈ tasks)
    (hnames : (tasks.map Task.name).Nodup) :
    (∃ other ∈ tasks, other.name = task.name ∧ P other) ↔ P task := by
  constructor
  · rintro ⟨other, hother, hname, h⟩
    rwa [← List.inj_on_of_nodup_map hnames hother htask hname]
  · exact fun h => ⟨task, htask, rfl, h⟩

theorem check_unassigned_iff (hconfigured : plan.failure? = none)
    (htask : task ∈ plan.tasks.items) (hnames : (plan.tasks.items.map Task.name).Nodup) :
    .unassigned task.name error ∈ plan.problems ↔
      task.body.isConfigured plan.env = .error error := by
  rw [unassigned_mem_problems_iff hconfigured]
  exact exists_named_iff htask hnames

theorem code_unassigned_iff (hacyclic : plan.graph.Acyclic) (htask : task ∈ plan.tasks.items)
    (hnames : (plan.tasks.items.map Task.name).Nodup) :
    .unassigned task.name error ∈ codeProblems plan.orderedTasks ↔
      task.body.code = .error error := by
  have hperm := perm_orderedTasks hacyclic
  rw [unassigned_mem_codeProblems_iff]
  exact exists_named_iff (hperm.mem_iff.mpr htask) ((hperm.map Task.name).nodup_iff.mpr hnames)

/-- A report that names the task names an answer of the task that asks for the field. -/
theorem text_unassigned_iff {comments : Bool} (hconfigured : plan.failure? = none)
    (htask : task ∈ plan.tasks.items) (hnames : (plan.tasks.items.map Task.name).Nodup) :
    (∃ problems, plan.text comments = .error problems ∧
        .unassigned task.name error ∈ problems.toList) ↔
      task.body.isConfigured plan.env = .error error ∨
        plan.problems = [] ∧ task.body.code = .error error := by
  rw [text_reports_iff, check_unassigned_iff hconfigured htask hnames]
  refine or_congr_right (and_congr_right fun hproblems => ?_)
  exact code_unassigned_iff (sound_of_problems_eq_nil hproblems).acyclic htask hnames

end Reports

/-- If the block succeeded, a task is reported for an unassigned field exactly when its check
asks for a waiting one, or when nothing else is wrong and any field waits; and the field that is
reported waits.  Whatever else is wrong, a plan with a waiting field gives no script. -/
theorem reports_unassigned_iff (plan : Plan) (comments : Bool) (task : Task)
    (hconfigured : plan.failure? = none) (htask : task ∈ plan.tasks.items)
    (hnames : (plan.tasks.items.map Task.name).Nodup) (hbuiltIn : task.body.isBuiltIn = true) :
    ((∃ problems error, plan.text comments = .error problems ∧
        .unassigned task.name error ∈ problems.toList) ↔
      task.body.asked ≠ [] ∨ plan.problems = [] ∧ task.body.waiting ≠ []) ∧
    (∀ problems error, plan.text comments = .error problems →
      .unassigned task.name error ∈ problems.toList → error.field ∈ task.body.waiting) ∧
    (task.body.waiting ≠ [] → ∃ problems, plan.text comments = .error problems) := by
  have hcheck := Body.lacks_isConfigured plan.env hbuiltIn
  have hcode := Body.lacks_code hbuiltIn
  refine ⟨?_, ?_, ?_⟩
  · rw [exists_comm, ← hcheck.exists_error_iff, ← hcode.exists_error_iff]
    simp only [text_unassigned_iff hconfigured htask hnames, exists_or, exists_and_left]
  · intro problems error htext hmem
    rcases (text_unassigned_iff hconfigured htask hnames).mp ⟨problems, htext, hmem⟩ with
      herror | ⟨_, herror⟩
    · exact Body.mem_waiting_of_asked (hcheck.of_error error herror)
    · exact hcode.of_error error herror
  · -- A text would need the code of the task, which asks for every field.
    intro hwaiting
    cases htext : plan.text comments with
    | error problems => exact ⟨problems, rfl⟩
    | ok text =>
        obtain ⟨code, hcode⟩ := exists_code_of_text htext htask
        exact absurd (Body.waiting_eq_nil_of_code hcode) hwaiting

/-- Three tasks that each lack a field.  The first assigns an invalid variable, so it is told
that it is configured incorrectly; the last lacks a field that only its code asks for. -/
def masked : Plan where
  env := { acceptsPath := fun _ => true }
  names := {}
  declared := .ofItems [⟨"not valid", false⟩, ⟨"m", true⟩]
  tasks := .ofItems 1 [
      { body := .loadModel { modelOutput := ⟨some ⟨"not valid", false⟩⟩ }
        name := "load" },
      { body := .saveModel { modelInput := ⟨some ⟨"m", true⟩⟩ }, name := "save" },
      { body := .compileModel
          { modelInput := ⟨some ⟨"m", true⟩⟩
            loss := ⟨some .sparseCategoricalCrossentropy⟩ }
        name := "compile" }]

theorem reports_unassigned_iff_masked :
    ∃ problems error, masked.text true = .error problems ∧
      .unassigned "save" error ∈ problems.toList ∧ error.field ∈ ["model_path"] := by
  obtain ⟨hreports, hfield, _⟩ := reports_unassigned_iff masked true
    { body := .saveModel { modelInput := ⟨some ⟨"m", true⟩⟩ }, name := "save" }
    rfl (.tail _ (.head _)) (by decide) (by decide)
  obtain ⟨problems, error, htext, hmem⟩ := hreports.mpr (.inl (by decide))
  exact ⟨problems, error, htext, hmem, hfield problems error htext hmem⟩

/-- A task may lack a field without being reported for it, even if the block succeeded. -/
theorem not_reports_every_unassigned :
    masked.text true =
        .error ⟨.invalidVariable "not valid",
          [.invalidTask .loadModel "load", .unassigned "save" ⟨"model_path"⟩]⟩ ∧
      masked.tasks.items.map (fun task => (task.name, task.body.waiting)) =
        [("load", ["model_path"]), ("save", ["model_path"]), ("compile", ["optimizer"])] ∧
      ¬ ∀ (plan : Plan) (comments : Bool) (task : Task), plan.failure? = none →
        task ∈ plan.tasks.items → (plan.tasks.items.map Task.name).Nodup →
        task.body.isBuiltIn = true →
          ((∃ problems error, plan.text comments = .error problems ∧
            .unassigned task.name error ∈ problems.toList) ↔ task.body.waiting ≠ []) := by
  have htext : masked.text true =
      .error ⟨.invalidVariable "not valid",
        [.invalidTask .loadModel "load", .unassigned "save" ⟨"model_path"⟩]⟩ := by cbv
  refine ⟨htext, by decide, fun hclaim => ?_⟩
  obtain ⟨problems, error, herror, hmem⟩ :=
    (hclaim masked true _ rfl (.tail _ (.tail _ (.head _))) (by decide) (by decide)).mpr (by decide)
  rw [htext] at herror
  obtain rfl := Except.error.inj herror
  simp [NonEmpty.toList] at hmem

end TaskScript.Plan
