/-
What the checks of the tasks keep out of a script.  The check of a task covers all variables of
its fields, so a script names only variables that were checked and found valid.
-/
import TaskScript.Proofs.Plan.Outcome
import TaskScript.Proofs.Task.Template
import TaskScript.Proofs.Task.Validity

namespace TaskScript.Plan

/-- A task whose fields are all assigned passes its check exactly when all its variables are
valid and the rule of its kind holds.  A script is made of the code of such tasks, and each
variable that the code names has the name of a variable that was found valid. -/
theorem checks_cover_code :
    (∀ (env : Environment) (body : Body), body.isBuiltIn = true → body.waiting = [] →
      body.NamesAgree → ∃ passed, body.isConfigured env = .ok passed ∧
        (passed = true ↔ (∀ slot ∈ body.named, slot.isValid = true) ∧ body.Rule env)) ∧
    ∀ (plan : Plan) (comments : Bool) (text : String), plan.text comments = .ok text →
      text = (Script.ofTasks plan.orderedTasks).text comments ∧
      ∀ task ∈ plan.tasks.items, ∃ pieces, task.body.pieces = .ok pieces ∧
        task.body.code = .ok (Piece.render pieces) ∧
        ∀ slot, .name slot ∈ pieces →
          (∃ checked ∈ task.body.named, checked.name = slot.name ∧ checked.isValid = true) ∧
          (task.body.NamesAgree → slot.isValid = true) := by
  refine ⟨fun env body => Body.exists_isConfigured_eq_ok, ?_⟩
  intro plan comments text htext
  refine ⟨(text_eq_ok_iff.mp htext).2.2.symm, fun task htask => ?_⟩
  obtain ⟨code, hcode⟩ := exists_code_of_text htext htask
  obtain ⟨pieces, hpieces, rfl⟩ := task.body.prints_code.exists_pieces hcode
  refine ⟨pieces, hpieces, hcode, fun slot hslot => ?_⟩
  have hnamed : slot ∈ task.body.named :=
    task.body.namesOnly_pieces pieces hpieces slot (Piece.mem_slots.mpr hslot)
  obtain ⟨checked, hchecked, hname, hvalid⟩ :=
    Body.exists_valid_of_isConfigured (isConfigured_of_text htext htask) hnamed
  refine ⟨⟨checked, hchecked, hname, hvalid⟩, fun hagree => ?_⟩
  rw [← hagree checked hchecked slot hnamed hname]
  exact hvalid

/-- Fits a model with a callback and validation data. -/
def fitting : Body :=
  .train
    { modelInput := ⟨some ⟨"m", true⟩⟩
      trainInput := ⟨some ⟨"x", true⟩⟩
      trainOutput := ⟨some ⟨"y", true⟩⟩
      validationInput := some ⟨"u", true⟩
      validationOutput := some ⟨"v", true⟩
      callbacks := [⟨"c", true⟩] }

def fitted : Plan where
  env := { acceptsPath := fun _ => true }
  names := {}
  tasks := .ofItems 1 [{ body := fitting, name := "fit" }]

theorem checks_cover_code_fitted :
    (∃ passed, fitting.isConfigured fitted.env = .ok passed ∧
      (passed = true ↔ (∀ slot ∈ fitting.named, slot.isValid = true) ∧ fitting.Rule fitted.env)) ∧
    ∃ text, fitted.text false = .ok text ∧ ∃ pieces, fitting.pieces = .ok pieces ∧
      .name ⟨"c", true⟩ ∈ pieces ∧ ∀ slot, .name slot ∈ pieces → slot.isValid = true := by
  have htext : fitted.text false = .ok ((Script.ofTasks fitted.orderedTasks).text false) :=
    text_eq_ok_iff.mpr ⟨by cbv, by cbv, rfl⟩
  obtain ⟨hcheck, hplan⟩ := checks_cover_code
  obtain ⟨_, htasks⟩ := hplan fitted false _ htext
  obtain ⟨pieces, hpieces, _, hslots⟩ := htasks { body := fitting, name := "fit" } (.head _)
  refine ⟨hcheck fitted.env fitting (by decide) (by decide) (by decide), _, htext, pieces, hpieces,
    ?_, fun slot hslot => (hslots slot hslot).2 (by decide)⟩
  obtain rfl := Except.ok.inj hpieces
  exact Piece.mem_slots.mp (by decide)

end TaskScript.Plan
