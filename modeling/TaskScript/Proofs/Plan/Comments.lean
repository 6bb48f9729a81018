/-
The comments in the text of a plan.  Asking for them changes neither the problems that are
reported nor anything else in the script.
-/
import TaskScript.Proofs.Plan.Outcome
import TaskScript.Proofs.Script.Comments

namespace TaskScript.Plan

open Text

/-- Comments change nothing but the lines they add.  The same problems are reported with comments
and without; a script with comments has one for each section, in their order and directly above
the code, and is the script without comments once these lines are gone and its ends are trimmed.
A comment is one line, whatever the name of the task is. -/
theorem comments_add_only_lines (plan : Plan) :
    (∀ problems, plan.text true = .error problems ↔ plan.text false = .error problems) ∧
    (∀ commented, plan.text true = .ok commented → ∃ lines,
      Line.Commented (Script.ofTasks plan.orderedTasks).sections lines ∧
        commented = Line.joined true lines ∧
        plan.text false = .ok (trim (Line.joined false lines))) ∧
    ∀ part : Section,
      part.heading = "# " ++ part.kind.name ++ " task '" ++ comment part.task ++ "'" ∧
        (∀ c ∈ part.heading.toList,
          isControl c = false ∧ c ≠ '\u2028' ∧ c ≠ '\u2029') ∧
        ((∀ c ∈ part.task.toList, isControl c = false ∧ c ≠ '\u2028' ∧ c ≠ '\u2029') →
          comment part.task = part.task) := by
  refine ⟨fun problems => ?_, fun commented hcommented => ?_,
    fun part => ⟨rfl, ?_, fun hclean => ?_⟩⟩
  · rw [text_eq_error_iff, text_eq_error_iff]
  · obtain ⟨hproblems, hcode, rfl⟩ := text_eq_ok_iff.mp hcommented
    obtain ⟨lines, hlines, hshown, hkept⟩ :=
      Script.exists_lines fun part hpart => Script.allBlank_of_mem_sections hpart
    exact ⟨lines, hlines, hshown, text_eq_ok_iff.mpr ⟨hproblems, hcode, hkept⟩⟩
  · exact quiet_iff.mp part.quiet_heading
  · exact comment_of_quiet (quiet_iff.mpr hclean)

/-- The first task has blank lines in front of its code and a line feed in its name, the second
has nothing to add, and the code of the third ends with blanks. -/
def annotated : Plan where
  env := { acceptsPath := fun _ => true }
  names := {}
  tasks := .ofItems 1 [
      { body := .runPlugin
          { functionName := ⟨some "run"⟩
            functionDefinition := ⟨some "def run(): pass"⟩
            functionInputs := ⟨some []⟩
            functionOutputs := ⟨some []⟩ }
        name := "a\nb" },
      { body := .custom { code := .ok " " }, name := "b" },
      { body := .custom { code := .ok "x \n" }, name := "c" }]

theorem comments_add_only_lines_annotated :
    (∃ commented lines, annotated.text true = .ok commented ∧
      Line.Commented (Script.ofTasks annotated.orderedTasks).sections lines ∧
      commented = Line.joined true lines ∧
      annotated.text false = .ok (trim (Line.joined false lines))) ∧
      comment "a b" = "a b" := by
  obtain ⟨_, hlines, hheading⟩ := comments_add_only_lines annotated
  obtain ⟨commented, htext⟩ : ∃ commented, annotated.text true = .ok commented :=
    ⟨(Script.ofTasks annotated.orderedTasks).text true,
      text_eq_ok_iff.mpr ⟨by cbv, by cbv, rfl⟩⟩
  obtain ⟨lines, hcommented, hshown, hkept⟩ := hlines commented htext
  exact ⟨⟨commented, lines, htext, hcommented, hshown, hkept⟩,
    (hheading { kind := .base, task := "a b", code := "" }).2.2
      (quiet_iff.mp (by decide : Quiet "a b"))⟩

end TaskScript.Plan
