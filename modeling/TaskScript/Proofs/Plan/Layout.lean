/-
What the text of a plan is made of: the imports of its tasks, by the first task that needs
them, and a block for each task whose code is not blank, in the order the tasks run.
-/
import TaskScript.Proofs.Import.Reading
import TaskScript.Proofs.Plan.Outcome
import TaskScript.Proofs.Script.Layout

namespace TaskScript.Plan

/-- The imports of a plan that gives a text are valid. -/
theorem valid_of_text {plan : Plan} {comments : Bool} {text : String} {valid : Import → Prop}
    (hchecks : plan.env.validateImports.Checks valid) (htext : plan.text comments = .ok text)
    {statement : Import} (hstatement : statement ∈ plan.imports) : valid statement := by
  obtain ⟨hproblems, _⟩ := text_eq_ok_iff.mp htext
  simp only [problems, List.append_eq_nil_iff, and_assoc] at hproblems
  obtain ⟨_, _, _, _, _, _, himports, _⟩ := hproblems
  by_contra hinvalid
  have hrejected : statement ∈ plan.rejectedImports :=
    (mem_rejectedImports_iff hchecks).mpr ⟨hinvalid, mem_imports_iff.mp hstatement⟩
  rw [List.map_eq_nil_iff.mp himports] at hrejected
  cases hrejected

/-- A script has the imports at the top, each once, and below them a block for each task whose
code is not blank.  The imports are valid by the validator's own rule, and if this is the standard
one, every import has a line of its own. -/
theorem layout_exact (plan : Plan) (text : String) (htext : plan.text false = .ok text) :
    ∃ codes imports, plan.orderedTasks.Perm plan.tasks.items ∧
      List.Forall₂ (fun task code => task.body.code = .ok code) plan.orderedTasks codes ∧
      Script.FirstNeeded plan.orderedTasks imports ∧
      text = Script.layout imports (codes.filter fun code => !Text.allBlank code) ∧
      (∀ valid, plan.env.validateImports.Checks valid → ∀ statement ∈ imports, valid statement) ∧
      (plan.env.validateImports = .standard →
        (imports.map Import.code).Nodup ∧ ∀ line ∈ imports.map Import.code,
          Text.IsLine line ∧ ∃ rest, line = "import " ++ rest ∨ line = "from " ++ rest) := by
  obtain ⟨hproblems, hcode, hscript⟩ := text_eq_ok_iff.mp htext
  have hperm := perm_orderedTasks (sound_of_problems_eq_nil hproblems).acyclic
  obtain ⟨codes, hcodes, hblocks⟩ := Script.exists_codes (codeProblems_eq_nil_iff.mp hcode)
  have hneeded := Script.firstNeeded_firstOccurrences plan.orderedTasks
  have hvalid (valid : Import → Prop) (hchecks : plan.env.validateImports.Checks valid) :
      ∀ statement ∈ firstOccurrences (plan.orderedTasks.flatMap (·.body.imports.items)),
        valid statement := by
    intro statement hmem
    obtain ⟨task, htask, hstatement⟩ := (hneeded.mem_iff statement).mp hmem
    have himported := mem_imports_iff.mpr ⟨task, hperm.mem_iff.mp htask, hstatement⟩
    exact valid_of_text hchecks htext himported
  refine ⟨codes, _, hperm, hcodes, hneeded, ?_, hvalid, ?_⟩
  · rw [← hscript, Script.text_ofTasks, hblocks, List.flatMap_map]
  · intro hdefault
    have hblank := hvalid _ (hdefault.symm ▸ ImportValidator.checks_standard)
    refine ⟨?_, ?_⟩
    · refine hneeded.nodup.map_on fun left hleft right hright => ?_
      exact Import.code_injective (hblank left hleft) (hblank right hright)
    · intro line hline
      obtain ⟨statement, hstatement, rfl⟩ := List.mem_map.mp hline
      exact ⟨Import.isLine_code (hblank statement hstatement), statement.exists_code_eq⟩

/-- The first task runs last, and the second one has only blanks to add. -/
def sectioned : Plan where
  env := { acceptsPath := fun _ => true }
  names := {}
  tasks := .ofItems 1 [
      { body := .custom
          { imports := .ofList [{ source := "os" }, { source := "sys" }]
            code := .ok "a" }
        dependencies := .single ⟨1, 2⟩
        name := "a" },
      { body := .custom { imports := .single { source := "re" }, code := .ok " " }
        name := "b" },
      { body := .custom
          { imports := .ofList [{ source := "sys" }, { source := "os", alias? := "o" }]
            code := .ok "c" }
        name := "c" }]

theorem layout_exact_sectioned :
    sectioned.text false = .ok "import re\nimport sys\nimport os as o\nimport os\n\nc\n\na" ∧
      ∃ codes imports, Script.FirstNeeded sectioned.orderedTasks imports ∧
        List.Forall₂ (fun task code => task.body.code = .ok code) sectioned.orderedTasks codes ∧
        Script.layout imports (codes.filter fun code => !Text.allBlank code) =
          "import re\nimport sys\nimport os as o\nimport os\n\nc\n\na" ∧
        (imports.map Import.code).Nodup := by
  have htext : sectioned.text false =
      .ok "import re\nimport sys\nimport os as o\nimport os\n\nc\n\na" := by cbv
  obtain ⟨codes, imports, _, hcodes, hneeded, hlayout, _, hlines⟩ := layout_exact sectioned _ htext
  exact ⟨htext, codes, imports, hneeded, hcodes, hlayout.symm, (hlines rfl).1⟩

end TaskScript.Plan
