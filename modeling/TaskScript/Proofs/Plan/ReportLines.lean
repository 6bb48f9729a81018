/-
The lines of a report.  A report has a headline and an entry for each problem, and what an entry
adds to its own line are the line feeds of the texts it was given.  So the entries are the lines
as long as nothing in the plan holds a line feed, and a name that does hold one takes its entry
apart.
-/
import TaskScript.Proofs.Plan.Outcome
import TaskScript.Proofs.Problem.Message
import TaskScript.Proofs.Task.Identifier
import TaskScript.Proofs.Task.Lacking

namespace TaskScript

open Text

/-- The entry for a problem. -/
def Problem.entry (problem : Problem) : String := "  - " ++ problem.message

theorem Problem.feeds_entry (problem : Problem) :
    feeds problem.entry = feeds (String.join problem.texts) := by
  rw [entry, feeds_append, problem.feeds_message]
  exact Nat.zero_add _

namespace Problems

/-- The headline of a report, with the number of problems. -/
def headline (problems : Problems) : String :=
  s!"Script generation failed with {problems.length} error(s):"

theorem feeds_headline (problems : Problems) : feeds problems.headline = 0 := by
  unfold headline
  simp (disch := decide) [feeds_of_not_mem, feeds_repr]

/-- What a report should have for its lines. -/
def entries (problems : Problems) : List String :=
  problems.headline :: problems.toList.map Problem.entry

/-- The texts that the problems were given. -/
def texts (problems : Problems) : List String := problems.toList.flatMap Problem.texts

variable (problems : Problems)

theorem report_eq_ended : problems.report = ended problems.entries := by
  have hentry (problem : Problem) : s!"  - {problem.message}\n" = problem.entry ++ "\n" := rfl
  have hheadline : s!"Script generation failed with {problems.length} error(s):\n" =
      problems.headline ++ "\n" := by
    have hend : " error(s):\n" = " error(s):" ++ "\n" := rfl
    unfold headline
    simp only [toString, hend, String.append_assoc]
  unfold report
  simp only [hentry, hheadline]
  rw [ended, entries, List.map_cons, String.join_cons, List.map_map]
  rfl

theorem feeds_join_entries :
    feeds (String.join problems.entries) = feeds (String.join problems.texts) := by
  have hentries (found : List Problem) : feeds (String.join (found.map Problem.entry)) =
      feeds (String.join (found.flatMap Problem.texts)) := by
    induction found with
    | nil => rfl
    | cons problem rest ih =>
        rw [List.map_cons, String.join_cons, feeds_append, problem.feeds_entry, ih,
          List.flatMap_cons, String.join_append, feeds_append]
  rw [entries, String.join_cons, feeds_append, feeds_headline, Nat.zero_add, hentries, texts]

/-- A report has a line for its headline and for each problem, and one more for each line feed in
the texts that the problems were given. -/
theorem length_lines_report :
    (lines problems.report).length = problems.length + 1 + feeds (String.join problems.texts) := by
  rw [report_eq_ended, length_lines_ended, feeds_join_entries, entries, List.length_cons,
    List.length_map]
  rfl

theorem lines_report_eq_iff :
    lines problems.report = problems.entries ↔ ∀ text ∈ problems.texts, '\n' ∉ text.toList := by
  rw [report_eq_ended, lines_ended_eq_iff, ← feeds_join_eq_zero_iff, feeds_join_entries,
    feeds_join_eq_zero_iff]

end Problems

theorem Once.forall_mem_waiting {label : String} {α : Type} {field : Once label α}
    {P : String → Prop} :
    (∀ name ∈ field.waiting, P name) ↔ (field.isAssigned = false → P label) := by
  simp [Once.mem_waiting]

/-- No label of a field ends a line. -/
theorem Body.not_mem_of_mem_waiting (body : Body) :
    ∀ label ∈ body.waiting, '\n' ∉ label.toList := by
  cases body with
  | empty | enableEagerExecution | custom => exact nofun
  | _ =>
      simp +decide only [waiting, List.forall_mem_append, Once.forall_mem_waiting, implies_true,
        and_self]

namespace Plan

/-- A text that a plan was given: the name of a task or a variable, a component of an import that is
rejected, a field that a custom task lacks, or what the block failed with. -/
inductive Given (plan : Plan) : String → Prop
  | task {task : Task} : task ∈ plan.tasks.items → Given plan task.name
  | field {task : Task} {error : Unassigned} : task ∈ plan.tasks.items →
      task.body.isBuiltIn = false →
      task.isConfigured plan.env = .error error ∨ task.body.code = .error error →
      Given plan error.field
  | component {statement : Import} {component : String} : statement ∈ plan.rejectedImports →
      component ∈ statement.components → Given plan component
  | declared {slot : Variable} : slot ∈ plan.declared.items → Given plan slot.name
  | required {wanted : Variable} : wanted ∈ plan.required.items → Given plan wanted.name
  | failure {failure : Failure} {text : String} : plan.failure? = some failure →
      text ∈ failure.texts → Given plan text

variable {plan : Plan} {problem : Problem} {found : List Problem} {task : Task} {text : String}

theorem Given.name_task (position : Fin plan.tasks.size) :
    plan.Given (plan.tasks.task position).name :=
  .task (List.mem_of_getElem? (TaskList.getElem?_items position))

/-- What a task lacks is a field of a custom task, or one whose label ends no line. -/
theorem Given.of_lacking {error : Unassigned} (htask : task ∈ plan.tasks.items)
    (herror : task.isConfigured plan.env = .error error ∨ task.body.code = .error error)
    (hfeed : '\n' ∈ error.field.toList) : plan.Given error.field := by
  cases hbuiltIn : task.body.isBuiltIn with
  | false => exact .field htask hbuiltIn herror
  | true =>
      have hwaiting : error.field ∈ task.body.waiting := by
        rcases herror with hchecked | hcode
        · exact Body.mem_waiting_of_asked
            ((Body.lacks_isConfigured plan.env hbuiltIn).of_error error hchecked)
        · exact (Body.lacks_code hbuiltIn).of_error error hcode
      exact absurd hfeed (task.body.not_mem_of_mem_waiting _ hwaiting)

theorem Given.of_unassigned {error : Unassigned} (htask : task ∈ plan.tasks.items)
    (herror : task.isConfigured plan.env = .error error ∨ task.body.code = .error error)
    (htext : text ∈ (Problem.unassigned task.name error).texts) (hfeed : '\n' ∈ text.toList) :
    plan.Given text := by
  rcases List.mem_pair.mp htext with rfl | rfl
  · exact .task htask
  · exact .of_lacking htask herror hfeed

theorem LastFinding.given (hfound : plan.LastFinding found) (hproblem : problem ∈ found)
    (htext : text ∈ problem.texts) : plan.Given text := by
  cases hfound with
  | unmarked | free => cases hproblem
  | foreign =>
      obtain rfl := List.mem_singleton.mp hproblem
      cases htext
  | @needed marked =>
      obtain rfl := List.mem_singleton.mp hproblem
      rcases List.mem_cons.mp htext with rfl | hdependent
      · exact .name_task marked
      · obtain ⟨other, _, rfl⟩ := List.mem_map.mp hdependent
        exact .name_task other

theorem given_of_mem_problems (hproblem : problem ∈ plan.problems)
    (htext : text ∈ problem.texts) (hfeed : '\n' ∈ text.toList) : plan.Given text := by
  simp only [problems, List.mem_append] at hproblem
  rcases hproblem with (((((((h | h) | h) | h) | h) | h) | h) | h) | h
  · obtain ⟨failure, hfailure, rfl⟩ := List.mem_map.mp h
    rcases Problem.texts_ofFailure htext with htext | rfl
    · exact .failure (Option.mem_toList.mp hfailure) htext
    · exact absurd hfeed (by decide)
  · exact plan.lastFinding.given h htext
  · obtain ⟨_, rfl⟩ := plan.pregenerationFinding.mem_imp h
    cases htext
  · obtain ⟨wanted, hwanted, rfl⟩ := List.mem_map.mp h
    obtain rfl := List.mem_singleton.mp htext
    exact .required (List.mem_filter.mp hwanted).1
  · obtain ⟨slot, hslot, rfl⟩ := List.mem_map.mp h
    obtain rfl := List.mem_singleton.mp htext
    exact .declared (List.mem_filter.mp hslot).1
  · obtain ⟨task, htask, hfound⟩ := List.mem_filterMap.mp h
    rcases taskProblem?_eq_some_iff.mp hfound with ⟨_, rfl⟩ | ⟨error, herror, rfl⟩
    · obtain rfl := List.mem_singleton.mp htext
      exact .task htask
    · exact .of_unassigned htask (.inl herror) htext hfeed
  · obtain ⟨statement, hstatement, rfl⟩ := List.mem_map.mp h
    exact .component hstatement htext
  · obtain ⟨task, htask, hdangling⟩ := List.mem_flatMap.mp h
    obtain ⟨_, _, rfl⟩ := List.mem_map.mp hdangling
    obtain rfl := List.mem_singleton.mp htext
    exact .task htask
  · obtain ⟨cycle, _, rfl⟩ := List.mem_map.mp h
    obtain ⟨position, _, rfl⟩ := List.mem_map.mp htext
    exact .name_task position

theorem given_of_mem_codeProblems (hproblem : problem ∈ codeProblems plan.orderedTasks)
    (htext : text ∈ problem.texts) (hfeed : '\n' ∈ text.toList) : plan.Given text := by
  obtain ⟨task, htask, error, herror, rfl⟩ := mem_codeProblems_iff.mp hproblem
  obtain ⟨position, _, rfl⟩ := List.mem_map.mp htask
  exact .of_unassigned (List.mem_of_getElem? (TaskList.getElem?_items position)) (.inr herror)
    htext hfeed

/-- A text in a report that holds a line feed is one that the plan was given. -/
theorem given_of_mem_texts {comments : Bool} {problems : Problems}
    (hreport : plan.text comments = .error problems) (htext : text ∈ problems.texts)
    (hfeed : '\n' ∈ text.toList) : plan.Given text := by
  obtain ⟨problem, hproblem, htext⟩ := List.mem_flatMap.mp htext
  rcases text_eq_error_iff.mp hreport with h | ⟨_, h⟩
  · exact given_of_mem_problems (h ▸ hproblem) htext hfeed
  · exact given_of_mem_codeProblems (h ▸ hproblem) htext hfeed

/-- The lines of a report are its headline, which counts the problems, and those of an entry for
each problem, in their order.  There is one more than problems and one for each line feed in the
texts that the problems were given, so an entry is a line exactly when none of its texts holds a
line feed; and these come from the plan, so a plan that was given none has a report with a line
for each problem. -/
theorem lines_report_exact (plan : Plan) (comments : Bool) (problems : Problems)
    (hreport : plan.text comments = .error problems) :
    lines problems.report =
        problems.headline :: problems.toList.flatMap (fun problem => linesOf problem.entry) ∧
      (lines problems.report).length =
        problems.length + 1 + feeds (String.join problems.texts) ∧
      (lines problems.report = problems.headline :: problems.toList.map Problem.entry ↔
        ∀ problem ∈ problems.toList, ∀ text ∈ problem.texts, '\n' ∉ text.toList) ∧
      ((∀ text, plan.Given text → '\n' ∉ text.toList) →
        lines problems.report = problems.headline :: problems.toList.map Problem.entry) := by
  have hiff := problems.lines_report_eq_iff
  refine ⟨?_, problems.length_lines_report, ?_, fun hplain => hiff.mpr fun text htext hfeed => ?_⟩
  · have hheadline := linesOf_of_not_mem (feeds_eq_zero_iff.mp problems.feeds_headline)
    rw [Problems.report_eq_ended, lines_ended, Problems.entries, List.flatMap_cons, hheadline,
      List.flatMap_map]
    rfl
  · simpa only [Problems.entries, Problems.texts, List.forall_mem_flatMap] using hiff
  · exact hplain text (given_of_mem_texts hreport htext hfeed) hfeed

/-- A variable is refused, and a task under the name waits for its fields. -/
def unsaved (name : String) : Plan where
  env := { acceptsPath := fun _ => true }
  names := {}
  declared := .ofItems [⟨"not valid", false⟩]
  tasks := .ofItems 1 [{ body := .saveModel {}, name }]

def unsavedProblems (name : String) : Problems :=
  ⟨.invalidVariable "not valid", [.unassigned name ⟨"model_input"⟩]⟩

theorem text_unsaved (name : String) :
    (unsaved name).text false = .error (unsavedProblems name) := by
  cbv

theorem lines_report_exact_unsaved :
    (unsaved "save").text false = .error (unsavedProblems "save") ∧
      lines (unsavedProblems "save").report =
        (unsavedProblems "save").headline ::
          (unsavedProblems "save").toList.map Problem.entry ∧
      (unsaved "save\nmodel").text false = .error (unsavedProblems "save\nmodel") ∧
      (lines (unsavedProblems "save\nmodel").report).length = 4 := by
  obtain ⟨_, _, _, hplain⟩ := lines_report_exact _ _ _ (text_unsaved "save")
  obtain ⟨_, hlength, _, _⟩ := lines_report_exact _ _ _ (text_unsaved "save\nmodel")
  refine ⟨text_unsaved _, hplain fun text hgiven => ?_, text_unsaved _, hlength.trans (by decide)⟩
  cases hgiven with
  | task htask =>
      obtain rfl := List.mem_singleton.mp htask
      decide
  | field htask hcustom =>
      obtain rfl := List.mem_singleton.mp htask
      cases hcustom
  | component hrejected => cases hrejected
  | declared hslot =>
      obtain rfl := List.mem_singleton.mp hslot
      decide
  | required hwanted => cases hwanted
  | failure hfailure => cases hfailure

/-- A line feed in the name of a task takes its entry apart. -/
theorem not_always_one_line_each :
    ¬ ∀ (plan : Plan) (comments : Bool) (problems : Problems),
      plan.text comments = .error problems →
        (lines problems.report).length = problems.length + 1 := by
  intro hclaim
  have hlength := hclaim _ _ _ (text_unsaved "save\nmodel")
  rw [Problems.length_lines_report] at hlength
  exact absurd hlength (by decide)

end Plan

end TaskScript
