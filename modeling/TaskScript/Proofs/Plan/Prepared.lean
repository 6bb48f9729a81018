/-
Plans that lack nothing.  If the block succeeded, the tasks run in the order they were declared,
all fields are assigned and the variables are declared and valid, then nothing can be wrong but
what the checks of the tasks refuse.
-/
import TaskScript.Proofs.Plan.Straight
import TaskScript.Proofs.Script.Layout
import TaskScript.Proofs.Task.Validity

namespace TaskScript

/-- A built-in task with all its fields assigned, which holds none but the given variables and
has something to add to the script. -/
structure Task.Complete (slots : List Variable) (task : Task) : Prop where
  builtIn : task.body.isBuiltIn = true
  written : task.body ≠ .empty
  waiting : task.body.waiting = []
  named : ∀ slot ∈ task.body.named, slot ∈ slots

namespace Task.Complete

variable {slots : List Variable} {task : Task} (hcomplete : task.Complete slots)

include hcomplete

theorem exists_code : ∃ code, task.body.code = .ok code :=
  (Body.lacks_code hcomplete.builtIn).exists_ok_of_forall_notMem fun name => by
    simp [hcomplete.waiting]

/-- Nothing but the rule of its kind is left to check. -/
theorem isConfigured_eq_check (hvalid : ∀ slot ∈ slots, slot.isValid = true) (env : Environment) :
    task.isConfigured env = task.body.check env := by
  have hchecked : ∀ name, name ∉ task.body.waitingInputs ++ task.body.waitingOutputs :=
    fun name h => by simpa [hcomplete.waiting] using Body.mem_waiting_of_checked (.inl h)
  obtain ⟨used, hused⟩ :=
    (Body.lacks_used hcomplete.builtIn).exists_ok_of_forall_notMem hchecked
  have hall : used.all Variable.isValid = true := by
    rw [List.all_eq_true]
    intro slot hslot
    have hnamed := (Body.covers_used hcomplete.builtIn hused).subset slot hslot
    exact hvalid slot (hcomplete.named slot hnamed)
  rw [Task.isConfigured, Body.isConfigured_eq, hused]
  exact if_pos hall

end Task.Complete

/-- What the check of a task, which may be refused, says. -/
structure Demand where
  kind : TaskKind
  task : String
  met : Bool
  deriving DecidableEq, Repr

def Demand.problem (demand : Demand) : Problem := .invalidTask demand.kind demand.task

/-- The checks of the tasks say that these demands are met or not, and pass otherwise. -/
inductive Checks (env : Environment) : List Task → List Demand → Prop
  | nil : Checks env [] []
  | passes {task : Task} {rest : List Task} {demands : List Demand}
      (hcheck : task.body.check env = .ok true) (hrest : Checks env rest demands) :
      Checks env (task :: rest) demands
  | asks {task : Task} {rest : List Task} {demands : List Demand} {met : Bool}
      (hcheck : task.body.check env = .ok met) (hrest : Checks env rest demands) :
      Checks env (task :: rest) (⟨task.kind, task.name, met⟩ :: demands)

theorem Checks.append {env : Environment} {first second : List Task} {demands more : List Demand}
    (hfirst : Checks env first demands) (hsecond : Checks env second more) :
    Checks env (first ++ second) (demands ++ more) := by
  induction hfirst with
  | nil => exact hsecond
  | passes hcheck _ ih => exact .passes hcheck ih
  | asks hcheck _ ih => exact .asks hcheck ih

namespace Plan

theorem taskProblem?_of_isConfigured {plan : Plan} {task : Task} {met : Bool}
    (hconfigured : task.isConfigured plan.env = .ok met) :
    plan.taskProblem? task = if met then none else some (.invalidTask task.kind task.name) := by
  rw [taskProblem?, hconfigured]
  cases met <;> rfl

theorem filterMap_taskProblem?_of_checks {plan : Plan} {tasks : List Task} {demands : List Demand}
    (hchecks : Checks plan.env tasks demands)
    (hconfigured : ∀ task ∈ tasks, task.isConfigured plan.env = task.body.check plan.env) :
    tasks.filterMap plan.taskProblem? = (demands.filter (!·.met)).map Demand.problem := by
  induction hchecks with
  | nil => rfl
  | @passes task rest demands hcheck _ ih =>
      have htask := (hconfigured task List.mem_cons_self).trans hcheck
      rw [List.filterMap_cons, taskProblem?_of_isConfigured htask]
      exact ih fun other hother => hconfigured other (List.mem_cons_of_mem task hother)
  | @asks task rest demands met hcheck _ ih =>
      have htask := (hconfigured task List.mem_cons_self).trans hcheck
      have hrest := ih fun other hother => hconfigured other (List.mem_cons_of_mem task hother)
      rw [List.filterMap_cons, taskProblem?_of_isConfigured htask, hrest]
      cases met <;> rfl

/-- Nothing is missing for the script. -/
structure Prepared (plan : Plan) : Prop extends plan.Straight where
  configured : plan.failure? = none
  complete : ∀ task ∈ plan.tasks.items, task.Complete plan.declared.items
  required : ∀ wanted ∈ plan.required.items, ∃ task ∈ plan.tasks.items, task.Assigns wanted

theorem variableProblems_eq_nil {plan : Plan}
    (hvalid : ∀ slot ∈ plan.declared.items, slot.isValid = true) : plan.variableProblems = [] := by
  rw [variableProblems, List.map_eq_nil_iff, List.filter_eq_nil_iff]
  intro slot hslot
  simp [hvalid slot hslot]

namespace Prepared

variable {plan : Plan} (hprepared : plan.Prepared)

include hprepared

theorem requiredProblems_eq_nil : plan.requiredProblems = [] := by
  rw [requiredProblems, List.map_eq_nil_iff, List.filter_eq_nil_iff]
  intro wanted hwanted
  obtain ⟨task, htask, assigned, hassigned, hslot⟩ := hprepared.required wanted hwanted
  rw [decide_eq_true_eq, not_not, mem_assignedNames_iff]
  exact ⟨task, htask, assigned, hassigned, wanted, hslot, rfl⟩

theorem importProblems_eq_nil (hdefault : plan.env.validateImports = .standard) :
    plan.importProblems = [] := by
  have hknown : ∀ statement ∈ Import.image :: CheckpointCallback.imports.items,
      statement.hasBlank = false := by decide
  have hchecks := hdefault.symm ▸ ImportValidator.checks_standard
  rw [importProblems, List.map_eq_nil_iff, List.eq_nil_iff_forall_not_mem]
  intro statement hrejected
  obtain ⟨hblank, task, htask, hmem⟩ := (mem_rejectedImports_iff hchecks).mp hrejected
  exact hblank
    (hknown statement (Body.mem_knownImports (hprepared.complete task htask).builtIn hmem))

theorem codeProblems_eq_nil : codeProblems plan.orderedTasks = [] := by
  rw [hprepared.orderedTasks_eq, codeProblems_eq_nil_iff]
  exact fun task htask => (hprepared.complete task htask).exists_code

/-- What is wrong and the tasks in the order of their declaration decide about the text. -/
theorem text_eq (comments : Bool) :
    plan.text comments =
      match NonEmpty.ofList? plan.problems with
      | some problems => .error problems
      | none => .ok ((Script.ofTasks plan.tasks.items).text comments) := by
  have hcode := NonEmpty.ofList?_eq_none_iff.mpr hprepared.codeProblems_eq_nil
  rw [text, script, hcode, hprepared.orderedTasks_eq]
  cases NonEmpty.ofList? plan.problems <;> rfl

section Valid

variable (hvalid : ∀ slot ∈ plan.declared.items, slot.isValid = true)

include hvalid

theorem problems_eq : plan.problems = plan.taskProblems ++ plan.importProblems := by
  simp [problems, configurationProblems, hprepared.configured, hprepared.lastProblems_eq_nil,
    hprepared.pregenerationProblems_eq_nil, hprepared.requiredProblems_eq_nil,
    variableProblems_eq_nil hvalid, hprepared.danglingProblems_eq_nil,
    hprepared.cycleProblems_eq_nil]

/-- The tasks that are refused are those whose demand is not met. -/
theorem taskProblems_eq {demands : List Demand}
    (hchecks : Checks plan.env plan.tasks.items demands) :
    plan.taskProblems = (demands.filter (!·.met)).map Demand.problem :=
  filterMap_taskProblem?_of_checks hchecks fun task htask =>
    (hprepared.complete task htask).isConfigured_eq_check hvalid plan.env

end Valid

end Prepared

/-- The plan lacks nothing, its variables are named by identifiers, and its tasks check these
demands. -/
structure Outlined (env : Environment) (demands : List Demand) (plan : Plan) : Prop
    extends plan.Prepared where
  env_eq : plan.env = env
  declared : ∀ slot ∈ plan.declared.items, ∃ name, Text.isIdentifier name = true ∧
    env.variableNamed name = slot
  checks : Checks env plan.tasks.items demands

namespace Outlined

variable {env : Environment} {demands : List Demand} {plan : Plan}
  (houtlined : plan.Outlined env demands) (hnames : env.acceptsName = Text.isIdentifier)

include houtlined hnames

/-- The demands that are not met, then the imports that are rejected. -/
theorem problems_eq_unmet_append :
    plan.problems = (demands.filter (!·.met)).map Demand.problem ++ plan.importProblems := by
  have hvalid : ∀ slot ∈ plan.declared.items, slot.isValid = true := by
    intro slot hslot
    obtain ⟨name, hname, rfl⟩ := houtlined.declared slot hslot
    rw [Environment.variableNamed, hnames]
    exact hname
  have henv := houtlined.env_eq
  rw [houtlined.problems_eq hvalid, houtlined.taskProblems_eq hvalid (henv ▸ houtlined.checks)]

variable (himports : env.validateImports = .standard)

include himports

theorem problems_eq_map_unmet :
    plan.problems = (demands.filter (!·.met)).map Demand.problem := by
  rw [houtlined.problems_eq_unmet_append hnames,
    houtlined.importProblems_eq_nil (houtlined.env_eq ▸ himports), List.append_nil]

theorem text_eq_ok (comments : Bool) (hmet : ∀ demand ∈ demands, demand.met = true) :
    plan.text comments = .ok ((Script.ofTasks plan.tasks.items).text comments) := by
  have hproblems : plan.problems = [] := by
    rw [houtlined.problems_eq_map_unmet hnames himports, List.map_eq_nil_iff,
      List.filter_eq_nil_iff]
    intro demand hdemand
    simp [hmet demand hdemand]
  rw [text_eq_ok_iff, houtlined.orderedTasks_eq]
  exact ⟨hproblems, houtlined.orderedTasks_eq ▸ houtlined.codeProblems_eq_nil, rfl⟩

theorem text_eq_error {demand : Demand} (hdemand : demand ∈ demands) (hunmet : demand.met = false)
    (comments : Bool) :
    ∃ problems, plan.text comments = .error problems ∧
      problems.toList = (demands.filter (!·.met)).map Demand.problem := by
  have hproblems := houtlined.problems_eq_map_unmet hnames himports
  have hne : plan.problems ≠ [] := by
    rw [hproblems]
    have hmem : demand ∈ demands.filter (!·.met) := List.mem_filter.mpr ⟨hdemand, by simp [hunmet]⟩
    exact List.ne_nil_of_mem (List.mem_map_of_mem hmem)
  obtain ⟨problems, hlist⟩ := NonEmpty.exists_eq_toList_of_ne_nil hne
  exact ⟨problems, text_eq_error_iff.mpr (.inl hlist), hlist ▸ hproblems⟩

end Outlined

end Plan

end TaskScript
