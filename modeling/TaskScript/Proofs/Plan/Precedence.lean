/-
Which of two tasks without a dependency between them comes first in a script.  It is the one
declared first, unless that one waits for a task that is declared and emitted after the other.
There are plans for which no order keeps all such pairs as they were declared; where there is one,
it is the order of the script.
-/
import TaskScript.Proofs.Graph.Precedence
import TaskScript.Proofs.Plan.Ending

namespace TaskScript

open Relation

namespace TaskList

variable {tasks : TaskList} {order : List (Fin tasks.size)} {source target : Fin tasks.size}

/-- Neither of two tasks depends on the other, be it through further tasks. -/
structure Unordered (tasks : TaskList) (first second : Fin tasks.size) : Prop where
  not_requires : ¬ tasks.Requires first second
  not_required : ¬ tasks.Requires second first

/-- All tasks, each of them once and behind what it depends on. -/
structure Respects (tasks : TaskList) (order : List (Fin tasks.size)) : Prop where
  perm : order.Perm tasks.positions
  behind : ∀ task dependency, tasks.DependsOn task dependency →
    order.idxOf dependency < order.idxOf task

/-- Of two tasks of which neither depends on the other, the one declared first stands in front. -/
def KeepsDeclaration (tasks : TaskList) (order : List (Fin tasks.size)) : Prop :=
  ∀ first second, first < second → tasks.Unordered first second →
    order.idxOf first < order.idxOf second

theorem unordered_dependencyGraph : tasks.dependencyGraph.Unordered source target ↔
    tasks.Unordered source target := by
  constructor
  · intro h
    exact ⟨fun h' => h.not_back (transGen_dependencyGraph.mpr h'),
      fun h' => h.not_forward (transGen_dependencyGraph.mpr h')⟩
  · intro h
    exact ⟨fun h' => h.not_required (transGen_dependencyGraph.mp h'),
      fun h' => h.not_requires (transGen_dependencyGraph.mp h')⟩

theorem isOrdering_dependencyGraph : tasks.dependencyGraph.IsOrdering order ↔
    tasks.Respects order := by
  constructor
  · intro h
    refine ⟨h.perm, fun task dependency hdepends => ?_⟩
    exact h.forward dependency task (hasEdge_dependencyGraph.mpr hdepends)
  · intro h
    refine ⟨h.perm, fun source target hedge => ?_⟩
    exact h.behind target source (hasEdge_dependencyGraph.mp hedge)

section Order

variable {first second : Fin tasks.size} (hacyclic : tasks.dependencyGraph.Acyclic)

include hacyclic

theorem idxOf_lt_iff_not_waiting (hlt : first < second)
    (hunordered : tasks.Unordered first second) :
    tasks.dependencyGraph.order.idxOf first < tasks.dependencyGraph.order.idxOf second ↔
      ¬ ∃ awaited, tasks.Requires first awaited ∧ second < awaited ∧
        tasks.dependencyGraph.order.idxOf second < tasks.dependencyGraph.order.idxOf awaited := by
  have hpassed := Graph.idxOf_order_lt_iff hacyclic hlt (unordered_dependencyGraph.mpr hunordered)
  have hne := (Graph.isOrdering_order hacyclic).idxOf_ne hlt.ne
  simp only [transGen_dependencyGraph] at hpassed
  rw [← hpassed]
  omega

/-- What is declared in front of the other task, or required by it, is emitted in front of it. -/
theorem idxOf_lt_of_awaited (hlt : first < second) (hunordered : tasks.Unordered first second)
    (hawaited : ∀ awaited, tasks.Requires first awaited →
      awaited < second ∨ tasks.Requires second awaited) :
    tasks.dependencyGraph.order.idxOf first < tasks.dependencyGraph.order.idxOf second := by
  rw [idxOf_lt_iff_not_waiting hacyclic hlt hunordered]
  rintro ⟨awaited, hrequires, hlater, hbehind⟩
  rcases hawaited awaited hrequires with hearlier | hrequired
  · exact lt_asymm hlater hearlier
  · exact Nat.lt_asymm hbehind ((Graph.isOrdering_order hacyclic).forward_of_transGen
      (transGen_dependencyGraph.mpr hrequired))

theorem order_eq_of_keepsDeclaration (hrespects : tasks.Respects order)
    (hkeeps : tasks.KeepsDeclaration order) : tasks.dependencyGraph.order = order := by
  refine Graph.order_eq_of_keepsNumbering (isOrdering_dependencyGraph.mpr hrespects) ?_ hacyclic
  intro first second hlt hunordered
  exact hkeeps first second hlt (unordered_dependencyGraph.mp hunordered)

end Order

end TaskList

namespace Plan

variable {plan : Plan}

theorem graph_of_unmarked (hpregeneration : plan.pregenerationLast = none)
    (hlast : plan.last = none) : plan.graph = plan.tasks.dependencyGraph := by
  rw [graph_of_last_eq_none hlast, pregenerationLast?, hpregeneration]
  rfl

/-- In a script without markers, of two tasks of which neither depends on the other the one
declared first comes first, unless it requires a task that is declared after the other one and
emitted after it; so it does where all that it requires is declared before the other one or
required by it.  Whenever some order keeps all such pairs as they were declared, it is that of the
script. -/
theorem declared_first_unless_waiting (plan : Plan) (comments : Bool) (text : String)
    (hpregeneration : plan.pregenerationLast = none) (hlast : plan.last = none)
    (htext : plan.text comments = .ok text) :
    text = (Script.ofTasks (plan.graph.order.map plan.tasks.task)).text comments ∧
      plan.tasks.Respects plan.graph.order ∧
      (∀ first second, first < second → plan.tasks.Unordered first second →
        (plan.graph.order.idxOf first < plan.graph.order.idxOf second ↔
          ¬ ∃ awaited, plan.tasks.Requires first awaited ∧ second < awaited ∧
            plan.graph.order.idxOf second < plan.graph.order.idxOf awaited)) ∧
      (∀ first second, first < second → plan.tasks.Unordered first second →
        (∀ awaited, plan.tasks.Requires first awaited →
          awaited < second ∨ plan.tasks.Requires second awaited) →
        plan.graph.order.idxOf first < plan.graph.order.idxOf second) ∧
      ∀ other, plan.tasks.Respects other → plan.tasks.KeepsDeclaration other →
        plan.graph.order = other := by
  obtain ⟨hproblems, _, hscript⟩ := text_eq_ok_iff.mp htext
  have hgraph := graph_of_unmarked hpregeneration hlast
  have hacyclic := hgraph ▸ (sound_of_problems_eq_nil hproblems).acyclic
  have hordered : plan.orderedTasks = plan.tasks.dependencyGraph.order.map plan.tasks.task := by
    rw [orderedTasks, hgraph]
  rw [hgraph, ← hordered]
  have hrespects := TaskList.isOrdering_dependencyGraph.mp (Graph.isOrdering_order hacyclic)
  refine ⟨hscript.symm, hrespects, ?_, ?_, ?_⟩
  · exact fun first second => TaskList.idxOf_lt_iff_not_waiting hacyclic
  · exact fun first second => TaskList.idxOf_lt_of_awaited hacyclic
  · exact fun other => TaskList.order_eq_of_keepsDeclaration hacyclic

/-- Three tasks, of which the first requires the last. -/
def crossed : Plan where
  env := { acceptsPath := fun _ => true }
  names := {}
  tasks := .ofItems 1 [
      { body := .custom { code := .ok "a" }, dependencies := .single ⟨1, 2⟩, name := "a" },
      { body := .custom { code := .ok "b" }, name := "b" },
      { body := .custom { code := .ok "c" }, name := "c" }]

namespace crossed

def a : Fin crossed.tasks.size := ⟨0, by decide⟩

def b : Fin crossed.tasks.size := ⟨1, by decide⟩

def c : Fin crossed.tasks.size := ⟨2, by decide⟩

theorem text_eq : crossed.text false = .ok "b\n\nc\n\na" := by cbv

theorem requires_a_c : crossed.tasks.Requires a c := .single (by decide)

theorem eq_of_requires {task dependency : Fin crossed.tasks.size}
    (hrequires : crossed.tasks.Requires task dependency) : task = a ∧ dependency = c := by
  have hdepends : ∀ task dependency, crossed.tasks.DependsOn task dependency →
      task = a ∧ dependency = c := by decide
  obtain ⟨_, hfirst, _⟩ := TransGen.head'_iff.mp hrequires
  obtain ⟨_, _, hlast⟩ := TransGen.tail'_iff.mp hrequires
  exact ⟨(hdepends _ _ hfirst).1, (hdepends _ _ hlast).2⟩

theorem not_requires_b (task : Fin crossed.tasks.size) : ¬ crossed.tasks.Requires task b :=
  fun h => absurd (eq_of_requires h).2 (by decide)

theorem not_requires_of_b (task : Fin crossed.tasks.size) : ¬ crossed.tasks.Requires b task :=
  fun h => absurd (eq_of_requires h).1 (by decide)

/-- In declaration order `b` stands behind `a` and in front of `c`, which `a` requires. -/
theorem not_keepsDeclaration {order : List (Fin crossed.tasks.size)}
    (hrespects : crossed.tasks.Respects order) : ¬ crossed.tasks.KeepsDeclaration order := by
  intro hkeeps
  have hab := hkeeps a b (by decide) ⟨not_requires_b a, not_requires_of_b a⟩
  have hbc := hkeeps b c (by decide) ⟨not_requires_of_b c, not_requires_b c⟩
  have hca := hrespects.behind a c (by decide)
  omega

end crossed

theorem declared_first_unless_waiting_crossed :
    crossed.pregenerationLast = none ∧ crossed.last = none ∧
      crossed.text false = .ok "b\n\nc\n\na" ∧
      crossed.tasks.Requires crossed.a crossed.c ∧
      ¬ crossed.graph.order.idxOf crossed.a < crossed.graph.order.idxOf crossed.b ∧
      crossed.graph.order.idxOf crossed.b < crossed.graph.order.idxOf crossed.c := by
  obtain ⟨_, _, hiff, hkept, _⟩ :=
    declared_first_unless_waiting crossed false _ rfl rfl crossed.text_eq
  have hbc := hkept crossed.b crossed.c (by decide)
    ⟨crossed.not_requires_of_b _, crossed.not_requires_b _⟩
    fun awaited h => absurd h (crossed.not_requires_of_b awaited)
  have hab := hiff crossed.a crossed.b (by decide)
    ⟨crossed.not_requires_b _, crossed.not_requires_of_b _⟩
  refine ⟨rfl, rfl, crossed.text_eq, crossed.requires_a_c, ?_, hbc⟩
  rw [hab, not_not]
  exact ⟨crossed.c, crossed.requires_a_c, by decide, hbc⟩

/-- The script of such a plan does not keep the order of declaration, and neither would any other
order that respects the dependencies. -/
theorem not_always_keepsDeclaration :
    (¬ ∀ (plan : Plan) (comments : Bool) (text : String), plan.pregenerationLast = none →
      plan.last = none → plan.text comments = .ok text →
        plan.tasks.KeepsDeclaration plan.graph.order) ∧
      ∀ order, crossed.tasks.Respects order → ¬ crossed.tasks.KeepsDeclaration order := by
  refine ⟨?_, fun order => crossed.not_keepsDeclaration⟩
  intro hkeeps
  have hacyclic : crossed.graph.Acyclic := (Graph.findCycle?_eq_none_iff _).mp (by cbv)
  have hrespects : crossed.tasks.Respects crossed.graph.order :=
    TaskList.isOrdering_dependencyGraph.mp (Graph.isOrdering_order hacyclic)
  exact crossed.not_keepsDeclaration hrespects
    (hkeeps crossed false _ rfl rfl crossed.text_eq)

end Plan

end TaskScript
