/-
What the text of a script without comments is made of: the imports, each once and where the
tasks first need it, and the code of the tasks that is not blank.  Names and dependencies of
the tasks do not show in it.
-/
import Mathlib.Data.List.Basic
import Mathlib.Data.List.Induction
import TaskScript.Script

namespace TaskScript

section FirstOccurrences

variable {α β : Type} [DecidableEq α]

theorem firstOccurrences_concat (items : List α) (item : α) :
    firstOccurrences (items ++ [item]) =
      if item ∈ firstOccurrences items then firstOccurrences items
      else firstOccurrences items ++ [item] := by
  rw [firstOccurrences, List.foldl_append]
  rfl

@[simp] theorem mem_firstOccurrences_iff {items : List α} {item : α} :
    item ∈ firstOccurrences items ↔ item ∈ items := by
  induction items using List.reverseRecOn with
  | nil => rfl
  | append_singleton items last ih =>
      rw [firstOccurrences_concat, List.mem_append, ← ih, List.mem_singleton]
      split
      · rename_i hlast
        refine ⟨.inl, ?_⟩
        rintro (hitem | rfl)
        · exact hitem
        · exact hlast
      · rw [List.mem_append, List.mem_singleton]

/-- The occurrences that are kept come in the order of the list. -/
theorem pairwise_firstOccurrences (items : List α) :
    (firstOccurrences items).Pairwise fun earlier later =>
      items.idxOf earlier < items.idxOf later := by
  induction items using List.reverseRecOn with
  | nil => exact .nil
  | append_singleton items last ih =>
      have hkept : (firstOccurrences items).Pairwise fun earlier later =>
          (items ++ [last]).idxOf earlier < (items ++ [last]).idxOf later := by
        refine ih.imp_of_mem fun {earlier later} hearlier hlater hlt => ?_
        rw [List.idxOf_append_of_mem (mem_firstOccurrences_iff.mp hearlier),
          List.idxOf_append_of_mem (mem_firstOccurrences_iff.mp hlater)]
        exact hlt
      rw [firstOccurrences_concat]
      split
      · exact hkept
      · rename_i hnew
        refine List.pairwise_append.mpr ⟨hkept, List.pairwise_singleton _ _, ?_⟩
        intro earlier hearlier later hlater
        obtain rfl := List.mem_singleton.mp hlater
        rw [mem_firstOccurrences_iff] at hearlier hnew
        rw [List.idxOf_append_of_mem hearlier, List.idxOf_append_of_notMem hnew]
        have hlt := List.idxOf_lt_length_of_mem hearlier
        omega

theorem nodup_firstOccurrences (items : List α) : (firstOccurrences items).Nodup :=
  (pairwise_firstOccurrences items).imp fun hlt heq => by
    rw [heq] at hlt
    exact Nat.lt_irrefl _ hlt

example : firstOccurrences [3, 1, 3, 2, 1] = [3, 1, 2] := by decide

end FirstOccurrences

/-- All that the built-in kinds import. -/
theorem Body.mem_knownImports {body : Body} (hcustom : body.isBuiltIn = true) {statement : Import}
    (hstatement : statement ∈ body.imports) :
    statement ∈ Import.image :: CheckpointCallback.imports.items := by
  have htensorflow : Import.tensorflow ∈ CheckpointCallback.imports.items := by decide
  cases body with
  | custom task => cases hcustom
  | checkpointCallback task => exact List.mem_cons_of_mem _ hstatement
  | _ => simp_all [imports]

namespace Script

/-- The first of the tasks that needs an import, by its position. -/
def firstNeeding (tasks : List Task) (statement : Import) : Nat :=
  tasks.findIdx fun task => statement ∈ task.body.imports

/-- The imports that the tasks need, each once: by the first task that needs them, and those
that the same task needs first in ascending order. -/
structure FirstNeeded (tasks : List Task) (imports : List Import) : Prop where
  nodup : imports.Nodup
  mem_iff : ∀ statement, statement ∈ imports ↔ ∃ task ∈ tasks, statement ∈ task.body.imports
  ordered : imports.Pairwise fun earlier later =>
    firstNeeding tasks earlier < firstNeeding tasks later ∨
      firstNeeding tasks earlier = firstNeeding tasks later ∧ compare earlier later = .lt

theorem compare_eq_lt_of_idxOf_lt {imports : List Import} (hsorted : Ascending.IsSorted imports)
    {earlier later : Import} (hlater : later ∈ imports)
    (hlt : imports.idxOf earlier < imports.idxOf later) : compare earlier later = .lt := by
  have hlength := List.idxOf_lt_length_of_mem hlater
  have hpair := List.pairwise_iff_getElem.mp hsorted _ _ (Nat.lt_trans hlt hlength) hlength hlt
  simpa using hpair

theorem firstNeeding_cons (task : Task) (rest : List Task) (statement : Import) :
    firstNeeding (task :: rest) statement =
      if statement ∈ task.body.imports then 0 else firstNeeding rest statement + 1 := by
  simp only [firstNeeding, List.findIdx_cons]
  by_cases hmem : statement ∈ task.body.imports <;> simp [hmem]

/-- What stands earlier among the imports of all tasks, one after another, is needed first by
an earlier task or by the same one. -/
theorem firstNeeding_of_idxOf_lt {tasks : List Task} {earlier later : Import}
    (hlater : later ∈ tasks.flatMap (·.body.imports.items))
    (hlt : (tasks.flatMap (·.body.imports.items)).idxOf earlier <
      (tasks.flatMap (·.body.imports.items)).idxOf later) :
    firstNeeding tasks earlier < firstNeeding tasks later ∨
      firstNeeding tasks earlier = firstNeeding tasks later ∧ compare earlier later = .lt := by
  induction tasks with
  | nil => simp at hlater
  | cons task rest ih =>
      -- By which of the two imports the first task needs.
      rw [firstNeeding_cons, firstNeeding_cons]
      rw [List.flatMap_cons] at hlater hlt
      by_cases hfirst : earlier ∈ task.body.imports
      · rw [if_pos hfirst]
        by_cases hsecond : later ∈ task.body.imports
        · rw [if_pos hsecond]
          rw [List.idxOf_append_of_mem hfirst, List.idxOf_append_of_mem hsecond] at hlt
          exact .inr ⟨rfl, compare_eq_lt_of_idxOf_lt task.body.imports.isSorted hsecond hlt⟩
        · rw [if_neg hsecond]
          exact .inl (Nat.succ_pos _)
      · rw [List.idxOf_append_of_notMem hfirst] at hlt
        by_cases hsecond : later ∈ task.body.imports
        · rw [List.idxOf_append_of_mem hsecond] at hlt
          have hlength := List.idxOf_lt_length_of_mem hsecond
          omega
        · rw [List.idxOf_append_of_notMem hsecond] at hlt
          have hrest := ih ((List.mem_append.mp hlater).resolve_left hsecond) (by omega)
          rw [if_neg hfirst, if_neg hsecond]
          exact hrest.imp Nat.succ_lt_succ (And.imp_left (congrArg Nat.succ))

theorem firstNeeded_firstOccurrences (tasks : List Task) :
    FirstNeeded tasks (firstOccurrences (tasks.flatMap (·.body.imports.items))) where
  nodup := nodup_firstOccurrences _
  mem_iff statement := by
    rw [mem_firstOccurrences_iff, List.mem_flatMap]
    rfl
  ordered := (pairwise_firstOccurrences _).imp_of_mem fun _ hlater hlt =>
    firstNeeding_of_idxOf_lt (mem_firstOccurrences_iff.mp hlater) hlt

/-- The code of the tasks, one after another, without what is blank. -/
def blocks (bodies : List Body) : List String :=
  bodies.filterMap fun body =>
    match body.code with
    | .ok code => if Text.allBlank code then none else some code
    | .error _ => none

/-- The imports, and below them the blocks if there are any. -/
def layout (imports : List Import) (blocks : List String) : String :=
  Text.trim ("\n".intercalate (imports.map Import.code) ++
    if blocks = [] then "" else "\n\n" ++ "\n\n".intercalate blocks)

/-- If every task has its code, the blocks are what is not blank of it. -/
theorem exists_codes {tasks : List Task}
    (hcodes : ∀ task ∈ tasks, ∃ code, task.body.code = .ok code) :
    ∃ codes, List.Forall₂ (fun task code => task.body.code = .ok code) tasks codes ∧
      blocks (tasks.map (·.body)) = codes.filter fun code => !Text.allBlank code := by
  induction tasks with
  | nil => exact ⟨[], .nil, rfl⟩
  | cons task rest ih =>
      obtain ⟨code, hcode⟩ := hcodes task List.mem_cons_self
      obtain ⟨codes, hrest, hblocks⟩ :=
        ih fun other hother => hcodes other (List.mem_cons_of_mem task hother)
      refine ⟨code :: codes, .cons hcode hrest, ?_⟩
      rw [List.filter_cons, ← hblocks]
      cases hblank : Text.allBlank code <;> simp [blocks, hcode, hblank]

theorem map_text_sections (tasks : List Task) :
    (ofTasks tasks).sections.map (·.text false) = blocks (tasks.map (·.body)) := by
  rw [ofTasks, blocks, List.map_filterMap, List.filterMap_map]
  congr 1
  funext task
  cases hcode : task.body.code with
  | error error => simp [hcode]
  | ok code =>
      simp only [hcode, Function.comp_apply]
      split <;> rfl

theorem text_ofTasks (tasks : List Task) :
    (ofTasks tasks).text false =
      layout (firstOccurrences ((tasks.map (·.body)).flatMap (·.imports.items)))
        (blocks (tasks.map (·.body))) := by
  have hempty : (ofTasks tasks).sections.isEmpty = true ↔ blocks (tasks.map (·.body)) = [] := by
    rw [← map_text_sections, List.isEmpty_iff, List.map_eq_nil_iff]
  have himports : (ofTasks tasks).imports =
      firstOccurrences ((tasks.map (·.body)).flatMap (·.imports.items)) := by
    rw [List.flatMap_map]
    rfl
  rw [text, layout, map_text_sections, himports]
  simp only [hempty]

end Script

end TaskScript
