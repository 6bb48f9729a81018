/-
The sections of a script, task by task.  Every built-in kind but the empty one writes something
that is not blank, so a script of such tasks has a section for each of them, in their order.
-/
import TaskScript.Proofs.Script.Comments
import TaskScript.Proofs.Task.Lines

namespace TaskScript

open Piece Text

theorem Piece.allBlank_render_of_mem {written : List Piece} {piece : Piece}
    (hpiece : piece ∈ written) (hblank : allBlank piece.text = false) :
    allBlank (render written) = false := by
  obtain ⟨front, back, rfl⟩ := List.append_of_mem hpiece
  rw [render_append, render_cons, allBlank_append, allBlank_append, hblank, Bool.false_and,
    Bool.and_false]

namespace Body

theorem writes_mark {body : Body} (hbuiltIn : body.isBuiltIn = true) (hempty : body ≠ .empty) :
    Writes (fun written => ∃ mark, fixed mark ∈ written ∧ allBlank mark = false) body.pieces := by
  cases body with
  | empty => exact absurd rfl hempty
  | enableEagerExecution => exact .ok ⟨_, List.mem_singleton_self _, by decide⟩
  | loadModel task | saveModel task | loadImage task =>
      exact .read_bind fun _ _ => .read_bind fun _ _ => .ok ⟨")", by simp, by decide⟩
  | csvLoggerCallback task | checkpointCallback task =>
      exact .read_bind fun _ _ => .read_bind fun _ _ => .ok ⟨"\n)", by simp, by decide⟩
  | compileModel task =>
      exact .read_bind fun _ _ => .read_bind fun _ _ => .read_bind fun _ _ =>
        .ok ⟨"]\n)", by simp, by decide⟩
  | runInference task =>
      exact .read_bind fun _ _ => .read_bind fun _ _ => .read_bind fun _ _ =>
        .ok ⟨")", by simp, by decide⟩
  | runPlugin task | applyLayerDelta task =>
      exact .read_bind fun _ _ => .read_bind fun _ _ => .read_bind fun _ _ =>
        .read_bind fun _ _ => .ok ⟨")", by simp, by decide⟩
  | loadExampleDataset task =>
      exact .read_bind fun _ _ => .read_bind fun _ _ => .read_bind fun _ _ =>
        .read_bind fun _ _ => .read_bind fun _ _ => .ok ⟨".load_data()", by simp, by decide⟩
  | train task =>
      exact .read_bind fun _ _ => .read_bind fun _ _ => .read_bind fun _ _ =>
        .ok ⟨"\n)", by simp, by decide⟩
  | custom task => cases hbuiltIn

theorem allBlank_code {body : Body} (hbuiltIn : body.isBuiltIn = true) (hempty : body ≠ .empty)
    {code : String} (hcode : body.code = .ok code) : allBlank code = false := by
  obtain ⟨written, hwritten, rfl⟩ := body.prints_code.exists_pieces hcode
  obtain ⟨mark, hmark, hblank⟩ := writes_mark hbuiltIn hempty written hwritten
  exact allBlank_render_of_mem hmark hblank

end Body

/-- The section is what the task has to add. -/
structure Section.Shows (part : Section) (task : Task) : Prop where
  kind : part.kind = task.kind
  name : part.task = task.name
  code : task.body.code = .ok part.code

theorem Script.shows_sections {tasks : List Task}
    (htasks : ∀ task ∈ tasks, task.body.isBuiltIn = true ∧ task.body ≠ .empty ∧
      ∃ code, task.body.code = .ok code) :
    List.Forall₂ Section.Shows (ofTasks tasks).sections tasks := by
  rw [sections_ofTasks]
  induction tasks with
  | nil => exact .nil
  | cons task rest ih =>
      obtain ⟨⟨hbuiltIn, hempty, code, hcode⟩, hrest⟩ := List.forall_mem_cons.mp htasks
      have hblank := Body.allBlank_code hbuiltIn hempty hcode
      have hsection : sectionOf? task = some { kind := task.kind, task := task.name, code } := by
        simp [sectionOf?, hcode, hblank]
      rw [List.filterMap_cons_some hsection]
      exact .cons ⟨rfl, rfl, hcode⟩ (ih hrest)

end TaskScript
