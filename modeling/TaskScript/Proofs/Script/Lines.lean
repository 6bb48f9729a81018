/-
The lines of a script.  Trimming takes nothing from the parts of a script when none of them
begins or ends with a blank, so scripts whose tasks differ in nothing but their texts have as
many lines.
-/
import TaskScript.Proofs.Script.Layout
import TaskScript.Proofs.Task.Lines

namespace TaskScript

open Text

namespace Body

/-- What the built-in kinds import is written on one line, without blanks at its ends. -/
theorem solid_code_of_mem_imports {body : Body} (hcustom : body.isBuiltIn = true)
    {statement : Import} (hstatement : statement ∈ body.imports) :
    Solid statement.code ∧ Clear statement.code := by
  have hknown : ∀ known ∈ Import.image :: CheckpointCallback.imports.items,
      Starts known.code ∧ Ends known.code ∧ Clear known.code := by decide
  obtain ⟨hstarts, hends, hclear⟩ := hknown statement (mem_knownImports hcustom hstatement)
  exact ⟨⟨hstarts, hends⟩, hclear⟩

@[simp] theorem imports_masked (body : Body) : body.masked.imports = body.imports := by
  cases body <;> rfl

theorem masked_eq_empty_iff {body : Body} : body.masked = .empty ↔ body = .empty := by
  cases body <;> simp [masked]

end Body

/-- Two tasks that differ in nothing but their texts, and have code that names variables by
identifiers. -/
structure Task.Alike (left right : Task) : Prop where
  left_confined : left.body.Confined
  right_confined : right.body.Confined
  left_code : ∃ code, left.body.code = .ok code
  right_code : ∃ code, right.body.code = .ok code
  masked_eq : left.body.masked = right.body.masked

namespace Section

theorem quiet_heading (part : Section) : Quiet part.heading := by
  have hkind : Quiet part.kind.name := by cases part.kind <;> decide
  exact ((((by decide : Quiet "# ").append hkind).append (by decide)).append
    (quiet_comment part.task)).append (by decide)

variable {first second : Section}

theorem starts_heading (part : Section) : Starts part.heading :=
  ((((by decide : Starts "# ").append _).append _).append _).append _

theorem solid_text (hcode : Solid first.code) (comments : Bool) : Solid (first.text comments) := by
  cases comments with
  | false => exact hcode
  | true => exact ⟨(first.starts_heading.append _).append _, hcode.ends.append _⟩

theorem sameBreaks_text (hcode : SameBreaks first.code second.code) (comments : Bool) :
    SameBreaks (first.text comments) (second.text comments) := by
  cases comments with
  | false => exact hcode
  | true =>
      have hheading := SameBreaks.of_unbroken first.quiet_heading.unbroken
        second.quiet_heading.unbroken
      exact (hheading.append (.refl (by decide))).append hcode

/-- Two sections with as many lines, and no blanks at their ends. -/
structure Alike (comments : Bool) (first second : Section) : Prop where
  first_solid : Solid (first.text comments)
  second_solid : Solid (second.text comments)
  breaks : SameBreaks (first.text comments) (second.text comments)

end Section

namespace Script

/-- The section of a task, unless its code is blank. -/
def sectionOf? (task : Task) : Option Section :=
  match task.body.code with
  | .ok code =>
      if Text.allBlank code then none else some { kind := task.kind, task := task.name, code }
  | .error _ => none

theorem sections_ofTasks (tasks : List Task) :
    (ofTasks tasks).sections = tasks.filterMap sectionOf? := rfl

/-- Parts without blanks at their ends are kept as they are, with a blank line between. -/
theorem text_eq_intercalate {script : Script} {comments : Bool}
    (himports : ∀ statement ∈ script.imports, Solid statement.code)
    (hsections : ∀ part ∈ script.sections, Solid (part.text comments)) :
    script.text comments =
      "\n\n".intercalate
        ((if script.imports = [] then [] else ["\n".intercalate (script.imports.map Import.code)])
          ++ script.sections.map (·.text comments)) := by
  obtain ⟨imports, sections⟩ := script
  have htop : imports ≠ [] → Solid ("\n".intercalate (imports.map Import.code)) := fun hne =>
    .intercalate "\n" (by simpa using hne) (List.forall_mem_map.mpr himports)
  have hbelow : sections ≠ [] → Solid ("\n\n".intercalate (sections.map (·.text comments))) :=
    fun hne => .intercalate "\n\n" (by simpa using hne) (List.forall_mem_map.mpr hsections)
  rcases imports with _ | ⟨statement, more⟩ <;> rcases sections with _ | ⟨part, rest⟩
  · rfl
  · change trim ("" ++ ("\n\n" ++ "\n\n".intercalate ((part :: rest).map (·.text comments)))) = _
    have hgap : ∀ c ∈ "\n\n".toList, isBlank c = true := List.all_eq_true.mp (by decide)
    rw [String.empty_append, trim_append_of_solid hgap (hbelow (List.cons_ne_nil part rest))]
    rfl
  · change trim ("\n".intercalate ((statement :: more).map Import.code) ++ "") = _
    rw [String.append_empty, trim_of_solid (htop (List.cons_ne_nil statement more))]
    simp
  · change trim ("\n".intercalate ((statement :: more).map Import.code) ++
        ("\n\n" ++ "\n\n".intercalate ((part :: rest).map (·.text comments)))) =
      "\n\n".intercalate ("\n".intercalate ((statement :: more).map Import.code) ::
        (part :: rest).map (·.text comments))
    have hbelow := (hbelow (List.cons_ne_nil part rest)).ends
    have hstarts := (htop (List.cons_ne_nil statement more)).starts
    rw [trim_of_solid ⟨hstarts.append _, (hbelow.append _).append _⟩, ← String.append_assoc,
      String.intercalate_cons_of_ne_nil (by simp)]

end Script

namespace Task.Alike

variable {left right : Task} (halike : left.Alike right)

include halike

/-- The section of the one task is there when that of the other is, and has as many lines. -/
theorem rel_sectionOf? (comments : Bool) :
    Option.Rel (Section.Alike comments) (Script.sectionOf? left) (Script.sectionOf? right) := by
  obtain ⟨first, hfirst⟩ := halike.left_code
  obtain ⟨second, hsecond⟩ := halike.right_code
  by_cases hempty : left.body = .empty
  · have hempty' : right.body = .empty := by
      rw [← Body.masked_eq_empty_iff, ← halike.masked_eq, hempty]
      rfl
    rw [Script.sectionOf?, Script.sectionOf?, hempty, hempty']
    exact .none
  · have hempty' : right.body ≠ .empty := by
      rwa [ne_eq, ← Body.masked_eq_empty_iff, ← halike.masked_eq, Body.masked_eq_empty_iff]
    have hleft := halike.left_confined.solid_code hempty hfirst
    have hright := halike.right_confined.solid_code hempty' hsecond
    have hbreaks := Body.sameBreaks_code halike.left_confined halike.right_confined
      halike.masked_eq hfirst hsecond
    simp only [Script.sectionOf?, hfirst, hsecond, hleft.starts.allBlank_eq_false,
      hright.starts.allBlank_eq_false, Bool.false_eq_true, if_false]
    exact .some ⟨Section.solid_text hleft comments, Section.solid_text hright comments,
      Section.sameBreaks_text hbreaks comments⟩

theorem imports_eq : left.body.imports = right.body.imports := by
  rw [← Body.imports_masked, halike.masked_eq, Body.imports_masked]

end Task.Alike

namespace Script

theorem imports_ofTasks_eq {lefts rights : List Task}
    (halike : List.Forall₂ Task.Alike lefts rights) :
    (ofTasks lefts).imports = (ofTasks rights).imports := by
  have hneeded : lefts.flatMap (·.body.imports.items) =
      rights.flatMap (·.body.imports.items) := by
    induction halike with
    | nil => rfl
    | cons hfirst _ ih => rw [List.flatMap_cons, List.flatMap_cons, hfirst.imports_eq, ih]
  rw [ofTasks, ofTasks, hneeded]

/-- Scripts of tasks that are alike have as many lines. -/
theorem sameBreaks_text {lefts rights : List Task}
    (halike : List.Forall₂ Task.Alike lefts rights) (comments : Bool) :
    SameBreaks ((ofTasks lefts).text comments) ((ofTasks rights).text comments) := by
  have hsection : Relator.LiftFun Task.Alike (Option.Rel (Section.Alike comments))
      sectionOf? sectionOf? := fun _ _ h => h.rel_sectionOf? comments
  have hsections : List.Forall₂ (Section.Alike comments) (ofTasks lefts).sections
      (ofTasks rights).sections := by
    rw [sections_ofTasks, sections_ofTasks]
    exact List.rel_filterMap hsection halike
  have hconfined := (List.forall₂_and_left _ _).mp (halike.imp fun _ _ h => ⟨h.left_confined, h⟩)
  have hcodes : ∀ statement ∈ (ofTasks lefts).imports,
      Solid statement.code ∧ Clear statement.code := by
    intro statement hstatement
    obtain ⟨task, htask, hmem⟩ := List.mem_flatMap.mp (mem_firstOccurrences_iff.mp hstatement)
    exact Body.solid_code_of_mem_imports (hconfined.1 task htask).builtIn hmem
  have hfirst := (List.forall₂_and_left _ _).mp (hsections.imp fun _ _ h => ⟨h.first_solid, h⟩)
  have hsecond := (List.forall₂_and_left _ _).mp
    (hsections.flip.imp fun _ _ h => ⟨h.second_solid, h⟩)
  have himports := imports_ofTasks_eq halike
  rw [text_eq_intercalate (fun statement h => (hcodes statement h).1) hfirst.1,
    text_eq_intercalate (fun statement h => (hcodes statement (himports ▸ h)).1) hsecond.1,
    himports]
  refine .intercalate (by decide) (List.rel_append (List.forall₂_same.mpr fun top htop => ?_) ?_)
  · have hclear : Clear ("\n".intercalate ((ofTasks rights).imports.map Import.code)) :=
      .intercalate (by decide) (List.forall_mem_map.mpr fun statement h =>
        (hcodes statement (himports ▸ h)).2)
    split at htop
    · cases htop
    · obtain rfl := List.mem_singleton.mp htop
      exact .refl hclear
  · rw [List.forall₂_map_left_iff, List.forall₂_map_right_iff]
    exact hsections.imp fun _ _ h => h.breaks

end Script

end TaskScript
