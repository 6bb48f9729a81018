/-
The comments of a script.  With comments a script has one line more above the code of each
section, and without these lines it is the script without comments again, as soon as its ends
are trimmed.
-/
import TaskScript.Proofs.Import.Words
import TaskScript.Proofs.Script.Lines
import TaskScript.Proofs.Text.Lines
import TaskScript.Proofs.Text.Trimming

namespace TaskScript

open Text

/-- A line of a script that has a comment above each section. -/
inductive Line where
  | comment (part : Section)
  | kept (text : String)

namespace Line

/-- The lines as they are written, or only those that are no comments. -/
def texts (comments : Bool) (lines : List Line) : List String :=
  lines.filterMap fun
    | comment part => if comments then some part.heading else none
    | kept text => some text

def joined (comments : Bool) (lines : List Line) : String :=
  "\n".intercalate (texts comments lines)

/-- The lines hold a comment for each of the sections, in this order and directly above its code.
The end of the code is trimmed where the script ends. -/
inductive Commented : List Section → List Line → Prop
  | nil : Commented [] []
  | kept {parts : List Section} {lines : List Line} {text : String}
      (hwhole : '\n' ∉ text.toList) (hlines : Commented parts lines) :
      Commented parts (kept text :: lines)
  | comment {parts : List Section} {lines : List Line} {part : Section}
      (hcode : (closed part.code).toList <+: (joined true lines).toList)
      (hlines : Commented parts lines) : Commented (part :: parts) (comment part :: lines)

variable {comments : Bool} {parts : List Section} {lines : List Line}

theorem texts_append (comments : Bool) (before after : List Line) :
    texts comments (before ++ after) = texts comments before ++ texts comments after :=
  List.filterMap_append

theorem texts_map_kept (comments : Bool) (texts : List String) :
    Line.texts comments (texts.map kept) = texts := by
  rw [Line.texts, List.filterMap_map]
  exact List.filterMap_some

theorem texts_kept_append_ne_nil (comments : Bool) (text : String) (lines : List Line) :
    texts comments ((linesOf text).map kept ++ lines) ≠ [] := by
  rw [texts_append, texts_map_kept]
  exact List.append_ne_nil_of_left_ne_nil (linesOf_ne_nil text) _

theorem texts_comment_ne_nil (part : Section) (hlines : texts comments lines ≠ []) :
    texts comments (comment part :: lines) ≠ [] := by
  cases comments with
  | false => exact hlines
  | true => exact List.cons_ne_nil part.heading (texts true lines)

theorem joined_kept (comments : Bool) (text : String) :
    joined comments ((linesOf text).map kept) = text := by
  rw [joined, texts_map_kept, intercalate_linesOf]

/-- Below a text comes a blank line, then the rest. -/
theorem joined_kept_append (text : String) (hlines : texts comments lines ≠ []) :
    joined comments ((linesOf text).map kept ++ kept "" :: lines) =
      text ++ "\n\n" ++ joined comments lines := by
  have hnext : texts comments (kept "" :: lines) = "" :: texts comments lines := rfl
  have hgap : "\n\n" = "\n" ++ "\n" := rfl
  rw [joined, texts_append, texts_map_kept, hnext,
    String.intercalate_append_of_ne_nil (linesOf_ne_nil text) (List.cons_ne_nil "" _),
    intercalate_linesOf, String.intercalate_cons_of_ne_nil hlines, joined]
  simp only [hgap, String.append_assoc, String.empty_append]

theorem joined_comment (part : Section) (hlines : texts comments lines ≠ []) :
    joined comments (comment part :: lines) =
      (if comments then part.heading ++ "\n" else "") ++ joined comments lines := by
  cases comments with
  | false => exact (String.empty_append).symm
  | true => exact String.intercalate_cons_of_ne_nil hlines

theorem Commented.map_kept_append {texts : List String}
    (hwhole : ∀ text ∈ texts, '\n' ∉ text.toList) (hlines : Commented parts lines) :
    Commented parts (texts.map Line.kept ++ lines) := by
  induction texts with
  | nil => exact hlines
  | cons text rest ih =>
      exact .kept (hwhole text List.mem_cons_self)
        (ih fun other hother => hwhole other (List.mem_cons_of_mem text hother))

theorem commented_kept (text : String) : Commented [] ((linesOf text).map kept) := by
  rw [← List.append_nil (List.map kept _)]
  exact Commented.nil.map_kept_append fun _ => not_mem_of_mem_linesOf

theorem Commented.kept_append (text : String) (hlines : Commented parts lines) :
    Commented parts ((linesOf text).map Line.kept ++ Line.kept "" :: lines) :=
  (Commented.kept List.not_mem_nil hlines).map_kept_append fun _ => not_mem_of_mem_linesOf

end Line

namespace Section

/-- The lines of sections with a blank line between; the end of the last one is trimmed. -/
def lines : List Section → List Line
  | [] => []
  | [part] => .comment part :: (linesOf (closed part.code)).map .kept
  | part :: rest => .comment part :: ((linesOf part.code).map .kept ++ .kept "" :: lines rest)

theorem text_eq (comments : Bool) (part : Section) :
    part.text comments = (if comments then part.heading ++ "\n" else "") ++ part.code := by
  cases comments with
  | false => exact String.empty_append.symm
  | true => rfl

theorem allBlank_text {part : Section} (hcode : allBlank part.code = false) (comments : Bool) :
    allBlank (part.text comments) = false := by
  rw [text_eq, allBlank_append, hcode, Bool.and_false]

theorem texts_lines_ne_nil {parts : List Section} (hne : parts ≠ []) (comments : Bool) :
    Line.texts comments (lines parts) ≠ [] := by
  fun_cases lines parts with
  | case1 => exact absurd rfl hne
  | case2 part =>
      rw [← List.append_nil (List.map _ _)]
      exact Line.texts_comment_ne_nil part (Line.texts_kept_append_ne_nil comments _ [])
  | case3 part rest =>
      exact Line.texts_comment_ne_nil part (Line.texts_kept_append_ne_nil comments _ _)

/-- Up to the blanks at the end, the lines make up the sections. -/
theorem joined_lines {parts : List Section} (hne : parts ≠ [])
    (hcodes : ∀ part ∈ parts, allBlank part.code = false) (comments : Bool) :
    Line.joined comments (lines parts) =
      closed ("\n\n".intercalate (parts.map (·.text comments))) := by
  fun_induction lines parts with
  | case1 => exact absurd rfl hne
  | case2 part =>
      have hcode := hcodes part List.mem_cons_self
      have hbelow : Line.texts comments ((linesOf (closed part.code)).map .kept) ≠ [] := by
        rw [Line.texts_map_kept]
        exact linesOf_ne_nil _
      rw [Line.joined_comment part hbelow, Line.joined_kept, List.map_singleton,
        String.intercalate_singleton, text_eq, closed_append _ hcode]
  | case3 part rest hrest ih =>
      have hne' : rest ≠ [] := fun h => hrest h
      have hcodes' : ∀ other ∈ rest, allBlank other.code = false := fun other hother =>
        hcodes other (List.mem_cons_of_mem part hother)
      have hbelow : allBlank ("\n\n".intercalate (rest.map (·.text comments))) = false :=
        allBlank_intercalate (by simpa using hne')
          (List.forall_mem_map.mpr fun other hother => allBlank_text (hcodes' other hother) comments)
          "\n\n"
      rw [Line.joined_comment part (Line.texts_kept_append_ne_nil comments _ _),
        Line.joined_kept_append part.code (texts_lines_ne_nil hne' comments), ih hne' hcodes',
        List.map_cons, String.intercalate_cons_of_ne_nil (by simpa using hne'),
        closed_append _ hbelow, text_eq]
      simp only [String.append_assoc]

theorem commented_lines {parts : List Section}
    (hcodes : ∀ part ∈ parts, allBlank part.code = false) :
    Line.Commented parts (lines parts) := by
  fun_induction lines parts with
  | case1 => exact .nil
  | case2 part =>
      have hjoined := Line.joined_kept true (closed part.code)
      exact .comment (hjoined.symm ▸ List.prefix_rfl) (Line.commented_kept _)
  | case3 part rest hrest ih =>
      have hne' : rest ≠ [] := fun h => hrest h
      have hcodes' : ∀ other ∈ rest, allBlank other.code = false := fun other hother =>
        hcodes other (List.mem_cons_of_mem part hother)
      refine .comment ?_ ((ih hcodes').kept_append _)
      rw [Line.joined_kept_append part.code (texts_lines_ne_nil hne' true), String.append_assoc,
        String.toList_append, closed, String.toList_ofList]
      exact (List.rdropWhile_prefix isBlank _).trans (List.prefix_append _ _)

end Section

namespace Import

theorem starts_code (statement : Import) : Starts statement.code := by
  obtain ⟨rest, hcode | hcode⟩ := statement.exists_code_eq
  · rw [hcode]
    exact (by decide : Starts "import ").append rest
  · rw [hcode]
    exact (by decide : Starts "from ").append rest

end Import

namespace Script

variable {script : Script}

/-- The code of the imports, each on a line. -/
def top (script : Script) : String := "\n".intercalate (script.imports.map Import.code)

def below (comments : Bool) (script : Script) : String :=
  "\n\n".intercalate (script.sections.map (·.text comments))

/-- The script before its end is trimmed. -/
def untrimmed (comments : Bool) (script : Script) : String :=
  if script.imports = [] then script.below comments
  else script.top ++ "\n\n" ++ script.below comments

/-- The lines of a script that has sections. -/
def lines (script : Script) : List Line :=
  if script.imports = [] then Section.lines script.sections
  else (linesOf script.top).map .kept ++ .kept "" :: Section.lines script.sections

theorem starts_top (himports : script.imports ≠ []) : Starts script.top := by
  obtain ⟨first, rest, hfirst⟩ := List.exists_cons_of_ne_nil himports
  rw [top, hfirst]
  exact first.starts_code.intercalate _ _

theorem starts_below (hsections : script.sections ≠ []) : Starts (script.below true) := by
  obtain ⟨first, rest, hfirst⟩ := List.exists_cons_of_ne_nil hsections
  rw [below, hfirst]
  exact ((first.starts_heading.append _).append _).intercalate _ _

theorem starts_untrimmed (hsections : script.sections ≠ []) : Starts (script.untrimmed true) := by
  rw [untrimmed]
  split
  · exact starts_below hsections
  · rename_i himports
    exact ((starts_top himports).append _).append _

theorem text_of_no_sections (hsections : script.sections = []) (comments : Bool) :
    script.text comments = trim script.top := by
  rw [text, hsections]
  exact congrArg trim String.append_empty

/-- The blank line below the imports is trimmed when there are none. -/
theorem text_eq_trim_untrimmed (hsections : script.sections ≠ []) (comments : Bool) :
    script.text comments = trim (script.untrimmed comments) := by
  have htext : script.text comments =
      trim (script.top ++ ("\n\n" ++ script.below comments)) := by
    rw [text, if_neg (by simpa using hsections), top, below]
  rw [htext, untrimmed]
  split
  · rename_i himports
    have hgap : ∀ c ∈ "\n\n".toList, isBlank c = true := List.all_eq_true.mp (by decide)
    rw [top, himports]
    exact trim_append_of_blank hgap _
  · rw [String.append_assoc]

section Codes

variable (hcodes : ∀ part ∈ script.sections, allBlank part.code = false)

include hcodes

theorem commented_lines : Line.Commented script.sections script.lines := by
  have hlines := Section.commented_lines hcodes
  rw [lines]
  split
  · exact hlines
  · exact hlines.kept_append _

theorem joined_lines (hsections : script.sections ≠ []) (comments : Bool) :
    Line.joined comments script.lines = closed (script.untrimmed comments) := by
  have hjoined := Section.joined_lines hsections hcodes comments
  have hbelow : allBlank (script.below comments) = false :=
    allBlank_intercalate (by simpa using hsections)
      (List.forall_mem_map.mpr fun part h => Section.allBlank_text (hcodes part h) comments) _
  rw [lines, untrimmed]
  split
  · exact hjoined
  · rw [Line.joined_kept_append _ (Section.texts_lines_ne_nil hsections comments), hjoined,
      closed_append _ hbelow, below]

/-- The script with comments by its lines, of which those that are no comments make up the
script without. -/
theorem exists_lines :
    ∃ lines, Line.Commented script.sections lines ∧
      script.text true = Line.joined true lines ∧
      script.text false = trim (Line.joined false lines) := by
  by_cases hsections : script.sections = []
  · refine ⟨(linesOf (script.text true)).map .kept, ?_, ?_, ?_⟩
    · rw [hsections]
      exact Line.commented_kept _
    · rw [Line.joined_kept]
    · rw [Line.joined_kept, text_of_no_sections hsections, text_of_no_sections hsections, trim_trim]
  · refine ⟨script.lines, commented_lines hcodes, ?_, ?_⟩
    · rw [text_eq_trim_untrimmed hsections, joined_lines hcodes hsections,
        trim_of_starts (starts_untrimmed hsections)]
    · rw [text_eq_trim_untrimmed hsections, joined_lines hcodes hsections, trim_closed]

end Codes

theorem allBlank_of_mem_sections {tasks : List Task} {part : Section}
    (hpart : part ∈ (ofTasks tasks).sections) : allBlank part.code = false := by
  rw [sections_ofTasks, List.mem_filterMap] at hpart
  obtain ⟨task, _, hpart⟩ := hpart
  unfold sectionOf? at hpart
  split at hpart
  · split at hpart
    · cases hpart
    · rename_i hcode
      cases hpart
      exact (Bool.not_eq_true _).mp hcode
  · cases hpart

end Script

end TaskScript
