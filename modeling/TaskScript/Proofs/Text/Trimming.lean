/-
What trimming leaves.  Blanks at the end that are gone already make no difference to it, nor do
blanks put in front.
-/
import Mathlib.Data.List.DropRight
import TaskScript.Proofs.Text.Edges

namespace TaskScript.Text

variable {chars blank : List Char} {text left right : String}

theorem allBlank_append (left right : String) :
    allBlank (left ++ right) = (allBlank left && allBlank right) := by
  simp [allBlank]

theorem allBlank_intercalate {parts : List String} (hne : parts ≠ [])
    (hparts : ∀ part ∈ parts, allBlank part = false) (separator : String) :
    allBlank (separator.intercalate parts) = false := by
  obtain ⟨first, rest, rfl⟩ := List.exists_cons_of_ne_nil hne
  have hfirst := hparts first List.mem_cons_self
  cases rest with
  | nil => rwa [String.intercalate_singleton]
  | cons next rest =>
      rw [String.intercalate_cons_cons, allBlank_append, allBlank_append, hfirst, Bool.false_and,
        Bool.false_and]

theorem trimEnd_eq_rdropWhile (chars : List Char) : trimEnd chars = chars.rdropWhile isBlank := rfl

theorem trimEnd_append_of_blank (hblank : ∀ c ∈ blank, isBlank c = true) (chars : List Char) :
    trimEnd (chars ++ blank) = trimEnd chars := by
  have hreverse : ∀ c ∈ blank.reverse, isBlank c = true := fun c hc =>
    hblank c (List.mem_reverse.mp hc)
  rw [trimEnd, trimStart, List.reverse_append, List.dropWhile_append_of_pos hreverse, trimEnd,
    trimStart]

theorem trimEnd_append {more : List Char} (hmore : more.all isBlank = false)
    (chars : List Char) : trimEnd (chars ++ more) = chars ++ trimEnd more := by
  have hkept : ¬ (more.reverse.dropWhile isBlank).isEmpty = true := by
    rw [List.isEmpty_iff, List.dropWhile_eq_nil_iff]
    intro hall
    rw [List.all_eq_true.mpr fun c hc => hall c (List.mem_reverse.mpr hc)] at hmore
    cases hmore
  rw [trimEnd, trimStart, List.reverse_append, List.dropWhile_append, if_neg hkept,
    List.reverse_append, List.reverse_reverse, trimEnd, trimStart]

/-- Without the blanks at the end. -/
def closed (text : String) : String := String.ofList (trimEnd text.toList)

theorem closed_append (left : String) (hright : allBlank right = false) :
    closed (left ++ right) = left ++ closed right := by
  rw [closed, String.toList_append, trimEnd_append hright, String.ofList_append,
    String.ofList_toList, closed]

theorem trim_of_starts (hstarts : Starts text) : trim text = closed text := by
  rw [trim, trimStart_of_head hstarts, closed]

theorem trim_closed (text : String) : trim (closed text) = trim text := by
  have hblank : ∀ c ∈ text.toList.rtakeWhile isBlank, isBlank c = true := fun c hc =>
    List.mem_rtakeWhile_imp hc
  have hchars : trimEnd text.toList ++ text.toList.rtakeWhile isBlank = text.toList := by
    rw [trimEnd_eq_rdropWhile, List.rdropWhile_append_rtakeWhile]
  have hstart : trimEnd (trimStart (trimEnd text.toList)) = trimEnd (trimStart text.toList) := by
    conv_rhs => rw [← hchars, trimStart, List.dropWhile_append]
    split
    · rename_i hempty
      rw [trimStart, List.isEmpty_iff.mp hempty, List.dropWhile_eq_nil_iff.mpr hblank]
    · rw [trimEnd_append_of_blank hblank, trimStart]
  rw [trim, closed, String.toList_ofList, hstart, trim]

theorem trim_append_of_blank (hblank : ∀ c ∈ left.toList, isBlank c = true) (right : String) :
    trim (left ++ right) = trim right := by
  have hstart : trimStart (left.toList ++ right.toList) = trimStart right.toList :=
    List.dropWhile_append_of_pos hblank
  rw [trim, String.toList_append, hstart, trim]

theorem trim_trim (text : String) : trim (trim text) = trim text := by
  have hclosed : trim text = closed (String.ofList (trimStart text.toList)) := by
    rw [trim, closed, String.toList_ofList]
  have hstart : trimStart (trimStart text.toList) = trimStart text.toList :=
    List.dropWhile_idempotent isBlank text.toList
  rw [hclosed, trim_closed, trim, String.toList_ofList, hstart, closed, String.toList_ofList]

end TaskScript.Text
