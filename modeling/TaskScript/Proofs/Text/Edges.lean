/-
Texts whose first and last characters are not blank.  Trimming leaves them alone, and they stay
such when they are put one after another.
-/
import TaskScript.Proofs.Text.Words

namespace TaskScript.Text

def Starts (text : String) : Prop := ∃ c ∈ text.toList.head?, isBlank c = false

def Ends (text : String) : Prop := ∃ c ∈ text.toList.getLast?, isBlank c = false

instance (text : String) : Decidable (Starts text) :=
  Option.decidableExistsMem text.toList.head?

instance (text : String) : Decidable (Ends text) :=
  Option.decidableExistsMem text.toList.getLast?

/-- There are no blanks at either end, and something in between. -/
structure Solid (text : String) : Prop where
  starts : Starts text
  ends : Ends text

variable {left right : String}

theorem Starts.append (hleft : Starts left) (right : String) : Starts (left ++ right) := by
  obtain ⟨c, hc, hblank⟩ := hleft
  refine ⟨c, ?_, hblank⟩
  rw [String.toList_append, List.head?_append, Option.mem_def.mp hc]
  rfl

theorem Ends.append (left : String) (hright : Ends right) : Ends (left ++ right) := by
  obtain ⟨c, hc, hblank⟩ := hright
  refine ⟨c, ?_, hblank⟩
  rw [String.toList_append, List.getLast?_append, Option.mem_def.mp hc]
  rfl

theorem Starts.intercalate {first : String} (hfirst : Starts first) (separator : String)
    (rest : List String) : Starts (separator.intercalate (first :: rest)) := by
  cases rest with
  | nil => rwa [String.intercalate_singleton]
  | cons next rest =>
      rw [String.intercalate_cons_cons]
      exact (hfirst.append separator).append _

theorem Starts.allBlank_eq_false {text : String} (hstarts : Starts text) :
    allBlank text = false := by
  obtain ⟨c, hc, hblank⟩ := hstarts
  have hmem : c ∈ text.toList := List.mem_of_mem_head? hc
  exact List.all_eq_false.mpr ⟨c, hmem, by simp [hblank]⟩

theorem Solid.intercalate (separator : String) {parts : List String} (hne : parts ≠ [])
    (hparts : ∀ part ∈ parts, Solid part) : Solid (separator.intercalate parts) := by
  induction parts with
  | nil => exact absurd rfl hne
  | cons part rest ih =>
      have hpart := hparts part List.mem_cons_self
      cases rest with
      | nil => simpa using hpart
      | cons next rest =>
          have hrest := ih (List.cons_ne_nil next rest) fun other hother =>
            hparts other (List.mem_cons_of_mem part hother)
          rw [String.intercalate_cons_cons]
          exact ⟨(hpart.starts.append _).append _, hrest.ends.append _⟩

theorem IsToken.solid {text : String} (htoken : IsToken text) (hne : text ≠ "") : Solid text := by
  have hchars : text.toList ≠ [] := by simpa using hne
  refine ⟨⟨text.toList.head hchars, ?_, ?_⟩, ⟨text.toList.getLast hchars, ?_, ?_⟩⟩
  · exact List.head?_eq_some_head hchars
  · exact htoken _ (List.head_mem hchars)
  · exact List.getLast?_eq_some_getLast hchars
  · exact htoken _ (List.getLast_mem hchars)

theorem trimStart_of_head {chars : List Char} (hhead : ∃ c ∈ chars.head?, isBlank c = false) :
    trimStart chars = chars := by
  obtain ⟨c, hc, hblank⟩ := hhead
  obtain ⟨rest, rfl⟩ := List.head?_eq_some_iff.mp hc
  exact List.dropWhile_cons_of_neg (by simp [hblank])

theorem trimEnd_of_last {chars : List Char} (hlast : ∃ c ∈ chars.getLast?, isBlank c = false) :
    trimEnd chars = chars := by
  have hreverse : trimStart chars.reverse = chars.reverse :=
    trimStart_of_head (by rwa [List.head?_reverse])
  rw [trimEnd, hreverse, List.reverse_reverse]

/-- Only the blanks in front go. -/
theorem trim_append_of_solid {blank text : String} (hblank : ∀ c ∈ blank.toList, isBlank c = true)
    (hsolid : Solid text) : trim (blank ++ text) = text := by
  have hstart : trimStart (blank.toList ++ text.toList) = trimStart text.toList :=
    List.dropWhile_append_of_pos hblank
  rw [trim, String.toList_append, hstart, trimStart_of_head hsolid.starts,
    trimEnd_of_last hsolid.ends, String.ofList_toList]

theorem trim_of_solid {text : String} (hsolid : Solid text) : trim text = text := by
  rw [trim, trimStart_of_head hsolid.starts, trimEnd_of_last hsolid.ends, String.ofList_toList]

end TaskScript.Text
