/-
Where a name shows in a script.  What stands before and behind two neighbouring blocks does not
depend on them, and trimming takes nothing of them, so a name that each of them holds once stands
at two places of the text, which are the same for every name.
-/
import TaskScript.Proofs.Script.Layout
import TaskScript.Proofs.Text.Trimming

namespace TaskScript

/-- What stands before and behind two neighbouring parts is the same for all of them. -/
theorem exists_intercalate_pair (separator : String) (front back : List String) :
    ∃ before after, ∀ first second, separator.intercalate (front ++ first :: second :: back) =
      before ++ first ++ separator ++ second ++ after := by
  have hfront : ∃ before, ∀ rest, rest ≠ [] →
      separator.intercalate (front ++ rest) = before ++ separator.intercalate rest := by
    by_cases hempty : front = []
    · exact ⟨"", fun rest _ => by rw [hempty, List.nil_append, String.empty_append]⟩
    · exact ⟨separator.intercalate front ++ separator, fun rest hrest =>
        String.intercalate_append_of_ne_nil hempty hrest⟩
  have hback : ∃ after, ∀ second, separator.intercalate (second :: back) = second ++ after := by
    by_cases hempty : back = []
    · exact ⟨"", fun second => by rw [hempty, String.intercalate_singleton, String.append_empty]⟩
    · exact ⟨separator ++ separator.intercalate back, fun second => by
        rw [String.intercalate_cons_of_ne_nil hempty, String.append_assoc]⟩
  obtain ⟨before, hbefore⟩ := hfront
  obtain ⟨after, hafter⟩ := hback
  refine ⟨before, after, fun first second => ?_⟩
  rw [hbefore _ (List.cons_ne_nil _ _), String.intercalate_cons_cons, hafter]
  simp only [String.append_assoc]

namespace Script

open Text

theorem blocks_append (first second : List Body) :
    blocks (first ++ second) = blocks first ++ blocks second :=
  List.filterMap_append

theorem blocks_cons {body : Body} {code : String} (hcode : body.code = .ok code)
    (hblank : allBlank code = false) (rest : List Body) :
    blocks (body :: rest) = code :: blocks rest := by
  simp [blocks, hcode, hblank]

/-- A name that two neighbouring blocks hold stands twice in the text, and what is around it is the
same for every name. -/
theorem exists_layout_pair {imports : List Import}
    (himports : Starts ("\n".intercalate (imports.map Import.code))) (front back : List String)
    (opening middle call ending : String) (hending : allBlank ending = false) :
    ∃ before after, ∀ name,
      layout imports (front ++ (opening ++ name ++ middle) :: (call ++ name ++ ending) :: back) =
        before ++ name ++ (middle ++ "\n\n" ++ call) ++ name ++ after := by
  obtain ⟨first, last, hpair⟩ := exists_intercalate_pair "\n\n" front back
  refine ⟨"\n".intercalate (imports.map Import.code) ++ "\n\n" ++ first ++ opening,
    closed (ending ++ last), fun name => ?_⟩
  have hlast : allBlank (ending ++ last) = false := by
    rw [allBlank_append, hending, Bool.false_and]
  rw [layout, if_neg (by simp), hpair, trim_of_starts (himports.append _), ← closed_append _ hlast]
  simp only [String.append_assoc]

end Script

end TaskScript
