/-
Sets of characters given by ascending, disjoint ranges of code points.  The
search stops at the first range that starts beyond the character.
-/
namespace TaskScript.Text

/-- Whether `code` lies in one of the inclusive ranges. -/
def inRanges (code : Nat) : List (Nat × Nat) → Bool
  | [] => false
  | (first, last) :: rest =>
      if code < first then false
      else if code ≤ last then true
      else inRanges code rest

theorem exists_range_of_inRanges {code : Nat} {ranges : List (Nat × Nat)}
    (h : inRanges code ranges) : ∃ range ∈ ranges, range.1 ≤ code ∧ code ≤ range.2 := by
  induction ranges with
  | nil => simp [inRanges] at h
  | cons range rest ih =>
      obtain ⟨first, last⟩ := range
      rw [inRanges] at h
      split at h
      · simp at h
      · split at h
        · exact ⟨_, List.mem_cons_self, by omega, by assumption⟩
        · obtain ⟨found, hfound, hrange⟩ := ih h
          exact ⟨found, List.mem_cons_of_mem _ hfound, hrange⟩

end TaskScript.Text
