/-
Import statements by their words.  As long as no component holds a blank, the code of a
statement is one line, and its words say which statement it is.
-/
import TaskScript.Import
import TaskScript.Proofs.Text.Words

namespace TaskScript.Import

/-- The words of the statement in the order written, keywords included. -/
def words : Import → List String
  | ⟨source, none, none⟩ => ["import", source]
  | ⟨source, some identifier, none⟩ => ["from", source, "import", identifier]
  | ⟨source, none, some name⟩ => ["import", source, "as", name]
  | ⟨source, some identifier, some name⟩ => ["from", source, "import", identifier, "as", name]

theorem words_injective {left right : Import} (hwords : left.words = right.words) :
    left = right := by
  obtain ⟨source, identifier?, alias?⟩ := left
  obtain ⟨source', identifier?', alias?'⟩ := right
  rcases identifier? with _ | identifier <;> rcases alias? with _ | name <;>
    rcases identifier?' with _ | identifier' <;> rcases alias?' with _ | name' <;>
    simp_all [words]

theorem words_ne_nil (statement : Import) : statement.words ≠ [] := by
  obtain ⟨source, _ | identifier, _ | name⟩ := statement <;> simp [words]

theorem code_eq_intercalate (statement : Import) :
    statement.code = " ".intercalate statement.words := by
  have himport : "import " = "import" ++ " " := rfl
  have hfrom : "from " = "from" ++ " " := rfl
  have hitem : " import " = " " ++ "import" ++ " " := rfl
  have has : " as " = " " ++ "as" ++ " " := rfl
  obtain ⟨source, _ | identifier, _ | name⟩ := statement <;>
    simp only [code, words, String.intercalate_cons_cons, String.intercalate_singleton, hitem,
      has, hfrom, himport, toString, String.append_assoc]

theorem hasBlank_eq_false_iff {statement : Import} :
    statement.hasBlank = false ↔ ∀ component ∈ statement.components, Text.IsToken component := by
  simp [hasBlank, Text.IsToken]

theorem isToken_of_mem_words {statement : Import} (hblank : statement.hasBlank = false)
    {word : String} (hword : word ∈ statement.words) : Text.IsToken word := by
  rw [hasBlank_eq_false_iff] at hblank
  have himport : Text.IsToken "import" := by decide
  have hfrom : Text.IsToken "from" := by decide
  have has : Text.IsToken "as" := by decide
  have hwords : word ∈ ["import", "from", "as"] ∨ word ∈ statement.components := by
    obtain ⟨source, _ | identifier, _ | name⟩ := statement <;>
      simp only [words, components, List.mem_cons] at hword ⊢ <;> grind
  rcases hwords with hkeyword | hcomponent
  · simp only [List.mem_cons, List.not_mem_nil, or_false] at hkeyword
    rcases hkeyword with rfl | rfl | rfl <;> assumption
  · exact hblank word hcomponent

theorem splitBlank_code {statement : Import} (hblank : statement.hasBlank = false) :
    Text.splitBlank statement.code = statement.words := by
  rw [code_eq_intercalate]
  exact Text.splitBlank_intercalate_of_isToken statement.words_ne_nil fun _ =>
    isToken_of_mem_words hblank

/-- Different statements without blanks have different code. -/
theorem code_injective {left right : Import} (hleft : left.hasBlank = false)
    (hright : right.hasBlank = false) (hcode : left.code = right.code) : left = right := by
  refine words_injective ?_
  rw [← splitBlank_code hleft, hcode, splitBlank_code hright]

theorem isLine_code {statement : Import} (hblank : statement.hasBlank = false) :
    Text.IsLine statement.code := by
  rw [code_eq_intercalate]
  exact Text.isLine_intercalate fun _ => isToken_of_mem_words hblank

theorem exists_code_eq (statement : Import) :
    ∃ rest, statement.code = "import " ++ rest ∨ statement.code = "from " ++ rest := by
  obtain ⟨source, _ | identifier, _ | name⟩ := statement
  · exact ⟨source, .inl rfl⟩
  · refine ⟨source ++ " as " ++ name, .inl ?_⟩
    simp [code, toString, String.append_assoc]
  · refine ⟨source ++ " import " ++ identifier, .inr ?_⟩
    simp [code, toString, String.append_assoc]
  · refine ⟨source ++ " import " ++ identifier ++ " as " ++ name, .inr ?_⟩
    simp [code, toString, String.append_assoc]

end TaskScript.Import
