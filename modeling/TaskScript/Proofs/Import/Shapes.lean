/-
The shapes of a statement.  The words of a text fit one shape at most, and bind all that a
statement of this shape needs.  Reading answers with that statement unless a component is empty,
and refuses every text that fits no shape; what is read differs from its code in nothing but the
kind of the blanks.
-/
import TaskScript.Proofs.Import.Reading

namespace TaskScript

namespace Text

/-- The text with a space in the place of each blank. -/
def spaced (text : String) : String := text.map fun c => if isBlank c then ' ' else c

theorem intercalate_splitChars (chars : List Char) :
    [' '].intercalate (splitChars chars) = chars.map fun c => if isBlank c then ' ' else c := by
  induction chars with
  | nil => rfl
  | cons c rest ih =>
      have hne := splitChars_ne_nil rest
      rw [List.map_cons, ← ih, splitChars]
      split
      · exact List.intercalate_cons_of_ne_nil hne
      · cases hpieces : splitChars rest with
        | nil => exact absurd hpieces hne
        | cons piece pieces => cases pieces <;> simp [List.intercalate]

theorem intercalate_splitBlank (text : String) :
    " ".intercalate (splitBlank text) = spaced text := by
  have hpieces : (splitBlank text).map String.toList = splitChars text.toList := by
    rw [splitBlank, List.map_map]
    simp
  rw [← String.toList_inj, String.toList_intercalate, hpieces, spaced, String.toList_map]
  exact intercalate_splitChars text.toList

end Text

namespace Import

variable {text : String} {found bound : List String} {statement : Import}
  {shape : Rule String (Option Import)}

/-- What a shape binds is enough for a statement, which then has the words that were bound. -/
theorem exists_conclude_of_bindings? (hshape : shape ∈ shapes)
    (hbound : shape.pattern.bindings? found = some bound) :
    ∃ statement, shape.conclude bound = some statement ∧ found = statement.words := by
  have hconclude : ∃ statement, shape.conclude bound = some statement := by
    rw [Pattern.bindings?_eq_some_iff] at hbound
    simp only [shapes, List.mem_cons, List.not_mem_nil, or_false] at hshape
    rcases hshape with rfl | rfl | rfl | rfl <;>
      rcases bound with _ | ⟨first, _ | ⟨second, _ | ⟨third, _ | ⟨fourth, more⟩⟩⟩⟩ <;>
      simp [Pattern.fill?] at hbound ⊢
  obtain ⟨statement, hstatement⟩ := hconclude
  refine ⟨statement, hstatement, ?_⟩
  rw [Pattern.bindings?_eq_some_iff, fill?_of_conclude hshape hstatement] at hbound
  exact (Option.some.inj hbound).symm

/-- The keywords of a shape say which parts its statements have. -/
theorem isSome_of_conclude (hshape : shape ∈ shapes)
    (hconclude : shape.conclude bound = some statement) :
    statement.identifier?.isSome = decide (.literal "from" ∈ shape.pattern) ∧
      statement.alias?.isSome = decide (.literal "as" ∈ shape.pattern) := by
  simp only [shapes, List.mem_cons, List.not_mem_nil, or_false] at hshape
  rcases hshape with rfl | rfl | rfl | rfl <;> dsimp only at hconclude <;>
    split at hconclude <;> cases hconclude <;> simp

theorem pairwise_keywords_ne : shapes.Pairwise fun first second =>
    ¬ ((.literal "from" ∈ first.pattern ↔ .literal "from" ∈ second.pattern) ∧
      (.literal "as" ∈ first.pattern ↔ .literal "as" ∈ second.pattern)) := by
  decide

/-- Two shapes that fit the same words have the same statement, hence the same keywords. -/
theorem pairwise_bindings?_eq_none (found : List String) : shapes.Pairwise fun first second =>
    first.pattern.bindings? found = none ∨ second.pattern.bindings? found = none := by
  refine List.Pairwise.imp_of_mem ?_ pairwise_keywords_ne
  intro first second hfirst hsecond hkeywords
  by_contra hboth
  rw [not_or, ← ne_eq, ← ne_eq, Option.ne_none_iff_exists', Option.ne_none_iff_exists'] at hboth
  obtain ⟨⟨bound, hbound⟩, bound', hbound'⟩ := hboth
  obtain ⟨statement, hconclude, hwords⟩ := exists_conclude_of_bindings? hfirst hbound
  obtain ⟨statement', hconclude', hwords'⟩ := exists_conclude_of_bindings? hsecond hbound'
  obtain rfl := words_injective (hwords.symm.trans hwords')
  obtain ⟨hfrom, has⟩ := isSome_of_conclude hfirst hconclude
  obtain ⟨hfrom', has'⟩ := isSome_of_conclude hsecond hconclude'
  exact hkeywords ⟨decide_eq_decide.mp (hfrom.symm.trans hfrom'),
    decide_eq_decide.mp (has.symm.trans has')⟩

theorem parse_eq_error_iff {error : ParseError} :
    parse text = .error error ↔
      error = .emptyComponent text ∧
          (∃ statement : Import,
            Text.splitBlank text = statement.words ∧ "" ∈ statement.components) ∨
        error = .unrecognised text ∧
          ∀ statement : Import, Text.splitBlank text ≠ statement.words := by
  simp only [← ofWords?_eq_some_iff, parse, ne_eq]
  cases ofWords? (Text.splitBlank text) with
  | none => simp [eq_comm]
  | some found => by_cases hempty : "" ∈ found.components <;> simp [hempty, eq_comm]

theorem code_eq_spaced_of_parse (hparse : parse text = .ok statement) :
    statement.code = Text.spaced text := by
  rw [code_eq_intercalate, ← (parse_eq_ok_iff.mp hparse).1, Text.intercalate_splitBlank]

/-- Reading is exact.  A text is read as the statement that has its words, unless a component of
this statement is empty, which is then the error; the text is not recognised when no statement
has its words.  One shape at most fits the words, it binds all that its statement needs, and the
code of what was read is the text with each blank a space. -/
theorem parse_exact (text : String) :
    (∀ statement, parse text = .ok statement ↔
      Text.splitBlank text = statement.words ∧ "" ∉ statement.components) ∧
    (∀ error, parse text = .error error ↔
      error = .emptyComponent text ∧
          (∃ statement : Import,
            Text.splitBlank text = statement.words ∧ "" ∈ statement.components) ∨
        error = .unrecognised text ∧
          ∀ statement : Import, Text.splitBlank text ≠ statement.words) ∧
    (shapes.Pairwise fun first second =>
      first.pattern.bindings? (Text.splitBlank text) = none ∨
        second.pattern.bindings? (Text.splitBlank text) = none) ∧
    (∀ shape ∈ shapes, ∀ bound, shape.pattern.bindings? (Text.splitBlank text) = some bound →
      ∃ statement, shape.conclude bound = some statement ∧
        Text.splitBlank text = statement.words) ∧
    ∀ statement, parse text = .ok statement → statement.code = Text.spaced text :=
  ⟨fun _ => parse_eq_ok_iff, fun _ => parse_eq_error_iff,
    pairwise_bindings?_eq_none (Text.splitBlank text),
    fun _ hshape _ hbound => exists_conclude_of_bindings? hshape hbound,
    fun _ => code_eq_spaced_of_parse⟩

/-- The keywords may stand as components, and a tab as a blank; a blank at the end is one word
more, which is empty. -/
theorem parse_exact_tabbed :
    let tabbed := "from\timport import as"
    let trailing := "import as "
    parse tabbed = .ok { source := "import", identifier? := some "as" } ∧
      ({ source := "import", identifier? := some "as" } : Import).code = Text.spaced tabbed ∧
      parse trailing = .error (.unrecognised trailing) ∧
      parse "import " = .error (.emptyComponent "import ") := by
  intro tabbed trailing
  obtain ⟨hok, -, -, -, hcode⟩ := parse_exact tabbed
  obtain ⟨-, herror, -⟩ := parse_exact trailing
  obtain ⟨-, hempty, -⟩ := parse_exact "import "
  have hread : parse tabbed = .ok { source := "import", identifier? := some "as" } :=
    (hok _).mpr (by decide)
  refine ⟨hread, hcode _ hread, (herror _).mpr (.inr ⟨rfl, fun statement hwords => ?_⟩),
    (hempty _).mpr (.inl ⟨rfl, { source := "" }, by decide⟩)⟩
  have hnone : ofWords? (Text.splitBlank trailing) = none := by decide
  rw [ofWords?_eq_some_iff.mpr hwords] at hnone
  cases hnone

end Import

end TaskScript
