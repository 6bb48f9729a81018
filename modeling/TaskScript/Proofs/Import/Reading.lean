/-
Reading import statements.  A text is read as a statement exactly when its words are those of
the statement and no component is empty, so code is read back exactly when no component is empty
or holds a blank.
-/
import TaskScript.Environment
import TaskScript.Proofs.Import.Words

namespace TaskScript

namespace Text

theorem isBlank_of_mem_splitChars {chars piece : List Char} {c : Char}
    (hpiece : piece ∈ splitChars chars) (hc : c ∈ piece) : isBlank c = false := by
  induction chars generalizing piece with
  | nil =>
      obtain rfl := List.mem_singleton.mp hpiece
      cases hc
  | cons first rest ih =>
      rw [splitChars] at hpiece
      split at hpiece
      · rcases List.mem_cons.mp hpiece with rfl | hpiece
        · cases hc
        · exact ih hpiece hc
      · rename_i hfirst
        split at hpiece
        · obtain rfl := List.mem_singleton.mp hpiece
          obtain rfl := List.mem_singleton.mp hc
          simpa using hfirst
        · rename_i head tail hsplit
          rcases List.mem_cons.mp hpiece with rfl | hpiece
          · rcases List.mem_cons.mp hc with rfl | hc
            · simpa using hfirst
            · exact ih (hsplit ▸ List.mem_cons_self) hc
          · exact ih (hsplit ▸ List.mem_cons_of_mem head hpiece) hc

theorem isToken_of_mem_splitBlank {text word : String} (hword : word ∈ splitBlank text) :
    IsToken word := by
  obtain ⟨piece, hpiece, rfl⟩ := List.mem_map.mp hword
  intro c hc
  exact isBlank_of_mem_splitChars hpiece (by simpa using hc)

end Text

namespace Import

variable {statement : Import} {text : String}

/-- The way back: what a shape concludes a statement from fills the shape with the words of that
statement. -/
theorem fill?_of_conclude {rule : Rule String (Option Import)} (hrule : rule ∈ shapes)
    {bound : List String} (hconclude : rule.conclude bound = some statement) :
    rule.pattern.fill? bound = some statement.words := by
  simp only [shapes, List.mem_cons, List.not_mem_nil, or_false] at hrule
  rcases hrule with rfl | rfl | rfl | rfl <;> dsimp only at hconclude <;> split at hconclude <;>
    cases hconclude <;> rfl

theorem ofWords?_words (statement : Import) : ofWords? statement.words = some statement := by
  obtain ⟨source, _ | identifier, _ | name⟩ := statement <;>
    simp [ofWords?, Rule.evaluate, shapes, Rule.conclusion?, words, Pattern.bindings?]

theorem ofWords?_eq_some_iff {found : List String} :
    ofWords? found = some statement ↔ found = statement.words := by
  constructor
  · intro hfound
    obtain ⟨rule, hrule, hconclusion⟩ :=
      List.exists_of_findSome?_eq_some (Option.join_eq_some_iff.mp hfound)
    obtain ⟨bound, hbound, hconclude⟩ := Option.map_eq_some_iff.mp hconclusion
    rw [Pattern.bindings?_eq_some_iff, fill?_of_conclude hrule hconclude] at hbound
    exact (Option.some.inj hbound).symm
  · rintro rfl
    exact ofWords?_words statement

theorem parse_eq_ok_iff :
    parse text = .ok statement ↔
      Text.splitBlank text = statement.words ∧ "" ∉ statement.components := by
  rw [← ofWords?_eq_some_iff, parse]
  cases ofWords? (Text.splitBlank text) with
  | none => simp
  | some found =>
      by_cases hempty : "" ∈ found.components
      · simp only [if_pos hempty, reduceCtorEq, Option.some.injEq, false_iff, not_and]
        rintro rfl
        exact not_not_intro hempty
      · simp only [if_neg hempty, Except.ok.injEq, Option.some.injEq]
        exact ⟨fun h => ⟨h, h ▸ hempty⟩, And.left⟩

theorem mem_words_of_mem_components {component : String}
    (hcomponent : component ∈ statement.components) : component ∈ statement.words := by
  obtain ⟨source, _ | identifier, _ | name⟩ := statement <;>
    simp only [words, components, List.mem_cons] at hcomponent ⊢ <;> grind

/-- The components that a text can have: what is read has no others. -/
theorem hasBlank_eq_false_of_parse (hparse : parse text = .ok statement) :
    statement.hasBlank = false := by
  rw [hasBlank_eq_false_iff]
  intro component hcomponent
  have hword := mem_words_of_mem_components hcomponent
  rw [← (parse_eq_ok_iff.mp hparse).1] at hword
  exact Text.isToken_of_mem_splitBlank hword

theorem forall_components_iff :
    (∀ component ∈ statement.components,
      component ≠ "" ∧ ∀ c ∈ component.toList, Text.isBlank c = false) ↔
      "" ∉ statement.components ∧ statement.hasBlank = false := by
  rw [hasBlank_eq_false_iff]
  exact ⟨fun h => ⟨fun hempty => (h "" hempty).1 rfl, fun component hmem => (h component hmem).2⟩,
    fun ⟨hempty, htoken⟩ component hmem =>
      ⟨fun h => hempty (h ▸ hmem), htoken component hmem⟩⟩

theorem parse_code_eq_ok_iff :
    parse statement.code = .ok statement ↔
      "" ∉ statement.components ∧ statement.hasBlank = false := by
  constructor
  · intro hparse
    exact ⟨(parse_eq_ok_iff.mp hparse).2, hasBlank_eq_false_of_parse hparse⟩
  · rintro ⟨hempty, hblank⟩
    exact parse_eq_ok_iff.mpr ⟨splitBlank_code hblank, hempty⟩

end Import

namespace ImportValidator

/-- The validator gives back a set of valid imports as it is, and otherwise answers with all those
that are not valid. -/
structure Checks (validator : ImportValidator) (valid : Import → Prop) : Prop where
  unchanged : ∀ imports : ImportSet, (∀ statement ∈ imports, valid statement) →
    validator imports = .ok imports
  offending : ∀ imports : ImportSet, ¬ (∀ statement ∈ imports, valid statement) →
    ∃ rejected, validator imports = .error rejected ∧
      ∀ statement, statement ∈ rejected.toList ↔ statement ∈ imports ∧ ¬ valid statement

theorem rejecting_eq_ok_iff {rejects : Import → Bool} {imports : ImportSet} :
    rejecting rejects imports = .ok imports ↔ imports.items.filter rejects = [] := by
  rw [← NonEmpty.ofList?_eq_none_iff, rejecting]
  cases NonEmpty.ofList? (imports.items.filter rejects) <;> simp

theorem exists_rejecting_eq_error {rejects : Import → Bool} {imports : ImportSet}
    (hrejected : imports.items.filter rejects ≠ []) :
    ∃ rejected, rejecting rejects imports = .error rejected ∧
      rejected.toList = imports.items.filter rejects := by
  obtain ⟨rejected, hlist⟩ := NonEmpty.exists_eq_toList_of_ne_nil hrejected
  refine ⟨rejected, ?_, hlist.symm⟩
  rw [rejecting, NonEmpty.ofList?_eq_some_iff.mpr hlist]

theorem checks_rejecting (rejects : Import → Bool) :
    (rejecting rejects).Checks fun statement => rejects statement = false where
  unchanged imports hvalid := by
    rw [rejecting_eq_ok_iff, List.filter_eq_nil_iff]
    exact fun statement hmem => Bool.not_eq_true _ ▸ hvalid statement hmem
  offending imports hlost := by
    have hrejected : imports.items.filter rejects ≠ [] := fun hnil => hlost fun statement hmem =>
      Bool.not_eq_true _ ▸ List.filter_eq_nil_iff.mp hnil statement hmem
    obtain ⟨rejected, hanswer, hlist⟩ := exists_rejecting_eq_error hrejected
    refine ⟨rejected, hanswer, fun statement => ?_⟩
    rw [hlist, List.mem_filter, Bool.not_eq_false, AscendingSet.mem_items]

theorem checks_standard : standard.Checks fun statement => statement.hasBlank = false :=
  checks_rejecting Import.hasBlank

/-- The imports that are rejected by default are those that are not read back. -/
theorem mem_filter_hasBlank_iff {imports : ImportSet}
    (hfilled : ∀ statement ∈ imports, "" ∉ statement.components) {statement : Import} :
    statement ∈ imports.items.filter Import.hasBlank ↔
      statement ∈ imports ∧ Import.parse statement.code ≠ .ok statement := by
  rw [List.mem_filter, AscendingSet.mem_items, and_congr_right_iff]
  intro hmem
  rw [ne_eq, Import.parse_code_eq_ok_iff, not_and, Bool.not_eq_false]
  exact ⟨fun hblank _ => hblank, fun h => h (hfilled statement hmem)⟩

theorem filter_hasBlank_eq_nil_iff {imports : ImportSet}
    (hfilled : ∀ statement ∈ imports, "" ∉ statement.components) :
    imports.items.filter Import.hasBlank = [] ↔
      ∀ statement ∈ imports, Import.parse statement.code = .ok statement := by
  simp only [List.eq_nil_iff_forall_not_mem, mem_filter_hasBlank_iff hfilled, not_and, not_not]

end ImportValidator

namespace Import

/-- Code is read back as the same statement exactly when no component is empty or holds a blank.
So a set of statements without empty components is accepted by default when all of them are read
back, and otherwise the answer is those that are not, in ascending order and each once; what was
read is always accepted. -/
theorem code_is_read_back_iff :
    (∀ statement : Import, parse statement.code = .ok statement ↔
      ∀ component ∈ statement.components,
        component ≠ "" ∧ ∀ c ∈ component.toList, Text.isBlank c = false) ∧
    (∀ imports : ImportSet, (∀ statement ∈ imports, "" ∉ statement.components) →
      (ImportValidator.standard imports = .ok imports ↔
        ∀ statement ∈ imports, parse statement.code = .ok statement) ∧
      (¬ (∀ statement ∈ imports, parse statement.code = .ok statement) →
        ∃ rejected, ImportValidator.standard imports = .error rejected ∧
          Ascending.IsSorted rejected.toList ∧ rejected.toList.Nodup ∧
          ∀ statement, statement ∈ rejected.toList ↔
            statement ∈ imports ∧ parse statement.code ≠ .ok statement)) ∧
    ∀ imports : ImportSet, (∀ statement ∈ imports, ∃ text, parse text = .ok statement) →
      ImportValidator.standard imports = .ok imports := by
  refine ⟨fun statement => parse_code_eq_ok_iff.trans forall_components_iff.symm,
    fun imports hfilled => ⟨?_, fun hlost => ?_⟩, fun imports hread => ?_⟩
  · rw [ImportValidator.standard, ImportValidator.rejecting_eq_ok_iff,
      ImportValidator.filter_hasBlank_eq_nil_iff hfilled]
  · rw [← ImportValidator.filter_hasBlank_eq_nil_iff hfilled] at hlost
    obtain ⟨rejected, hrejected, hlist⟩ := ImportValidator.exists_rejecting_eq_error hlost
    have hascending : Ascending.IsSorted rejected.toList := hlist ▸ imports.isSorted.filter _
    refine ⟨rejected, hrejected, hascending, Ascending.nodup_of_isSorted hascending,
      fun statement => ?_⟩
    rw [hlist, ImportValidator.mem_filter_hasBlank_iff hfilled]
  · refine ImportValidator.checks_standard.unchanged imports fun statement hmem => ?_
    obtain ⟨text, hparse⟩ := hread statement hmem
    exact hasBlank_eq_false_of_parse hparse

/-- All components are keywords. -/
def keywords : Import := { source := "import", identifier? := some "as", alias? := some "import" }

/-- The code reads like that of a statement of another shape. -/
def disguised : Import := { source := "a as b" }

theorem code_is_read_back_iff_disguised :
    let imports : ImportSet := .ofList [keywords, disguised]
    parse keywords.code = .ok keywords ∧
      parse disguised.code = .ok { source := "a", alias? := some "b" } ∧
      parse disguised.code ≠ .ok disguised ∧
      (∀ statement ∈ imports, "" ∉ statement.components) ∧
      (∃ rejected, ImportValidator.standard imports = .error rejected ∧
        ∀ statement, statement ∈ rejected.toList ↔
          statement ∈ imports ∧ parse statement.code ≠ .ok statement) ∧
      ImportValidator.standard (.single keywords) = .ok (.single keywords) := by
  intro imports
  obtain ⟨hreads, hsets, hparsed⟩ := code_is_read_back_iff
  have hkeywords : parse keywords.code = .ok keywords :=
    (hreads keywords).mpr (forall_components_iff.mpr (by decide))
  have hother : parse disguised.code = .ok { source := "a", alias? := some "b" } :=
    (hreads { source := "a", alias? := some "b" }).mpr (forall_components_iff.mpr (by decide))
  have hdisguised : parse disguised.code ≠ .ok disguised := by
    rw [hother]
    decide
  have hmem : disguised ∈ imports := AscendingSet.mem_ofList_iff.mpr (by decide)
  have hfilled : ∀ statement ∈ imports, "" ∉ statement.components := by decide
  obtain ⟨rejected, hrejected, _, _, hoffending⟩ :=
    (hsets imports hfilled).2 fun h => hdisguised (h disguised hmem)
  refine ⟨hkeywords, hother, hdisguised, hfilled, ⟨rejected, hrejected, hoffending⟩, ?_⟩
  refine hparsed (.single keywords) fun statement hstatement => ?_
  obtain rfl := AscendingSet.mem_single.mp hstatement
  exact ⟨_, hkeywords⟩

end Import

end TaskScript
