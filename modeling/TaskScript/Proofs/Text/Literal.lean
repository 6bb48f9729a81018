/-
A quoted text reads back.  `cut?` looks at a backslash together with the character behind it, and
so does every escape that `quote` writes: neither an own quote of the text nor a backslash at its
end is taken for the end of the literal, whatever follows it.
-/
import TaskScript.Proofs.Text.Breaks

namespace TaskScript.Text

section Cut

variable {chars body after : List Char}

theorem cut?_of_plain {c : Char} (hquote : c ≠ '"') (hplain : ¬ (c = '\\' ∨ c = '\n' ∨ c = '\r'))
    (rest : List Char) :
    cut? (c :: rest) = (cut? rest).map fun (body, after) => (c :: body, after) := by
  rw [cut?, if_neg hplain]
  · exact hquote
  · intro _ _ hc _
    exact hplain (.inl hc)

theorem cut?_escapeChar (c : Char) (rest : List Char) :
    cut? (escapeChar c ++ rest) =
      (cut? rest).map fun (body, after) => (escapeChar c ++ body, after) := by
  have hplain : ∀ escaped ∈ escapeChar c, Plain escaped := fun _ => plain_of_mem_escapeChar
  unfold escapeChar at hplain ⊢
  split
  case h_6 hbackslash hquote _ _ _ =>
    have hnot : ¬ (c = '\\' ∨ c = '\n' ∨ c = '\r') := by
      rintro (hc | hc | hc)
      · exact hbackslash hc
      · exact (hplain c (by simp)).1 hc
      · exact (hplain c (by simp)).2 hc
    exact cut?_of_plain hquote hnot rest
  all_goals rfl

/-- Behind a quoted text the cut finds the quote that closes it. -/
theorem cut?_escaped (text rest : List Char) :
    cut? (text.flatMap escapeChar ++ '"' :: rest) = some (text.flatMap escapeChar, rest) := by
  induction text with
  | nil => rfl
  | cons c text ih =>
      rw [List.flatMap_cons, List.append_assoc, cut?_escapeChar, ih, Option.map_some]

/-- What follows a literal has no say in where it ends. -/
theorem cut?_append (hcut : cut? chars = some (body, after)) (more : List Char) :
    cut? (chars ++ more) = some (body, after ++ more) := by
  fun_induction cut? chars generalizing body after with
  | case1 => cases hcut
  | case2 rest =>
      cases hcut
      rfl
  | case3 c rest ih =>
      obtain ⟨⟨body, after⟩, hrest, heq⟩ := Option.map_eq_some_iff.mp hcut
      cases heq
      rw [List.cons_append, List.cons_append, cut?, ih hrest, Option.map_some]
  | case4 => cases hcut
  | case5 c rest hquote hescape hnot ih =>
      obtain ⟨⟨body, after⟩, hrest, heq⟩ := Option.map_eq_some_iff.mp hcut
      cases heq
      rw [List.cons_append, cut?_of_plain hquote hnot, ih hrest, Option.map_some]

end Cut

section Read

variable (further : List Char → Option (List Char × Nat))

theorem decode?_escapeChar (c : Char) (rest : List Char) :
    decode? further (escapeChar c ++ rest) = (decode? further rest).map (c :: ·) := by
  unfold escapeChar
  split
  case h_6 hbackslash _ _ _ _ =>
    rw [List.singleton_append, decode?, if_neg hbackslash]
  all_goals
    rw [List.cons_append, List.singleton_append, decode?, if_pos rfl]
    rfl

theorem decode?_escaped (text : List Char) :
    decode? further (text.flatMap escapeChar) = some text := by
  induction text with
  | nil => rw [List.flatMap_nil, decode?]
  | cons c text ih => rw [List.flatMap_cons, decode?_escapeChar, ih, Option.map_some]

theorem unquote?_quoteChars (text rest : List Char) :
    unquote? further (quoteChars text ++ rest) = some (text, rest) := by
  have hcut : cut? (text.flatMap escapeChar ++ ['"'] ++ rest) =
      some (text.flatMap escapeChar, rest) := by
    rw [List.append_assoc]
    exact cut?_escaped text rest
  rw [quoteChars, List.cons_append, unquote?, hcut]
  simp [decode?_escaped]

/-- A literal that is read at the start of a text is read at the start of every longer one. -/
theorem unquote?_append {chars read after : List Char}
    (hread : unquote? further chars = some (read, after)) (more : List Char) :
    unquote? further (chars ++ more) = some (read, after ++ more) := by
  unfold unquote? at hread
  split at hread
  · rename_i rest
    simp only [Option.bind_eq_bind, Option.bind_eq_some_iff, Option.pure_def,
      Option.some.injEq, Prod.exists, Prod.mk.injEq] at hread
    obtain ⟨body, after, hcut, chars, hdecode, rfl, rfl⟩ := hread
    rw [List.cons_append, unquote?, cut?_append hcut more]
    simp [hdecode]
  · cases hread

end Read

/-- The literal of a text is all that is read of it, whatever stands behind, and it is read as the
text.  No shorter piece of it is a literal, two literals that texts start with are the same, and no
line ends in one. -/
theorem quote_is_read_back (further : List Char → Option (List Char × Nat)) (text rest : String) :
    unquote? further (quote text ++ rest).toList = some (text.toList, rest.toList) ∧
    (∀ front back, front ++ back = quote text → back ≠ "" →
      unquote? further front.toList = none) ∧
    (∀ other more, quote text ++ rest = quote other ++ more → text = other ∧ rest = more) ∧
    Unbroken (quote text) := by
  have hread : ∀ text rest : String,
      unquote? further (quote text ++ rest).toList = some (text.toList, rest.toList) := by
    intro text rest
    rw [String.toList_append, quote, String.toList_ofList]
    exact unquote?_quoteChars further text.toList rest.toList
  refine ⟨hread text rest, ?_, ?_, unbroken_quote text⟩
  · intro front back hparts hback
    by_contra hsome
    obtain ⟨⟨chars, after⟩, hfront⟩ := Option.ne_none_iff_exists'.mp hsome
    have hwhole := hread text ""
    rw [String.append_empty, ← hparts, String.toList_append,
      unquote?_append further hfront] at hwhole
    have hnone : after ++ back.toList = [] := (Prod.mk.inj (Option.some.inj hwhole)).2
    exact hback (String.toList_inj.mp (List.append_eq_nil_iff.mp hnone).2)
  · intro other more heq
    have hpair := (hread text rest).symm.trans ((congrArg _ (congrArg _ heq)).trans
      (hread other more))
    obtain ⟨htext, hrest⟩ := Prod.mk.inj (Option.some.inj hpair)
    exact ⟨String.toList_inj.mp htext, String.toList_inj.mp hrest⟩

/-- A backslash before an own quote, a line end and a backslash at the end, with quotes behind. -/
theorem quote_is_read_back_backslashes :
    quote "\\\"\n\\" = "\"\\\\\\\"\\n\\\\\"" ∧
    unquote? (fun _ => none) (quote "\\\"\n\\" ++ "\", \"").toList =
      some ("\\\"\n\\".toList, "\", \"".toList) ∧
    unquote? (fun _ => none) "\"\\\\\\\"".toList = none ∧
    quote "\\\"\n\\" ++ "\"" ≠ quote "\\" ++ "\"" := by
  have hcase := quote_is_read_back (fun _ => none) "\\\"\n\\"
  refine ⟨by decide, (hcase "\", \"").1, (hcase "").2.1 _ "\\n\\\\\"" (by decide) (by decide), ?_⟩
  intro heq
  exact absurd ((hcase "\"").2.2.1 "\\" "\"" heq).1 (by decide)

end TaskScript.Text
