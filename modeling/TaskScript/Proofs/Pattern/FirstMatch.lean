/-
The first match wins.  Matching is the way back of filling, so what a pattern binds is known from
the candidate alone; and of a list of rules only the first one that matches is asked for its
conclusion, whatever comes after it.
-/
import TaskScript.Pattern

namespace TaskScript

variable {α β : Type}

namespace Pattern

variable {pattern : Pattern α} {bound other filled candidate : List α}

/-- The wildcards can be filled so that the pattern gives the candidate. -/
def Matches (pattern : Pattern α) (candidate : List α) : Prop :=
  ∃ bound, pattern.fill? bound = some candidate

/-- Filling takes one element for each wildcard. -/
theorem length_of_fill? (hfill : pattern.fill? bound = some filled) :
    bound.length = pattern.wildcards := by
  induction pattern generalizing bound filled with
  | nil =>
      cases bound with
      | nil => rfl
      | cons x rest => cases hfill
  | cons slot slots ih =>
      cases slot with
      | wildcard =>
          cases bound with
          | nil => cases hfill
          | cons x rest =>
              obtain ⟨tail, htail, _⟩ := Option.map_eq_some_iff.mp hfill
              exact congrArg (· + 1) (ih htail)
      | literal value =>
          rw [fill?] at hfill
          obtain ⟨tail, htail, _⟩ := Option.map_eq_some_iff.mp hfill
          exact ih htail

/-- What fills the wildcards can be read off the result. -/
theorem eq_of_fill?_eq (hbound : pattern.fill? bound = some filled)
    (hother : pattern.fill? other = some filled) : bound = other := by
  classical
  rw [← bindings?_eq_some_iff] at hbound hother
  exact Option.some.inj (hbound.symm.trans hother)

theorem bindings?_eq_none_iff [DecidableEq α] :
    pattern.bindings? candidate = none ↔ ¬ pattern.Matches candidate := by
  rw [Option.eq_none_iff_forall_ne_some, Matches, not_exists]
  exact forall_congr' fun bound => not_congr bindings?_eq_some_iff

end Pattern

namespace Rule

/-- The first rule of the list that matches stands at the index and binds these elements. -/
structure IsFirst (rules : List (Rule α β)) (candidate : List α) (index : Nat) (rule : Rule α β)
    (bound : List α) : Prop where
  stands : rules[index]? = some rule
  fills : rule.pattern.fill? bound = some candidate
  least : ∀ earlier < index, ∀ other, rules[earlier]? = some other →
    ¬ other.pattern.Matches candidate

variable {rules : List (Rule α β)} {rule first : Rule α β} {candidate bound : List α}
  {index : Nat}

namespace IsFirst

theorem head (hfill : rule.pattern.fill? bound = some candidate) :
    IsFirst (rule :: rules) candidate 0 rule bound :=
  ⟨rfl, hfill, fun _ hearlier => absurd hearlier (Nat.not_lt_zero _)⟩

theorem tail (hfirst : ¬ first.pattern.Matches candidate)
    (hrest : IsFirst rules candidate index rule bound) :
    IsFirst (first :: rules) candidate (index + 1) rule bound where
  stands := hrest.stands
  fills := hrest.fills
  least earlier hearlier other hother := by
    cases earlier with
    | zero =>
        obtain rfl := Option.some.inj hother
        exact hfirst
    | succ earlier => exact hrest.least earlier (Nat.lt_of_succ_lt_succ hearlier) other hother

/-- A first match is the head of the list, or the head does not match. -/
theorem cons_cases (h : IsFirst (first :: rules) candidate index rule bound) :
    (index = 0 ∧ first = rule) ∨
      ∃ next, index = next + 1 ∧ ¬ first.pattern.Matches candidate ∧
        IsFirst rules candidate next rule bound := by
  cases index with
  | zero => exact .inl ⟨rfl, Option.some.inj h.stands⟩
  | succ next =>
      refine .inr ⟨next, rfl, h.least 0 next.succ_pos first rfl, h.stands, h.fills, ?_⟩
      intro earlier hearlier other hother
      exact h.least (earlier + 1) (Nat.succ_lt_succ hearlier) other hother

/-- Rules behind the first match do not matter. -/
theorem append (hfirst : IsFirst rules candidate index rule bound) (more : List (Rule α β)) :
    IsFirst (rules ++ more) candidate index rule bound := by
  have hindex : index < rules.length := (List.getElem?_eq_some_iff.mp hfirst.stands).1
  refine ⟨(List.getElem?_append_left hindex).trans hfirst.stands, hfirst.fills, ?_⟩
  intro earlier hearlier other hother
  rw [List.getElem?_append_left (Nat.lt_trans hearlier hindex)] at hother
  exact hfirst.least earlier hearlier other hother

end IsFirst

/-- If any rule matches there is a first one. -/
theorem exists_isFirst (hmatch : ∃ rule ∈ rules, rule.pattern.Matches candidate) :
    ∃ index rule bound, IsFirst rules candidate index rule bound := by
  induction rules with
  | nil =>
      obtain ⟨rule, hrule, _⟩ := hmatch
      cases hrule
  | cons first rest ih =>
      by_cases hfirst : first.pattern.Matches candidate
      · obtain ⟨bound, hfill⟩ := hfirst
        exact ⟨0, first, bound, .head hfill⟩
      · obtain ⟨rule, hrule, hmatches⟩ := hmatch
        have hrest : rule ∈ rest := by
          rcases List.mem_cons.mp hrule with rfl | hrest
          · exact absurd hmatches hfirst
          · exact hrest
        obtain ⟨index, rule, bound, hindex⟩ := ih ⟨rule, hrest, hmatches⟩
        exact ⟨index + 1, rule, bound, hindex.tail hfirst⟩

section Evaluation

variable {m : Type → Type} [Monad m] [DecidableEq α] {actions : List (Rule α (m β))}
  {action first : Rule α (m β)}

theorem evaluateM_cons_of_fill? (hfill : action.pattern.fill? bound = some candidate) :
    evaluateM (action :: actions) candidate = do return some (← action.conclude bound) := by
  rw [evaluateM, Pattern.bindings?_eq_some_iff.mpr hfill]

theorem evaluateM_cons_of_not_matches (hfirst : ¬ first.pattern.Matches candidate) :
    evaluateM (first :: actions) candidate = evaluateM actions candidate := by
  rw [evaluateM, Pattern.bindings?_eq_none_iff.mpr hfirst]

/-- All that is done is to draw the conclusion of the first match. -/
theorem evaluateM_of_isFirst (hfirst : IsFirst actions candidate index action bound) :
    evaluateM actions candidate = do return some (← action.conclude bound) := by
  induction actions generalizing index with
  | nil => cases hfirst.stands
  | cons first rest ih =>
      rcases hfirst.cons_cases with ⟨_, rfl⟩ | ⟨next, _, hskipped, hrest⟩
      · exact evaluateM_cons_of_fill? hfirst.fills
      · rw [evaluateM_cons_of_not_matches hskipped]
        exact ih hrest

theorem evaluateM_of_not_matches
    (hnone : ∀ action ∈ actions, ¬ action.pattern.Matches candidate) :
    evaluateM actions candidate = pure none := by
  induction actions with
  | nil => rfl
  | cons first rest ih =>
      rw [evaluateM_cons_of_not_matches (hnone first List.mem_cons_self)]
      exact ih fun action haction => hnone action (List.mem_cons_of_mem first haction)

/-- Where conclusions do nothing else, evaluating is looking for the first one. -/
theorem evaluate_eq_evaluateM (rules : List (Rule α β)) (candidate : List α) :
    evaluate rules candidate = Id.run (evaluateM (m := Id) rules candidate) := by
  induction rules with
  | nil => rfl
  | cons rule rest ih =>
      rw [evaluate, List.findSome?_cons, conclusion?]
      cases hbound : rule.pattern.bindings? candidate with
      | some bound =>
          rw [evaluateM_cons_of_fill? (Pattern.bindings?_eq_some_iff.mp hbound)]
          rfl
      | none =>
          rw [evaluateM_cons_of_not_matches (Pattern.bindings?_eq_none_iff.mp hbound)]
          exact ih

theorem evaluate_of_isFirst (hfirst : IsFirst rules candidate index rule bound) :
    evaluate rules candidate = some (rule.conclude bound) := by
  rw [evaluate_eq_evaluateM]
  exact evaluateM_of_isFirst (m := Id) hfirst

theorem evaluate_eq_none_iff :
    evaluate rules candidate = none ↔ ∀ rule ∈ rules, ¬ rule.pattern.Matches candidate := by
  constructor
  · intro hnone rule hrule hmatches
    obtain ⟨index, first, bound, hfirst⟩ := exists_isFirst ⟨rule, hrule, hmatches⟩
    rw [evaluate_of_isFirst hfirst] at hnone
    cases hnone
  · intro hnone
    rw [evaluate_eq_evaluateM]
    exact evaluateM_of_not_matches (m := Id) hnone

theorem evaluate_eq_some_iff {result : β} :
    evaluate rules candidate = some result ↔
      ∃ index rule bound, IsFirst rules candidate index rule bound ∧
        rule.conclude bound = result := by
  constructor
  · intro hresult
    have hmatch : ∃ rule ∈ rules, rule.pattern.Matches candidate := by
      have hsome : ¬ ∀ rule ∈ rules, ¬ rule.pattern.Matches candidate := by
        rw [← evaluate_eq_none_iff, hresult]
        exact Option.some_ne_none result
      simpa using hsome
    obtain ⟨index, rule, bound, hfirst⟩ := exists_isFirst hmatch
    refine ⟨index, rule, bound, hfirst, ?_⟩
    rw [evaluate_of_isFirst hfirst] at hresult
    exact Option.some.inj hresult
  · rintro ⟨index, rule, bound, hfirst, rfl⟩
    exact evaluate_of_isFirst hfirst

end Evaluation

/-- A pattern matches with the elements that fill its wildcards to give the candidate, one for each
wildcard, and no others do.  Of a list of rules the first that matches gives its conclusion on
what it binds, there is no answer when none matches, and rules behind change no answer.  Whatever
conclusions do besides, that of the first match is the only one drawn. -/
theorem first_match_wins [DecidableEq α] :
    (∀ (pattern : Pattern α) (candidate bound : List α),
      pattern.bindings? candidate = some bound ↔
        bound.length = pattern.wildcards ∧ pattern.fill? bound = some candidate) ∧
    (∀ (pattern : Pattern α) (candidate bound other : List α),
      pattern.fill? bound = some candidate → pattern.fill? other = some candidate →
        bound = other) ∧
    (∀ (rules : List (Rule α β)) (candidate : List α),
      (∀ result, evaluate rules candidate = some result ↔
        ∃ index rule bound, IsFirst rules candidate index rule bound ∧
          rule.conclude bound = result) ∧
      (evaluate rules candidate = none ↔ ∀ rule ∈ rules, ¬ rule.pattern.Matches candidate) ∧
      (∀ result more, evaluate rules candidate = some result →
        evaluate (rules ++ more) candidate = some result) ∧
      evaluate rules candidate = Id.run (evaluateM (m := Id) rules candidate)) ∧
    ∀ (m : Type → Type) [Monad m] (actions : List (Rule α (m β))) (candidate : List α),
      (∀ index action bound, IsFirst actions candidate index action bound →
        ∀ more, evaluateM (actions ++ more) candidate =
          do return some (← action.conclude bound)) ∧
      ((∀ action ∈ actions, ¬ action.pattern.Matches candidate) →
        evaluateM actions candidate = pure none) := by
  refine ⟨fun pattern candidate bound => ?_, fun _ _ _ _ => Pattern.eq_of_fill?_eq,
    fun rules candidate => ⟨fun _ => evaluate_eq_some_iff, evaluate_eq_none_iff, ?_,
      evaluate_eq_evaluateM rules candidate⟩,
    fun m _ actions candidate => ⟨?_, evaluateM_of_not_matches⟩⟩
  · rw [Pattern.bindings?_eq_some_iff]
    exact ⟨fun hfill => ⟨Pattern.length_of_fill? hfill, hfill⟩, And.right⟩
  · intro result more hresult
    obtain ⟨index, rule, bound, hfirst, rfl⟩ := evaluate_eq_some_iff.mp hresult
    exact evaluate_of_isFirst (hfirst.append more)
  · intro index action bound hfirst more
    exact evaluateM_of_isFirst (hfirst.append more)

/-- The second rule matches all that the first and the third do. -/
def overlapping (conclude : Nat → List String → β) : List (Rule String β) :=
  [{ pattern := [.literal "import", .wildcard], conclude := conclude 0 },
   { pattern := [.wildcard, .wildcard], conclude := conclude 1 },
   { pattern := [.literal "from", .wildcard], conclude := conclude 2 }]

theorem isFirst_overlapping (conclude : Nat → List String → β) :
    IsFirst (overlapping conclude) ["from", "a"] 1
      { pattern := [.wildcard, .wildcard], conclude := conclude 1 } ["from", "a"] :=
  .tail (Pattern.bindings?_eq_none_iff.mp (by simp [Pattern.bindings?])) (.head rfl)

/-- Each conclusion writes down which rule it belongs to. -/
def noted (index : Nat) (bound : List String) : StateM (List Nat) (List String) := do
  modify (index :: ·)
  return bound

theorem first_match_wins_overlapping :
    Pattern.bindings? [.literal "from", .wildcard] ["from", "a"] = some ["a"] ∧
      (∀ bound, Pattern.fill? [.literal "from", .wildcard] bound = some ["from", "a"] →
        bound = ["a"]) ∧
      (∀ more, evaluate (overlapping (fun index bound => bound ++ [toString index]) ++ more)
        ["from", "a"] = some ["from", "a", "1"]) ∧
      evaluate (overlapping fun _ bound => bound) ["import"] = none ∧
      (evaluateM (overlapping noted) ["from", "a"]).run [] = (some ["from", "a"], [1]) ∧
      (evaluateM (overlapping noted) ["import"]).run [] = (none, []) := by
  obtain ⟨hbinds, hunique, hrules, hactions⟩ :=
    first_match_wins (α := String) (β := List String)
  have hnone : ∀ {β : Type} (conclude : Nat → List String → β),
      ∀ rule ∈ overlapping conclude, ¬ rule.pattern.Matches ["import"] := by
    intro β conclude rule hrule
    rw [← Pattern.bindings?_eq_none_iff]
    simp only [overlapping, List.mem_cons, List.not_mem_nil, or_false] at hrule
    rcases hrule with rfl | rfl | rfl <;> simp [Pattern.bindings?]
  have hfilled : Pattern.fill? [.literal "from", .wildcard] ["a"] = some ["from", "a"] := rfl
  refine ⟨(hbinds _ _ _).mpr ⟨rfl, hfilled⟩, fun bound h => hunique _ _ _ _ h hfilled,
    fun more => ?_, (hrules _ _).2.1.mpr (hnone _), ?_, ?_⟩
  · obtain ⟨hfirst, _, hmore, _⟩ :=
      hrules (overlapping fun index bound => bound ++ [toString index]) ["from", "a"]
    exact hmore _ more ((hfirst _).mpr ⟨_, _, _, isFirst_overlapping _, by decide⟩)
  · have hdrawn := (hactions _ (overlapping noted) ["from", "a"]).1 _ _ _
      (isFirst_overlapping noted) []
    rw [List.append_nil] at hdrawn
    rw [hdrawn]
    rfl
  · rw [(hactions _ (overlapping noted) ["import"]).2 (hnone noted)]
    rfl

end Rule

end TaskScript
