/-
Patterns over sequences.  A pattern is a list of slots, each a literal or a
wildcard; matching binds the wildcards from left to right, and `fill` is the way
back.  A list of rules answers with its first rule that matches.
-/
namespace TaskScript

variable {α β : Type}

/-- One position of a pattern. -/
inductive Slot (α : Type) where
  /-- Matches exactly this element. -/
  | literal (value : α)
  /-- Matches any element and binds it. -/
  | wildcard
  deriving DecidableEq, Repr

abbrev Pattern (α : Type) := List (Slot α)

namespace Pattern

/-- The elements bound by the wildcards when `candidate` matches. -/
def bindings? [DecidableEq α] : Pattern α → List α → Option (List α)
  | [], [] => some []
  | .wildcard :: slots, x :: xs => (bindings? slots xs).map (x :: ·)
  | .literal value :: slots, x :: xs =>
      if x = value then bindings? slots xs else none
  | [], _ :: _ => none
  | _ :: _, [] => none

def wildcards : Pattern α → Nat
  | [] => 0
  | .wildcard :: slots => wildcards slots + 1
  | .literal _ :: slots => wildcards slots

/-- Replaces the wildcards by `bound`, which must have one element for each. -/
def fill? : Pattern α → List α → Option (List α)
  | [], [] => some []
  | .wildcard :: slots, x :: bound => (fill? slots bound).map (x :: ·)
  | .literal value :: slots, bound => (fill? slots bound).map (value :: ·)
  | [], _ :: _ => none
  | .wildcard :: _, [] => none

theorem bindings?_eq_some_iff [DecidableEq α] {pattern : Pattern α} {candidate bound : List α} :
    pattern.bindings? candidate = some bound ↔ pattern.fill? bound = some candidate := by
  induction pattern generalizing candidate bound with
  | nil => cases candidate <;> cases bound <;> simp [bindings?, fill?]
  | cons slot slots ih =>
      cases slot with
      | wildcard =>
          rcases candidate with _ | ⟨x, xs⟩ <;> rcases bound with _ | ⟨y, ys⟩
          · simp [bindings?, fill?]
          · simp [bindings?, fill?]
          · simp [bindings?, fill?]
          · simp only [bindings?, fill?, Option.map_eq_some_iff, List.cons.injEq, ih]
            constructor <;> rintro ⟨_, hfill, rfl, rfl⟩ <;> exact ⟨_, hfill, rfl, rfl⟩
      | literal value =>
          rcases candidate with _ | ⟨x, xs⟩
          · simp [bindings?, fill?]
          · by_cases hx : x = value <;> simp [bindings?, fill?, ih, hx, eq_comm (a := value)]

end Pattern

/-- What a candidate that matches `pattern` stands for. -/
structure Rule (α β : Type) where
  pattern : Pattern α
  conclude : List α → β

namespace Rule

/-- What this rule makes of `candidate`, if it matches. -/
def conclusion? [DecidableEq α] (rule : Rule α β) (candidate : List α) : Option β :=
  (rule.pattern.bindings? candidate).map rule.conclude

/-- The conclusion of the first rule that matches. -/
def evaluate [DecidableEq α] (rules : List (Rule α β)) (candidate : List α) : Option β :=
  rules.findSome? (·.conclusion? candidate)

/-- Draws the conclusion of the first rule that matches.  Drawing a conclusion may do more than
give a result. -/
def evaluateM {m : Type → Type} [Monad m] [DecidableEq α] :
    List (Rule α (m β)) → List α → m (Option β)
  | [], _ => return none
  | rule :: rules, candidate =>
      match rule.pattern.bindings? candidate with
      | some bound => return some (← rule.conclude bound)
      | none => evaluateM rules candidate

end Rule

example : Pattern.bindings? [.literal 1, .wildcard] [1, 5] = some [5] := by decide

example : Pattern.fill? [.literal 1, .wildcard] [5] = some [1, 5] := by decide

example : Pattern.bindings? [.literal 1, .wildcard] [1] = none := by decide

end TaskScript
