/-
What a message is made of.  The library words a message around texts it was given, each of them
once; none of its own words ends a line, so a message has the line feeds of these texts and no
others.
-/
import TaskScript.Problem
import TaskScript.Proofs.Text.Lines

namespace TaskScript

open Text

namespace Import

theorem feeds_code (statement : Import) :
    feeds statement.code = feeds (String.join statement.components) := by
  obtain ⟨source, _ | identifier, _ | name⟩ := statement <;>
    simp (disch := decide) [code, components, feeds_of_not_mem, Nat.add_assoc]

/-- The text that could not be read. -/
def ParseError.text : ParseError → String
  | unrecognised text => text
  | emptyComponent text => text

theorem ParseError.feeds_message (error : ParseError) :
    feeds error.message = feeds error.text := by
  unfold message
  cases error <;> simp (disch := decide) [text, feeds_of_not_mem]

end Import

theorem NameTaken.feeds_message (error : NameTaken) : feeds error.message = feeds error.name := by
  unfold message
  simp (disch := decide) [feeds_of_not_mem]

theorem Unassigned.feeds_message (error : Unassigned) :
    feeds error.message = feeds error.field := by
  unfold message
  simp (disch := decide) [feeds_of_not_mem]

theorem Reassigned.feeds_message (error : Reassigned) :
    feeds error.message = feeds error.field := by
  unfold message
  simp (disch := decide) [feeds_of_not_mem]

theorem TaskKind.feeds_name (kind : TaskKind) : feeds kind.name = 0 := by
  cases kind <;> decide

theorem Marker.feeds_text (marker : Marker) : feeds marker.text = 0 := by
  cases marker <;> decide

theorem TaskId.feeds_text (id : TaskId) : feeds id.text = 0 := by
  simp (disch := decide) [text, feeds_of_not_mem, feeds_repr]

namespace Failure

/-- The texts that a cause was given. -/
def Cause.texts : Cause → List String
  | nameTaken error => [error.name]
  | abstractKind _ => []
  | unreadableImport error => [error.text]
  | unassigned error => [error.field]
  | reassigned error => [error.field]
  | other message => [message]

theorem Cause.feeds_message (cause : Cause) :
    feeds cause.message = feeds (String.join cause.texts) := by
  unfold message texts
  cases cause with
  | nameTaken error => exact error.feeds_message
  | abstractKind kind =>
      simp (disch := decide) [feeds_of_not_mem, kind.feeds_name]
  | unreadableImport error => exact error.feeds_message
  | unassigned error => exact error.feeds_message
  | reassigned error => exact error.feeds_message
  | other message => rfl

/-- The contexts and what the cause was given. -/
def texts (failure : Failure) : List String := failure.contexts ++ failure.cause.texts

theorem feeds_message (failure : Failure) :
    feeds failure.message = feeds (String.join failure.texts) := by
  rw [message, feeds_intercalate (by decide), texts]
  simp [failure.cause.feeds_message]

end Failure

namespace Problem

/-- The texts that a problem was given, in the order of its message. -/
def texts : Problem → List String
  | unreadableImport error => [error.text]
  | nameTaken error => [error.name]
  | unassigned task error => [task, error.field]
  | invalidTask _ name => [name]
  | invalidVariable name => [name]
  | rejectedImport statement => statement.components
  | cycle tasks => tasks
  | dependsOnLast last dependents => last :: dependents
  | danglingDependency task => [task]
  | unknownMarker _ _ => []
  | missingRequired name => [name]
  | configuration failure => failure.texts

theorem feeds_message (problem : Problem) :
    feeds problem.message = feeds (String.join problem.texts) := by
  unfold message texts
  cases problem with
  | unreadableImport error => exact error.feeds_message
  | nameTaken error => exact error.feeds_message
  | unassigned task error =>
      simp (disch := decide) [feeds_of_not_mem, error.feeds_message]
  | invalidTask kind name =>
      simp (disch := decide) [feeds_of_not_mem, kind.feeds_name]
  | invalidVariable name => simp (disch := decide) [feeds_of_not_mem]
  | rejectedImport statement =>
      simp (disch := decide) [feeds_of_not_mem, statement.feeds_code]
  | cycle tasks =>
      simp (disch := decide) [feeds_of_not_mem, feeds_intercalate]
  | dependsOnLast last dependents =>
      simp (disch := decide) [feeds_of_not_mem, feeds_intercalate]
  | danglingDependency task => simp (disch := decide) [feeds_of_not_mem]
  | unknownMarker marker id =>
      simp (disch := decide) [feeds_of_not_mem, marker.feeds_text, id.feeds_text]
  | missingRequired name => simp (disch := decide) [feeds_of_not_mem]
  | configuration failure =>
      simp (disch := decide) [feeds_of_not_mem, failure.feeds_message]

theorem texts_ofFailure {failure : Failure} {text : String}
    (htext : text ∈ (ofFailure failure).texts) :
    text ∈ failure.texts ∨ text = "<configuration>" := by
  unfold ofFailure at htext
  cases hcause : failure.cause with
  | nameTaken error | unreadableImport error =>
      rw [hcause] at htext
      exact .inl (List.mem_append_right _ (hcause ▸ htext))
  | unassigned error =>
      rw [hcause] at htext
      rcases List.mem_pair.mp htext with rfl | rfl
      · exact .inr rfl
      · refine .inl (List.mem_append_right _ ?_)
        rw [hcause]
        exact List.mem_singleton_self _
  | abstractKind kind | reassigned error | other message =>
      rw [hcause] at htext
      exact .inl htext

end Problem

end TaskScript
