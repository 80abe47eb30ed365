import ControlPlane.Compensation
import ControlPlane.Proofs.Exchange

/-!
# Courses of compensated operations

A compensated operation applies a new state, then does its body, and undoes the first only after an
error of the second (`path_run`). The error of the body is the result, whatever the rollback gives.
-/
namespace ControlPlane.Compensation

variable {interface : Interface} {τ α ε υ : Type}

/-- A rollback undoes once and gives the error that it was begun for. -/
theorem path_rollBack {note : Event → interface.Mark} {resource : String}
    {undo : Program interface (Except υ Unit)} {describe : ε → String} {describeUndo : υ → String}
    {error : ε} {exchanges : List (Exchange interface)} {result : Except ε α}
    (path : Program.Path (rollBack note resource undo describe describeUndo error) exchanges
      (.done result)) :
    ∃ undone, Program.Path undo exchanges (.done undone) ∧ result = .error error := by
  unfold rollBack at path
  have afterWarning := Program.path_mark_bind.mp path
  obtain ⟨undone, front, rest, back, afterUndo, rfl⟩ := Program.path_bind_done.mp afterWarning
  refine ⟨undone, ?_⟩
  cases undone with
  | ok done =>
    obtain ⟨rfl, rfl⟩ := Program.path_pure.mp afterUndo
    exact ⟨by rwa [List.append_nil], rfl⟩
  | error undoError =>
    have afterReport := Program.path_mark_bind.mp afterUndo
    obtain ⟨rfl, rfl⟩ := Program.path_pure.mp afterReport
    exact ⟨by rwa [List.append_nil], rfl⟩

/-- What could not be applied is the end; after what could, the body is done, and its error alone
is followed by undoing. -/
theorem path_run {note : Event → interface.Mark} {resource : String} {describe : ε → String}
    {describeUndo : υ → String} {apply : Program interface (Except ε τ)}
    {undo : τ → Program interface (Except υ Unit)} {body : Program interface (Except ε α)}
    {exchanges : List (Exchange interface)} {result : Except ε α}
    (path : Program.Path (run note resource describe describeUndo apply undo body) exchanges
      (.done result)) :
    (∃ error, Program.Path apply exchanges (.done (.error error)) ∧ result = .error error) ∨
      ∃ token front inner, Program.Path apply front (.done (.ok token)) ∧
        ((∃ value, Program.Path body inner (.done (.ok value)) ∧ exchanges = front ++ inner ∧
            result = .ok value) ∨
          ∃ error back undone, Program.Path body inner (.done (.error error)) ∧
            Program.Path (undo token) back (.done undone) ∧
            exchanges = front ++ inner ++ back ∧ result = .error error) := by
  unfold run at path
  obtain ⟨applied, front, rest, first, afterApply, rfl⟩ := Program.path_bind_done.mp path
  cases applied with
  | error error =>
    obtain ⟨rfl, rfl⟩ := Program.path_pure.mp afterApply
    exact .inl ⟨error, by rwa [List.append_nil], rfl⟩
  | ok token =>
    obtain ⟨outcome, inner, back, work, afterBody, rfl⟩ := Program.path_bind_done.mp afterApply
    refine .inr ⟨token, front, inner, first, ?_⟩
    cases outcome with
    | ok value =>
      obtain ⟨rfl, rfl⟩ := Program.path_pure.mp afterBody
      exact .inl ⟨value, work, by rw [List.append_nil], rfl⟩
    | error error =>
      obtain ⟨undone, undoing, rfl⟩ := path_rollBack afterBody
      exact .inr ⟨error, back, undone, work, undoing, by rw [List.append_assoc], rfl⟩

end ControlPlane.Compensation
