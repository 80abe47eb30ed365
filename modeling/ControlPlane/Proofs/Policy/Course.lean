import ControlPlane.Policy.Update
import ControlPlane.Proofs.Compensation
import ControlPlane.Proofs.Lock.Course

/-!
# Courses of protection updates

The exchanges that an update can make while it holds its lock, each with the result that it leads
to, whatever the store answers. There are six courses (`EditCourse`), and `path_editStored` says
that there are no others.
-/
namespace ControlPlane.Protection

variable {Step Reply α ε : Type}

/-- The exchanges of fetching, editing and putting back a policy around a body, and the result. -/
inductive EditCourse (store principal : String) (edit : Edit) (lift : UpdateError → ε)
    (body : Guarded Step Reply (Except ε α)) :
    List (GuardExchange Step Reply) → Except ε α → Prop where
  /-- The policy cannot be fetched. -/
  | unfetched (failure : ServiceFailure) :
      EditCourse store principal edit lift body
        [(GuardRequest.fetch store).gets (.error failure)] (.error (lift (.store store failure)))
  /-- The policy cannot be edited. -/
  | refused {stored : Option PolicyDocument} {error : PolicyError}
      (edited : edit.applyToStored stored principal = .error error) :
      EditCourse store principal edit lift body
        [(GuardRequest.fetch store).gets (.ok stored)] (.error (lift (.policy error)))
  /-- The edit is in effect already, and only the body runs. -/
  | kept {stored : Option PolicyDocument} {work : List (GuardExchange Step Reply)}
      {outcome : Except ε α} (edited : edit.applyToStored stored principal = .ok none)
      (worked : Program.Path body work (.done outcome)) :
      EditCourse store principal edit lift body
        ((GuardRequest.fetch store).gets (.ok stored) :: work) outcome
  /-- The edited policy cannot be put. -/
  | unwritten {stored : Option PolicyDocument} {document : PolicyDocument}
      (edited : edit.applyToStored stored principal = .ok (some document))
      (failure : ServiceFailure) :
      EditCourse store principal edit lift body
        [(GuardRequest.fetch store).gets (.ok stored),
          (GuardRequest.put store (storable document)).gets (.error failure)]
        (.error (lift (.store store failure)))
  /-- The edited policy is put, and the body succeeds. -/
  | written {stored : Option PolicyDocument} {document : PolicyDocument}
      {work : List (GuardExchange Step Reply)} {value : α}
      (edited : edit.applyToStored stored principal = .ok (some document))
      (worked : Program.Path body work (.done (.ok value))) :
      EditCourse store principal edit lift body
        ((GuardRequest.fetch store).gets (.ok stored) ::
          (GuardRequest.put store (storable document)).gets (.ok ()) :: work) (.ok value)
  /-- The edited policy is put, the body fails, and the fetched policy is put back. -/
  | undone {stored : Option PolicyDocument} {document : PolicyDocument}
      {work : List (GuardExchange Step Reply)} {error : ε}
      (edited : edit.applyToStored stored principal = .ok (some document))
      (worked : Program.Path body work (.done (.error error)))
      (answer : Except ServiceFailure Unit) :
      EditCourse store principal edit lift body
        ((GuardRequest.fetch store).gets (.ok stored) ::
          (GuardRequest.put store (storable document)).gets (.ok ()) ::
          work ++ [(GuardRequest.put store stored).gets answer]) (.error error)

/-- Putting a policy is one request, and its token is the policy to go back to. -/
theorem path_replace {store : String} {lift : UpdateError → ε}
    {prior policy : Option PolicyDocument} {exchanges : List (GuardExchange Step Reply)}
    {result : Except ε (Option PolicyDocument)}
    (path : Program.Path (replace store lift prior policy) exchanges (.done result)) :
    (∃ failure, exchanges = [(GuardRequest.put store policy).gets (.error failure)] ∧
        result = .error (lift (.store store failure))) ∨
      exchanges = [(GuardRequest.put store policy).gets (.ok ())] ∧ result = .ok prior := by
  unfold replace at path
  obtain ⟨answer, rest, rfl, afterPut⟩ := Program.path_request_bind.mp path
  cases answer with
  | error failure =>
    obtain ⟨rfl, rfl⟩ := Program.path_pure.mp afterPut
    exact .inl ⟨failure, rfl, rfl⟩
  | ok written =>
    obtain ⟨rfl, rfl⟩ := Program.path_pure.mp afterPut
    exact .inr ⟨rfl, rfl⟩

/-- Editing a stored policy takes one of the six courses. -/
theorem path_editStored {store principal : String} {edit : Edit} {lift : UpdateError → ε}
    {describe : ε → String} {body : Guarded Step Reply (Except ε α)}
    {exchanges : List (GuardExchange Step Reply)} {result : Except ε α}
    (path : Program.Path (editStored store principal edit lift describe body) exchanges
      (.done result)) :
    EditCourse store principal edit lift body exchanges result := by
  unfold editStored at path
  obtain ⟨answer, rest, rfl, afterFetch⟩ := Program.path_request_bind.mp path
  cases answer with
  | error failure =>
    obtain ⟨rfl, rfl⟩ := Program.path_pure.mp afterFetch
    exact .unfetched failure
  | ok stored =>
    obtain ⟨marked, front, back, noted, afterMarks, rfl⟩ := Program.path_bind_done.mp afterFetch
    cases Program.path_marks_done.mp noted
    generalize edited : edit.applyToStored stored principal = answer at afterMarks
    cases answer with
    | error error =>
      obtain ⟨rfl, rfl⟩ := Program.path_pure.mp afterMarks
      exact .refused edited
    | ok changed => cases changed with
      | none => exact .kept edited afterMarks
      | some document =>
        obtain ⟨error, applied, rfl⟩ | ⟨token, front, work, applied, after⟩ :=
          Compensation.path_run afterMarks
        · obtain ⟨failure, rfl, same⟩ | ⟨-, same⟩ := path_replace applied
          · cases same
            exact .unwritten edited failure
          · cases same
        · obtain ⟨failure, -, same⟩ | ⟨rfl, same⟩ := path_replace applied
          · cases same
          · cases same
            obtain ⟨value, worked, rfl, rfl⟩ | ⟨error, back, undone, worked, undoing, rfl, rfl⟩ :=
              after
            · exact .written edited worked
            · obtain ⟨answer, rest, rfl, afterPut⟩ := Program.path_ask_done.mp undoing
              obtain ⟨rfl, -⟩ := Program.path_done.mp afterPut
              exact .undone edited worked answer

end ControlPlane.Protection
