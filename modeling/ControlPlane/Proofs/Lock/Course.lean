import ControlPlane.Lock.Service
import ControlPlane.Proofs.Exchange

/-!
# Courses of lock operations

The exchanges that taking, releasing and holding a lock can make, each with the result that it leads
to, whatever the table answers. `Attempt` lists those of an acquisition, and `path_tryAcquire` says
that there are no others. An operation that holds a lock (`path_withLock`) is an acquisition, the
whole of its body, and one release.
-/
namespace ControlPlane

/-- An exchange of guarded operations. -/
abbrev GuardExchange (Step Reply : Type) : Type := Exchange (guardInterface Step Reply)

/-- A request of guarded operations with its answer. -/
abbrev GuardRequest.gets {Step Reply : Type} (request : GuardRequest Step)
    (answer : request.Answer Reply) : GuardExchange Step Reply := ⟨request, answer⟩

namespace LockService

variable {Step Reply α ε : Type}

/-- The requests that an acquisition starts with: whom it works for, the time, and the creation of
a lock, with the answer to that. -/
def creation (service : LockService) (lock : Lock) (answer : Except LockTableError Unit) :
    List (GuardExchange Step Reply) :=
  [(GuardRequest.requestId service.name).gets lock.requestId, GuardRequest.clock.gets lock.madeAt,
    (GuardRequest.create lock).gets answer]

/-- The exchanges of an acquisition of a lock, and its result. -/
inductive Attempt (service : LockService) (lock : Lock) :
    List (GuardExchange Step Reply) → Except LockError LockOutcome → Prop where
  /-- The lock is created. -/
  | acquired : Attempt service lock (service.creation lock (.ok ())) (.ok (.acquired lock))
  /-- The creation fails, but not because there is such a lock. -/
  | failed {error : LockTableError} (other : ∀ lockId, error ≠ .alreadyExists lockId) :
      Attempt service lock (service.creation lock (.error error)) (.error (.table error))
  /-- There was such a lock, which is gone when it is looked up. -/
  | vanished (lockId missing : String) :
      Attempt service lock
        (service.creation lock (.error (.alreadyExists lockId)) ++
          [(GuardRequest.get lock.id).gets (.error (.notFound missing))])
        (.ok (.conflict ⟨lock, none, false⟩))
  /-- There is such a lock, but it cannot be looked up. -/
  | unread (lockId : String) {error : LockTableError}
      (other : ∀ missing, error ≠ .notFound missing) :
      Attempt service lock
        (service.creation lock (.error (.alreadyExists lockId)) ++
          [(GuardRequest.get lock.id).gets (.error error)])
        (.error (.table error))
  /-- There is such a lock, and it is looked up and compared with the clock. -/
  | blocked (lockId : String) (holder : Lock) (now : Instant) :
      Attempt service lock
        (service.creation lock (.error (.alreadyExists lockId)) ++
          [(GuardRequest.get lock.id).gets (.ok holder), GuardRequest.clock.gets now])
        (.ok (.conflict ⟨lock, some holder, holder.isStale service.staleAfter now⟩))

/-- Looking at the lock in the way asks for it once, and for the time if it is there. -/
theorem path_inspect {service : LockService} {attempted : Lock} {lockId : String}
    {exchanges : List (GuardExchange Step Reply)} {result : Except LockError LockOutcome}
    (path : Program.Path (service.inspect attempted) exchanges (.done result)) :
    service.Attempt attempted
      (service.creation attempted (.error (.alreadyExists lockId)) ++ exchanges) result := by
  unfold inspect at path
  obtain ⟨answer, rest, rfl, afterGet⟩ := Program.path_request_bind.mp path
  clear path
  cases answer with
  | error error =>
    cases error with
    | notFound missing =>
      obtain ⟨rfl, rfl⟩ := Program.path_pure.mp afterGet
      exact .vanished lockId missing
    | _ =>
      obtain ⟨rfl, rfl⟩ := Program.path_pure.mp afterGet
      exact .unread lockId (by simp)
  | ok holder =>
    obtain ⟨now, rest, rfl, afterClock⟩ := Program.path_request_bind.mp afterGet
    have blocked := @Attempt.blocked Step Reply service attempted lockId holder now
    by_cases stale : holder.isStale service.staleAfter now
    · rw [if_pos stale] at afterClock
      have afterReport := Program.path_mark_bind.mp afterClock
      obtain ⟨rfl, rfl⟩ := Program.path_pure.mp afterReport
      rwa [stale] at blocked
    · rw [if_neg stale] at afterClock
      obtain ⟨rfl, rfl⟩ := Program.path_pure.mp afterClock
      rwa [Bool.not_eq_true _ |>.mp stale] at blocked

/-- An acquisition attempts the lock of its key, and makes no other exchanges. -/
theorem path_tryAcquire {service : LockService} {key : LockKey} {data : JsonObject}
    {exchanges : List (GuardExchange Step Reply)} {result : Except LockError LockOutcome}
    (path : Program.Path (service.tryAcquire key data) exchanges (.done result)) :
    ∃ requestId now, service.Attempt (Lock.ofKey key requestId data now) exchanges result := by
  unfold tryAcquire at path
  obtain ⟨requestId, rest, rfl, afterName⟩ := Program.path_request_bind.mp path
  obtain ⟨now, rest, rfl, afterClock⟩ := Program.path_request_bind.mp afterName
  obtain ⟨answer, rest, rfl, afterCreate⟩ := Program.path_request_bind.mp afterClock
  refine ⟨requestId, now, ?_⟩
  cases answer with
  | ok created =>
    have afterMark := Program.path_mark_bind.mp afterCreate
    obtain ⟨rfl, rfl⟩ := Program.path_pure.mp afterMark
    exact .acquired
  | error error =>
    cases error with
    | alreadyExists lockId => exact path_inspect (Program.path_mark_bind.mp afterCreate)
    | _ =>
      obtain ⟨rfl, rfl⟩ := Program.path_pure.mp afterCreate
      exact .failed (by simp)

/-- What an acquisition gives if a conflict is an error. -/
def required : Except LockError LockOutcome → Except LockError Lock
  | .ok (.acquired lock) => .ok lock
  | .ok (.conflict conflict) => .error (.locked conflict)
  | .error error => .error error

/-- Taking a lock is an acquisition whose conflicts are errors. -/
theorem path_acquire {service : LockService} {key : LockKey} {data : JsonObject}
    {exchanges : List (GuardExchange Step Reply)} {result : Except LockError Lock}
    (path : Program.Path (service.acquire key data) exchanges (.done result)) :
    ∃ requestId now outcome, service.Attempt (Lock.ofKey key requestId data now) exchanges outcome ∧
      result = required outcome := by
  unfold acquire at path
  obtain ⟨outcome, front, back, first, second, rfl⟩ := Program.path_bind_done.mp path
  obtain ⟨requestId, now, attempt⟩ := path_tryAcquire first
  refine ⟨requestId, now, outcome, ?_⟩
  cases outcome with
  | error error =>
    obtain ⟨rfl, rfl⟩ := Program.path_pure.mp second
    exact ⟨by rwa [List.append_nil], rfl⟩
  | ok outcome =>
    cases outcome with
    | acquired lock =>
      obtain ⟨rfl, rfl⟩ := Program.path_pure.mp second
      exact ⟨by rwa [List.append_nil], rfl⟩
    | conflict conflict =>
      obtain ⟨rfl, rfl⟩ := Program.path_pure.mp second
      exact ⟨by rwa [List.append_nil], rfl⟩

/-- What a release gives for an answer of the table. -/
def releaseResult : Except LockTableError Unit → Except LockError Unit
  | .ok () => .ok ()
  | .error (.notFound lockId) => .error (.notHeld lockId)
  | .error error => .error (.table error)

/-- A release asks for one deletion, and leaves a mark if it is made. -/
theorem release_bind (service : LockService) (lock : Lock)
    (next : Except LockError Unit → Guarded Step Reply α) :
    service.release lock >>= next = @Program.ask (guardInterface Step Reply) α
      (GuardRequest.delete lock.id) fun answer => match answer with
        | .ok () => .leave (.released service.name) (next (.ok ()))
        | .error error => next (releaseResult (.error error)) := by
  refine congrArg (@Program.ask (guardInterface Step Reply) α _) (funext fun answer => ?_)
  cases answer with
  | ok deleted => rfl
  | error error => cases error <;> rfl

/-- A refused deletion is a failed release. -/
theorem exists_releaseResult_error (failure : LockTableError) :
    ∃ error, releaseResult (.error failure) = .error error := by
  cases failure <;> exact ⟨_, rfl⟩

/-- A release is one deletion. -/
theorem path_release {service : LockService} {lock : Lock}
    {exchanges : List (GuardExchange Step Reply)} {result : Except LockError Unit}
    (path : Program.Path (service.release lock) exchanges (.done result)) :
    ∃ answer, exchanges = [(GuardRequest.delete lock.id).gets answer] ∧
      result = releaseResult answer := by
  unfold release at path
  obtain ⟨answer, rest, rfl, afterDelete⟩ := Program.path_request_bind.mp path
  refine ⟨answer, ?_⟩
  cases answer with
  | ok deleted =>
    have afterMark := Program.path_mark_bind.mp afterDelete
    obtain ⟨rfl, rfl⟩ := Program.path_pure.mp afterMark
    exact ⟨rfl, rfl⟩
  | error error =>
    cases error with
    | _ =>
      obtain ⟨rfl, rfl⟩ := Program.path_pure.mp afterDelete
      exact ⟨rfl, rfl⟩

/-- The result of holding a lock meanwhile: the error of the body counts more than one of the
release. -/
def concluded (lift : LockError → ε) : Except ε α → Except LockError Unit → Except ε α
  | .ok value, .ok () => .ok value
  | .ok _, .error error => .error (lift error)
  | .error error, _ => .error error

/-- A success is that of the body. -/
theorem eq_of_concluded_ok {lift : LockError → ε} {value other : α}
    {released : Except LockError Unit} (given : concluded lift (.ok value) released = .ok other) :
    other = value := by
  cases released with
  | ok freed => exact (Except.ok.inj given).symm
  | error error => cases given

/-- If the release goes well, the result is that of the body. -/
theorem concluded_ok (lift : LockError → ε) (outcome : Except ε α) :
    concluded lift outcome (releaseResult (.ok ())) = outcome := by
  cases outcome <;> rfl

/-- Under a lock that is not acquired nothing is done; under one that is, the body is done, and then
the lock is released once. -/
theorem path_withLock {service : LockService} {key : LockKey} {lift : LockError → ε}
    {body : Guarded Step Reply (Except ε α)} {exchanges : List (GuardExchange Step Reply)}
    {result : Except ε α}
    (path : Program.Path (service.withLock key lift body) exchanges (.done result)) :
    ∃ requestId now, let lock := Lock.ofKey key requestId JsonObject.empty now
      (∃ outcome error, service.Attempt lock exchanges outcome ∧ required outcome = .error error ∧
        result = .error (lift error)) ∨
      ∃ inner outcome answer, Program.Path body inner (.done outcome) ∧
        exchanges = service.creation lock (.ok ()) ++ inner ++
          [(GuardRequest.delete lock.id).gets answer] ∧
        result = concluded lift outcome (releaseResult answer) := by
  unfold withLock at path
  obtain ⟨taken, front, rest, first, afterAcquire, rfl⟩ := Program.path_bind_done.mp path
  obtain ⟨requestId, now, outcome, attempt, given⟩ := path_acquire first
  refine ⟨requestId, now, ?_⟩
  cases taken with
  | error error =>
    obtain ⟨rfl, rfl⟩ := Program.path_pure.mp afterAcquire
    exact .inl ⟨outcome, error, by rwa [List.append_nil], given.symm, rfl⟩
  | ok lock =>
    obtain ⟨bodyResult, inner, rest, work, afterBody, rfl⟩ := Program.path_bind_done.mp afterAcquire
    obtain ⟨released, last, rest, release, afterRelease, rfl⟩ := Program.path_bind_done.mp afterBody
    obtain ⟨answer, rfl, rfl⟩ := path_release release
    cases attempt with
    | acquired =>
      cases given
      have last : rest = [] ∧ result = concluded lift bodyResult (releaseResult answer) := by
        generalize releaseResult answer = released at afterRelease
        cases bodyResult with
        | ok value => cases released with
          | ok freed => exact Program.path_pure.mp afterRelease
          | error error => exact Program.path_pure.mp afterRelease
        | error error => cases released with
          | ok freed => exact Program.path_pure.mp afterRelease
          | error releaseError =>
            have afterReport := Program.path_mark_bind.mp afterRelease
            exact Program.path_pure.mp afterReport
      obtain ⟨rfl, rfl⟩ := last
      refine .inr ⟨inner, bodyResult, answer, work, ?_, rfl⟩
      rw [List.append_nil, List.append_assoc]
    | failed other => cases given
    | vanished lockId missing => cases given
    | unread lockId other => cases given
    | blocked lockId holder now => cases given

end LockService

end ControlPlane
