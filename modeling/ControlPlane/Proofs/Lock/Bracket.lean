import ControlPlane.Proofs.Deeds
import ControlPlane.Proofs.Lock.Attempt

/-!
# Holding a lock meanwhile

Whatever the table answers, a body that is run under a lock is bracketed by the acquisition of the
lock and one deletion of it (`brackets`). Without the lock nothing is run and nothing is deleted.
-/
namespace ControlPlane

namespace Program

variable {interface : Interface} {α σ : Type}

/-- Marks are kept one after another before the result. -/
theorem run_marks_bind (surroundings : Surroundings interface σ) (marks : List interface.Mark)
    (result : α) (state : σ) :
    (Program.marks marks >>= fun _ => done result).run surroundings state =
      (result, marks.foldl (fun state mark => surroundings.keep mark state) state) := by
  induction marks generalizing state with
  | nil => rfl
  | cons first rest ih => exact ih _

/-- Marks before the result are all that is left in the log. -/
theorem log_marks_bind (surroundings : Surroundings interface σ) (marks : List interface.Mark)
    (result : α) (state : σ) :
    (Program.marks marks >>= fun _ => done result).log surroundings state =
      marks.map Deed.left := by
  induction marks generalizing state with
  | nil => rfl
  | cons first rest ih => exact congrArg (List.cons _) (ih _)

/-- In a log only allowed requests are answered. -/
theorem Asks.of_mem_log {allowed : interface.Request → Prop} {program : Program interface α}
    (asks : program.Asks allowed) {surroundings : Surroundings interface σ} {state : σ}
    {request : interface.Request} {answer : interface.Answer request}
    (member : .asked request answer ∈ program.log surroundings state) : allowed request := by
  induction program generalizing state with
  | done result => cases member
  | leave mark rest ih =>
    obtain same | later := List.mem_cons.mp member
    · cases same
    · exact ih asks later
  | ask first next ih =>
    obtain same | later := List.mem_cons.mp member
    · cases same
      exact asks.1
    · exact ih _ (asks.2 _) later

end Program

namespace LockService

variable {Step Reply α ε σ : Type}

/-- What is left behind after the release of a lock was asked for. -/
def closing (service : LockService) (lock : Lock) (outcome : Except ε α)
    (released : Except LockError Unit) : List GuardMark :=
  match outcome, released with
  | _, .ok () => [.released service.name]
  | .ok _, .error _ => []
  | .error _, .error error => [.event (releaseReport lock error)]

/-- A release that goes well is marked, whatever the body has come to. -/
theorem closing_ok (service : LockService) (lock : Lock) (outcome : Except ε α) :
    service.closing lock outcome (releaseResult (.ok ())) = [.released service.name] := by
  cases outcome <;> rfl

/-- The end of holding a lock meanwhile: one deletion, and the result. -/
def conclude (service : LockService) (lock : Lock) (lift : LockError → ε) (outcome : Except ε α) :
    Guarded Step Reply (Except ε α) :=
  Guarded.request (.delete lock.id) >>= fun answer =>
    Program.marks (service.closing lock outcome (releaseResult answer)) >>= fun _ =>
      Program.done (concluded lift outcome (releaseResult answer))

/-- Holding a lock meanwhile is an acquisition, the body, and the conclusion. -/
theorem withLock_eq (service : LockService) (key : LockKey) (lift : LockError → ε)
    (body : Guarded Step Reply (Except ε α)) :
    service.withLock key lift body = service.acquire key JsonObject.empty >>= fun
      | .error error => Program.done (.error (lift error))
      | .ok lock => body >>= service.conclude lock lift := by
  refine congrArg (Program.bind (service.acquire key JsonObject.empty)) (funext fun taken => ?_)
  cases taken with
  | error error => rfl
  | ok lock =>
    refine congrArg (Program.bind body) (funext fun outcome => ?_)
    refine (release_bind service lock _).trans ?_
    refine congrArg (Program.ask _) (funext fun answer => ?_)
    cases answer with
    | ok deleted => cases outcome <;> rfl
    | error failure => cases outcome <;> cases failure <;> rfl

/-- What attempts ask for: to look around, to create a lock, and what they go on with then. -/
theorem Attempting.asks {won : Lock → Guarded Step Reply α → Prop} {lost : α → Prop}
    {program : Guarded Step Reply α} {allowed : GuardRequest Step → Prop}
    (attempting : Attempting won lost program) (looks : ∀ request, request.Looks → allowed request)
    (creates : ∀ lock, allowed (.create lock))
    (later : ∀ lock rest, won lock rest → rest.Asks allowed) : program.Asks allowed := by
  induction attempting with
  | lost given => trivial
  | report event _ ih => exact ih
  | look found _ ih => exact ⟨looks _ found, ih⟩
  | create taken _ ih =>
    refine ⟨creates _, fun answer => ?_⟩
    cases answer with
    | ok created => exact later _ _ taken
    | error error => exact ih error

/-- An acquisition deletes nothing. -/
theorem acquire_asks (service : LockService) (key : LockKey) (data : JsonObject) :
    (service.acquire key data : Guarded Step Reply (Except LockError Lock)).Asks
      fun (request : GuardRequest Step) => ∀ lockId, request ≠ .delete lockId := by
  refine attempting_acquire.asks ?_ ?_ ?_
  · rintro request looks lockId rfl
    exact looks
  · intro lock lockId same
    cases same
  · rintro lock rest ⟨-, rfl⟩
    trivial

/-- A lock that is taken is one of the key, and it was created for this. -/
theorem path_acquire_ok {service : LockService} {key : LockKey} {data : JsonObject}
    {exchanges : List (GuardExchange Step Reply)} {lock : Lock}
    (path : Program.Path (service.acquire key data) exchanges (.done (.ok lock))) :
    lock.id = key.id ∧ exchanges = service.creation lock (.ok ()) := by
  obtain ⟨requestId, now, outcome, attempt, given⟩ := path_acquire path
  cases attempt with
  | acquired =>
    cases given
    exact ⟨rfl, rfl⟩
  | failed other => cases given
  | vanished lockId missing => cases given
  | unread lockId other => cases given
  | blocked lockId holder now => cases given

section Runs

variable {surroundings : Surroundings (guardInterface Step Reply) σ} {service : LockService}
  {key : LockKey} {body : Guarded Step Reply (Except ε α)} {before inside left freed : σ}
  {lock : Lock} {outcome : Except ε α} {answer : Except LockTableError Unit}

/-- The conclusion deletes the lock, and leaves marks only. -/
theorem run_conclude (service : LockService) (lift : LockError → ε) (outcome : Except ε α)
    (answered : surroundings.answer (.delete lock.id) left = (answer, freed)) :
    let marks := service.closing lock outcome (releaseResult answer)
    (service.conclude lock lift outcome).run surroundings left =
        (concluded lift outcome (releaseResult answer),
          marks.foldl (fun state mark => surroundings.keep mark state) freed) ∧
      (service.conclude lock lift outcome).log surroundings left =
        .asked (.delete lock.id) answer :: marks.map fun mark => .left mark := by
  intro marks
  constructor
  · refine (Program.run_ask answered).trans ?_
    exact Program.run_marks_bind surroundings marks _ freed
  · refine (Program.log_ask answered).trans (congrArg (List.cons _) ?_)
    exact Program.log_marks_bind surroundings marks _ freed

/-- Without the lock, holding it meanwhile is the acquisition and its error. -/
theorem run_withLock_refused (lift : LockError → ε) (body : Guarded Step Reply (Except ε α))
    {error : LockError}
    (refused : (service.acquire key JsonObject.empty).run surroundings before =
      (.error error, inside)) :
    (service.withLock key lift body).run surroundings before = (.error (lift error), inside) ∧
      (service.withLock key lift body).log surroundings before =
        (service.acquire key JsonObject.empty).log surroundings before := by
  rw [withLock_eq]
  constructor
  · refine (Program.run_bind surroundings _ _ before).trans ?_
    simp only [refused]
    rfl
  · rw [Program.log_bind, refused]
    exact List.append_nil _

/-- With the lock, holding it meanwhile is the acquisition, the body and the conclusion. -/
theorem run_withLock_held (lift : LockError → ε)
    (held : (service.acquire key JsonObject.empty).run surroundings before = (.ok lock, inside))
    (worked : body.run surroundings inside = (outcome, left)) :
    (service.withLock key lift body).run surroundings before =
        (service.conclude lock lift outcome).run surroundings left ∧
      (service.withLock key lift body).log surroundings before =
        (service.acquire key JsonObject.empty).log surroundings before ++
          (body.log surroundings inside ++
            (service.conclude lock lift outcome).log surroundings left) := by
  rw [withLock_eq]
  constructor
  · refine (Program.run_bind surroundings _ _ before).trans ?_
    simp only [held]
    refine (Program.run_bind surroundings body _ inside).trans ?_
    simp only [worked]
  · rw [Program.log_bind, held]
    simp only
    rw [Program.log_bind, worked]

end Runs

/-- A body that is run while a lock is held is bracketed by an acquisition and a deletion. -/
structure Brackets (surroundings : Surroundings (guardInterface Step Reply) σ)
    (service : LockService) (key : LockKey) (lift : LockError → ε)
    (body : Guarded Step Reply (Except ε α)) (before : σ) : Prop where
  /-- An acquisition deletes nothing. -/
  acquiring : ∀ lockId answer, .asked (.delete lockId) answer ∉
    (service.acquire key JsonObject.empty).log surroundings before
  /-- Without the lock the acquisition is all that is done, and its error is the result. -/
  refused : ∀ error after,
    (service.acquire key JsonObject.empty).run surroundings before = (.error error, after) →
      (service.withLock key lift body).run surroundings before = (.error (lift error), after) ∧
        (service.withLock key lift body).log surroundings before =
          (service.acquire key JsonObject.empty).log surroundings before
  /-- A lock that is acquired was created, under the id of the key. -/
  acquired : ∀ lock after,
    (service.acquire key JsonObject.empty).run surroundings before = (.ok lock, after) →
      lock.id = key.id ∧ (service.acquire key JsonObject.empty).exchanges surroundings before =
        service.creation lock (.ok ())
  /-- With the lock the body is done once, and then one deletion of the lock is asked for. The error
  of the body is the result, else that of the release, else the value of the body. -/
  held : ∀ lock inside outcome left answer freed,
    (service.acquire key JsonObject.empty).run surroundings before = (.ok lock, inside) →
      body.run surroundings inside = (outcome, left) →
        surroundings.answer (.delete lock.id) left = (answer, freed) →
          let marks := service.closing lock outcome (releaseResult answer)
          (service.withLock key lift body).run surroundings before =
              (concluded lift outcome (releaseResult answer),
                marks.foldl (fun state mark => surroundings.keep mark state) freed) ∧
            (service.withLock key lift body).log surroundings before =
              (service.acquire key JsonObject.empty).log surroundings before ++
                (body.log surroundings inside ++
                  .asked (.delete lock.id) answer :: marks.map fun mark => .left mark)

/-- Whatever is answered, a lock brackets what is run while it is held. -/
theorem brackets (surroundings : Surroundings (guardInterface Step Reply) σ)
    (service : LockService) (key : LockKey) (lift : LockError → ε)
    (body : Guarded Step Reply (Except ε α)) (before : σ) :
    Brackets surroundings service key lift body before := by
  constructor
  case acquiring =>
    intro lockId answer member
    exact (acquire_asks service key JsonObject.empty).of_mem_log member lockId rfl
  case refused => exact fun error after => run_withLock_refused lift body
  case acquired =>
    intro lock after taken
    have path := Program.path_run surroundings (service.acquire key JsonObject.empty) before
    rw [taken] at path
    exact path_acquire_ok path
  case held =>
    intro lock inside outcome left answer freed taken worked answered marks
    obtain ⟨run, log⟩ := run_withLock_held lift taken worked
    obtain ⟨concludes, closes⟩ := run_conclude service lift outcome answered
    exact ⟨run.trans concludes, log.trans (by rw [closes])⟩

end LockService

end ControlPlane
