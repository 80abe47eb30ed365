import ControlPlane.Proofs.Lock.Course

/-!
# What an acquisition reports

Whatever the table answers, an acquisition asks it once to create the lock, and only if there is one
already it looks at that one, once. Nothing is ever deleted, so a stale lock stays with its holder.
What is reported is decided by these two answers and by the time after them
(`acquisition_truthful`): a lock that was not created is never reported as acquired, and one that
exists is never reported as anything but a conflict, unless looking at it fails.
-/
namespace ControlPlane.LockService

variable {Step Reply σ : Type}

/-- The locks that are to be created, with the answers. -/
def creations (exchanges : List (GuardExchange Step Reply)) :
    List (Lock × Except LockTableError Unit) :=
  exchanges.filterMap fun
    | ⟨.create lock, answer⟩ => some (lock, answer)
    | _ => none

/-- The identifiers that are looked up, with the answers. -/
def lookUps (exchanges : List (GuardExchange Step Reply)) :
    List (String × Except LockTableError Lock) :=
  exchanges.filterMap fun
    | ⟨.get lockId, answer⟩ => some (lockId, answer)
    | _ => none

/-- The times that are read. -/
def times (exchanges : List (GuardExchange Step Reply)) : List Instant :=
  exchanges.filterMap fun
    | ⟨.clock, now⟩ => some now
    | _ => none

/-- A conflict tells what was to be created, and what was seen of the lock in the way. -/
structure Describes (service : LockService) (lock : Lock)
    (seen : List (Except LockTableError Lock)) (exchanges : List (GuardExchange Step Reply))
    (conflict : LockConflict) : Prop where
  /-- The attempted lock is the one that was to be created. -/
  attempted : conflict.attempted = lock
  /-- There is no holder exactly if the lock in the way was gone. -/
  gone : conflict.holder = none ↔ ∃ missing, seen = [.error (.notFound missing)]
  /-- The holder is exactly the lock that was seen. -/
  holder : ∀ holder, conflict.holder = some holder ↔ seen = [.ok holder]
  /-- The holder is stale exactly if its age, when it was seen, exceeds the threshold. -/
  stale : ∀ holder, conflict.holder = some holder → ∃ now, times exchanges = [lock.madeAt, now] ∧
    (conflict.stale = true ↔ (service.staleAfter.nanoseconds : Int) < holder.age now)
  /-- A lock that was gone is not stale. -/
  fresh : conflict.holder = none → conflict.stale = false

/-- What an acquisition of a lock asks for and reports, if the creation of the lock is answered in
one way and the look at the lock in the way, if there is one, in another. -/
structure Truthful (service : LockService) (lock : Lock) (created : Except LockTableError Unit)
    (seen : List (Except LockTableError Lock)) (exchanges : List (GuardExchange Step Reply))
    (result : Except LockError LockOutcome) : Prop where
  /-- The lock is made for the present request and time, and then it is to be created. -/
  start : service.creation lock created <+: exchanges
  /-- Nothing else is to be created. -/
  once : creations exchanges = [(lock, created)]
  /-- Only the identifier of the lock is looked up. -/
  looks : lookUps exchanges = seen.map fun answer => (lock.id, answer)
  /-- It is looked up once if the lock exists already, and otherwise not at all. -/
  looked : (∃ lockId answer, created = .error (.alreadyExists lockId) ∧ seen = [answer]) ∨
    (∀ lockId, created ≠ .error (.alreadyExists lockId)) ∧ seen = []
  /-- Nothing is deleted. -/
  kept : ∀ exchange ∈ exchanges, ∀ lockId, exchange.1 ≠ .delete lockId
  /-- A lock is reported as acquired exactly if it was created. -/
  acquired : ∀ taken, result = .ok (.acquired taken) ↔ created = .ok () ∧ taken = lock
  /-- A conflict is reported exactly if the lock exists already, and was seen or was gone. -/
  contested : (∃ conflict, result = .ok (.conflict conflict)) ↔
    (∃ lockId, created = .error (.alreadyExists lockId)) ∧
      ((∃ holder, seen = [.ok holder]) ∨ ∃ missing, seen = [.error (.notFound missing)])
  /-- A conflict tells what was to be created and what was seen. -/
  conflict : ∀ conflict, result = .ok (.conflict conflict) →
    Describes service lock seen exchanges conflict
  /-- Every other answer is reported as the error that it is. -/
  failed : ∀ error, result = .error error ↔ ∃ failure, error = .table failure ∧
    ((created = .error failure ∧ ∀ lockId, failure ≠ .alreadyExists lockId) ∨
      seen = [.error failure] ∧ ∀ missing, failure ≠ .notFound missing)

variable {service : LockService} {lock : Lock} {exchanges : List (GuardExchange Step Reply)}
  {result : Except LockError LockOutcome}

/-- However an acquisition goes, its report is truthful. -/
theorem Attempt.truthful (attempt : service.Attempt lock exchanges result) :
    ∃ created seen, service.Truthful lock created seen exchanges result := by
  cases attempt with
  | acquired =>
    refine ⟨.ok (), [], ?_⟩
    constructor
    case acquired => simp [eq_comm]
    all_goals simp [creation, creations, lookUps]
  | @failed error other =>
    refine ⟨.error error, [], ?_⟩
    constructor
    case failed =>
      intro reported
      constructor
      · rintro ⟨⟩
        exact ⟨error, rfl, .inl ⟨rfl, other⟩⟩
      · rintro ⟨failure, rfl, ⟨⟨⟩, -⟩ | ⟨⟨⟩, -⟩⟩
        rfl
    all_goals simp [creation, creations, lookUps, other]
  | vanished lockId missing =>
    refine ⟨.error (.alreadyExists lockId), [.error (.notFound missing)], ?_⟩
    constructor
    case conflict =>
      rintro conflict ⟨⟩
      constructor <;> simp
    case failed =>
      intro reported
      constructor
      · nofun
      · rintro ⟨failure, -, ⟨⟨⟩, other⟩ | ⟨⟨⟩, other⟩⟩
        · exact absurd rfl (other lockId)
        · exact absurd rfl (other missing)
    all_goals simp [creation, creations, lookUps]
  | @unread lockId error other =>
    refine ⟨.error (.alreadyExists lockId), [.error error], ?_⟩
    constructor
    case contested => simp [other]
    case failed =>
      intro reported
      constructor
      · rintro ⟨⟩
        exact ⟨error, rfl, .inr ⟨rfl, other⟩⟩
      · rintro ⟨failure, rfl, ⟨⟨⟩, unheld⟩ | ⟨⟨⟩, -⟩⟩
        · exact absurd rfl (unheld lockId)
        · rfl
    all_goals simp [creation, creations, lookUps]
  | blocked lockId holder now =>
    refine ⟨.error (.alreadyExists lockId), [.ok holder], ?_⟩
    constructor
    case conflict =>
      -- the second look at the clock is the one that the age is taken at
      have read : times (service.creation lock (.error (.alreadyExists lockId)) ++
          [(GuardRequest.get lock.id).gets (.ok holder), GuardRequest.clock.gets now] :
            List (GuardExchange Step Reply)) = [lock.madeAt, now] := rfl
      rintro conflict ⟨⟩
      constructor
      case stale =>
        rintro found ⟨⟩
        exact ⟨now, read, decide_eq_true_iff⟩
      all_goals simp
    case failed =>
      intro reported
      constructor
      · nofun
      · rintro ⟨failure, -, ⟨⟨⟩, other⟩ | ⟨⟨⟩, -⟩⟩
        exact absurd rfl (other lockId)
    all_goals simp [creation, creations, lookUps]

/-- Taking a lock is an acquisition, with a conflict as an error. -/
theorem acquire_eq (service : LockService) (key : LockKey) (data : JsonObject) :
    (service.acquire key data : Guarded Step Reply (Except LockError Lock)) =
      (service.tryAcquire key data).bind fun outcome => .done (required outcome) := by
  refine congrArg (Program.bind (service.tryAcquire key data)) (funext fun outcome => ?_)
  cases outcome with
  | error error => rfl
  | ok outcome => cases outcome <;> rfl

/-- Whatever is answered, an acquisition makes one attempt to create the lock of its key, for the
present request, time and data, and reports truthfully what came of it. If a conflict is to be an
error, nothing else is done, and the report is the same. -/
theorem acquisition_truthful (surroundings : Surroundings (guardInterface Step Reply) σ)
    (service : LockService) (key : LockKey) (data : JsonObject) (before : σ) :
    let attempt : Guarded Step Reply (Except LockError LockOutcome) := service.tryAcquire key data
    let acquisition : Guarded Step Reply (Except LockError Lock) := service.acquire key data
    (∃ requestId now created seen, service.Truthful (Lock.ofKey key requestId data now) created seen
      (attempt.exchanges surroundings before) (attempt.run surroundings before).1) ∧
    acquisition.exchanges surroundings before = attempt.exchanges surroundings before ∧
    (acquisition.run surroundings before).1 = required (attempt.run surroundings before).1 := by
  intro attempt acquisition
  have same : acquisition = attempt.bind fun outcome => .done (required outcome) :=
    acquire_eq service key data
  refine ⟨?_, ?_, ?_⟩
  · obtain ⟨requestId, now, course⟩ :=
      path_tryAcquire (Program.path_run surroundings attempt before)
    exact ⟨requestId, now, course.truthful⟩
  · rw [same, Program.exchanges_bind]
    exact List.append_nil _
  · rw [same, Program.run_bind]
    rfl

end ControlPlane.LockService
