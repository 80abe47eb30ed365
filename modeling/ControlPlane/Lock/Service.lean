import ControlPlane.Guard

/-!
# Taking locks

A lock service takes and releases locks for one request at a time and counts them, so that a lock
that is never released shows when the request finishes.

An acquisition tries to create the lock once. If there is one already, it is looked up once, to be
reported; the holder may have released it in between. No lock is ever taken away from its holder.
-/
namespace ControlPlane

/-- A lock that could not be taken because it is held. -/
structure LockConflict where
  /-- The lock that was to be created. -/
  attempted : Lock
  /-- The lock that was in the way, unless it was gone when it was looked up. -/
  holder : Option Lock
  /-- Whether the lock in the way is stale. -/
  stale : Bool

namespace LockConflict

/-- The wording of a conflict. -/
def message (conflict : LockConflict) : String :=
  let contact := "reach out to the platform team if this problem persists."
  match conflict.holder with
  | some _ => "Resource " ++ conflict.attempted.id ++ " is currently locked. Please " ++ contact
  | none =>
    "Resource " ++ conflict.attempted.id ++
      " was locked during the request. Please try again and " ++ contact

end LockConflict

/-- The result of trying to take a lock. -/
inductive LockOutcome where
  /-- The lock was acquired. -/
  | acquired (lock : Lock)
  /-- Someone else has the lock. -/
  | conflict (conflict : LockConflict)

/-- Why a lock could not be taken or released. -/
inductive LockError where
  /-- Someone else has the lock. -/
  | locked (conflict : LockConflict)
  /-- There is no lock to release. -/
  | notHeld (lockId : String)
  /-- The table failed. -/
  | table (error : LockTableError)

namespace LockError

/-- The wording of an error. -/
def message : LockError → String
  | locked conflict => conflict.message
  | notHeld lockId => "Lock '" ++ lockId ++ "' is not held and cannot be released"
  | table error => error.message

/-- Whether trying again may help. -/
def isTransient : LockError → Bool
  | locked _ => true
  | notHeld _ | table _ => false

end LockError

/-- Takes and releases locks for one request at a time. -/
structure LockService where
  /-- The name that the service is told apart by. -/
  name : String
  /-- A lock older than this is stale. -/
  staleAfter : Duration

namespace LockService

variable {Step Reply α ε : Type}

/-- The event of a lock that exists already. -/
def raceWarning (lock : Lock) : Event :=
  ⟨.warning, "Possible race condition detected",
    [("lock_id", .text lock.id), ("request_id", .text lock.requestId)]⟩

/-- The event of a stale lock in the way. -/
def staleReport (holder : Lock) : Event :=
  ⟨.error, "Stale lock is blocking requests; it must be released manually",
    [("lock_id", .text holder.id), ("holder_request_id", .text holder.requestId),
      ("locked_at", .text holder.madeAt.plainText)]⟩

/-- The event of a lock that could not be released after a failure. -/
def releaseReport (lock : Lock) (error : LockError) : Event :=
  ⟨.error, "Failed to release lock after failed operation",
    [("lock_id", .text lock.id), ("error", .text error.message)]⟩

/-- The event of locks that are left at the end of a request. -/
def leakReport (requestId : String) (count : Int) : Event :=
  ⟨.error, "Lock count is not zero at end of request",
    [("request_id", .text requestId), ("lock_count", .count count)]⟩

/-- Look at the lock that is in the way of another. -/
def inspect (service : LockService) (attempted : Lock) :
    Guarded Step Reply (Except LockError LockOutcome) := do
  match ← Guarded.request (.get attempted.id) with
  | .error (.notFound _) => return .ok (.conflict ⟨attempted, none, false⟩)
  | .error error => return .error (.table error)
  | .ok holder =>
    let now ← Guarded.request .clock
    if holder.isStale service.staleAfter now then
      Guarded.report (staleReport holder)
      return .ok (.conflict ⟨attempted, some holder, true⟩)
    else
      return .ok (.conflict ⟨attempted, some holder, false⟩)

/-- Try to take the lock of a key. -/
def tryAcquire (service : LockService) (key : LockKey) (data : JsonObject) :
    Guarded Step Reply (Except LockError LockOutcome) := do
  let requestId ← Guarded.request (.requestId service.name)
  let now ← Guarded.request .clock
  let lock := Lock.ofKey key requestId data now
  match ← Guarded.request (.create lock) with
  | .ok () =>
    Guarded.mark (.acquired service.name)
    return .ok (.acquired lock)
  | .error (.alreadyExists _) =>
    Guarded.report (raceWarning lock)
    service.inspect lock
  | .error error => return .error (.table error)

/-- Take the lock of a key; a conflict is an error. -/
def acquire (service : LockService) (key : LockKey) (data : JsonObject) :
    Guarded Step Reply (Except LockError Lock) := do
  match ← service.tryAcquire key data with
  | .ok (.acquired lock) => return .ok lock
  | .ok (.conflict conflict) => return .error (.locked conflict)
  | .error error => return .error error

/-- Release a lock. -/
def release (service : LockService) (lock : Lock) : Guarded Step Reply (Except LockError Unit) := do
  match ← Guarded.request (.delete lock.id) with
  | .ok () =>
    Guarded.mark (.released service.name)
    return .ok ()
  | .error (.notFound lockId) => return .error (.notHeld lockId)
  | .error error => return .error (.table error)

/-- Whether there is a lock of an id in the table. -/
def lockExists (lockId : String) : Guarded Step Reply (Except LockTableError Bool) := do
  match ← Guarded.request (.get lockId) with
  | .ok _ => return .ok true
  | .error (.notFound _) => return .ok false
  | .error error => return .error error

/-- The locks among some that are stale, with a look at the clock for each. -/
def keepStale (service : LockService) : List Lock → Guarded Step Reply (List Lock)
  | [] => return []
  | lock :: rest => do
    let now ← Guarded.request .clock
    let stale ← service.keepStale rest
    return if lock.isStale service.staleAfter now then lock :: stale else stale

/-- The stale locks in the table. -/
def staleLocks (service : LockService) : Guarded Step Reply (Except LockError (List Lock)) := do
  match ← Guarded.request .list with
  | .ok locks => return .ok (← service.keepStale locks)
  | .error error => return .error (.table error)

/-- Work for a request from now on. -/
def bind (service : LockService) (requestId : String) : Guarded Step Reply Unit :=
  Guarded.mark (.bound service.name requestId)

/-- The number of locks that are left at the end of a request. -/
def finish (service : LockService) : Guarded Step Reply Int := do
  let count ← Guarded.request (.lockCount service.name)
  let requestId ← Guarded.request (.requestId service.name)
  if count ≠ 0 then
    Guarded.report (leakReport requestId count)
  return count

/-- Run a body while the lock of a key is held. The error of the body counts more than one of the
release. -/
def withLock (service : LockService) (key : LockKey) (lift : LockError → ε)
    (body : Guarded Step Reply (Except ε α)) : Guarded Step Reply (Except ε α) := do
  match ← service.acquire key JsonObject.empty with
  | .error error => return .error (lift error)
  | .ok lock =>
    let result ← body
    let released ← service.release lock
    match result, released with
    | .ok value, .ok () => return .ok value
    | .ok _, .error error => return .error (lift error)
    | .error error, .ok () => return .error error
    | .error error, .error releaseError =>
      Guarded.report (releaseReport lock releaseError)
      return .error error

/-- The text of a service with its count, for logs. -/
def debugText (service : LockService) (count : Int) : String :=
  "LockService \x7b lock_count: " ++ toString count ++ ", stale_after: " ++
    service.staleAfter.text ++ ", .. \x7d"

end LockService

end ControlPlane
