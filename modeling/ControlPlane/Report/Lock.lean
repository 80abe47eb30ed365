import ControlPlane.Report.Policy

/-!
# Reports on locks

Locks are shown in the order of their fields, with their times in words of the reader's choice.
-/
namespace ControlPlane.Report

variable (shown : Instant → String)

/-- A lock. -/
def lock (lock : Lock) : Json :=
  .object [(Lock.keyName, .string lock.id), ("scope", .string lock.scope.name),
    ("timestamp", .string (shown lock.madeAt)), ("data", lock.data.toJson),
    ("request_id", .string lock.requestId)]

/-- Locks. -/
def locks (held : List Lock) : Json := .array (held.map (lock shown))

/-- A length of time in nanoseconds, which may be negative. -/
def age (nanoseconds : Int) : Json :=
  .object [("secs", .ofInt (nanoseconds.tdiv 1000000000)),
    ("nanos", .ofInt (nanoseconds.tmod 1000000000)), ("negative", .bool (nanoseconds < 0))]

/-- A name that is not known. -/
def unknownName (kind : String) (unknown : UnknownName) : Json := failure kind unknown.message []

/-- The kind of a table error. -/
def tableErrorKind : LockTableError → String
  | .alreadyExists _ => "AlreadyExists"
  | .notFound _ => "NotFound"
  | .corrupt .. => "Corrupt"
  | .store _ => "Store"

/-- A table error. -/
def tableError (error : LockTableError) : Json :=
  failure (tableErrorKind error) error.message (match error with
    | .store failed => [("aws", serviceFailure failed)]
    | _ => [])

/-- A conflict. -/
def conflict (conflict : LockConflict) : Json :=
  .object [("lock_id", .string conflict.attempted.id), ("attempted", lock shown conflict.attempted),
    ("existing", optional (conflict.holder.map (lock shown))), ("stale", .bool conflict.stale),
    ("display", .string conflict.message)]

/-- The kind of a lock error. -/
def lockErrorKind : LockError → String
  | .locked _ => "ResourceIsLocked"
  | .notHeld _ => "NotHeld"
  | .table _ => "Table"

/-- What else is known about a lock error. -/
def lockErrorDetail : LockError → List (String × Json)
  | .locked found => [("conflict", conflict shown found)]
  | .notHeld _ => []
  | .table failed => [("table", tableError failed)]

/-- A lock error. -/
def lockError (error : LockError) : Json :=
  failure (lockErrorKind error) error.message
    ([("retryable", .bool error.isTransient), ("api", errorResponse error.response)] ++
      lockErrorDetail shown error)

/-- An update of a protection that failed. -/
def updateError (error : Protection.UpdateError) : Json :=
  let response := ("api", errorResponse error.response)
  match error with
  | .lock failed => failure "Lock" error.message [response, ("lock", lockError shown failed)]
  | .policy failed =>
    .object [("error", .string "Policy"), ("policy", policyError failed), response]
  | .store _ failed => failure "Store" error.message [response, ("source", serviceFailure failed)]

end ControlPlane.Report
