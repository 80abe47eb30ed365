import ControlPlane.Json.Printer
import ControlPlane.Lock.Key
import ControlPlane.Time.Rfc3339

/-!
# Locks

A lock is a row of the lock table: while the row exists, the lock is held. There is no lease and no
expiry; a lock that is held for too long is reported as stale and stays.
-/
namespace ControlPlane

/-- A lock that is held, or was to be held. -/
structure Lock where
  /-- What the lock is found by. -/
  id : String
  /-- What kind of thing the lock protects. -/
  scope : LockScope
  /-- When the lock was made. -/
  madeAt : Instant
  /-- What the holder wants to remember. -/
  data : JsonObject
  /-- The request that holds the lock. -/
  requestId : String

namespace Lock

/-- The name of the field that a lock is found by. -/
def keyName : String := "lock_id"

/-- The lock of a key for a request. -/
def ofKey (key : LockKey) (requestId : String) (data : JsonObject) (madeAt : Instant) : Lock :=
  ⟨key.id, key.scope, madeAt, data, requestId⟩

/-- How long ago the lock was made, in nanoseconds, negative if it will be made later. -/
def age (lock : Lock) (now : Instant) : Int := now.since lock.madeAt

/-- Whether the lock is older than a threshold. One that will be made later is not. -/
def isStale (lock : Lock) (threshold : Duration) (now : Instant) : Bool :=
  (threshold.nanoseconds : Int) < lock.age now

/-- Read a time in any of the forms that are understood. -/
def timeReader : JsonReader Instant
  | _, .string (some text) => match Instant.parse? text with
    | some instant => .ok instant
    | none => .error (.mismatch .unreadableTime)
  | _, other => JsonReader.otherKind "an RFC 3339 formatted date and time string" other

/-- Read a lock. -/
def reader : JsonReader Lock :=
  RecordReader.read
    ((((((RecordReader.constant Lock.mk).apply (.required keyName JsonReader.text)).apply
      (.required "scope" LockScope.reader)).apply
      (.required "timestamp" timeReader)).apply
      (.withDefault "data" JsonReader.object JsonObject.empty)).apply
      (.required "request_id" JsonReader.text))
    "Lock" false

/-- A lock as a value, in the order of its fields. -/
def toJson (lock : Lock) : Json :=
  .object [(keyName, .string lock.id), ("scope", .string lock.scope.name),
    ("timestamp", .string lock.madeAt.text), ("data", lock.data.toJson),
    ("request_id", .string lock.requestId)]

end Lock

end ControlPlane
