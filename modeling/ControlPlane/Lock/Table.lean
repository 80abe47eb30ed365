import ControlPlane.Dictionary
import ControlPlane.Lock.Row
import ControlPlane.ServiceFailure

/-!
# The lock table

The table holds at most one lock of an id: a lock is created only if there is none, and deleted
only if there is one. The first three laws say so; listing gives the locks in the order of their
ids.
-/
namespace ControlPlane

/-- Why an operation on a lock table failed. -/
inductive LockTableError where
  /-- There is a lock of the id already. -/
  | alreadyExists (lockId : String)
  /-- There is no lock of the id. -/
  | notFound (lockId : String)
  /-- A row cannot be read. -/
  | corrupt (lockId reason : String)
  /-- The service that holds the table failed. -/
  | store (failure : ServiceFailure)
deriving DecidableEq

namespace LockTableError

/-- The wording of an error. -/
def message : LockTableError → String
  | alreadyExists lockId => "Lock '" ++ lockId ++ "' already exists"
  | notFound lockId => "Lock '" ++ lockId ++ "' not found"
  | corrupt lockId reason => "Corrupt lock row '" ++ lockId ++ "': " ++ reason
  | store failure => "Lock store failure: " ++ failure.message

end LockTableError

/-- A lock table in memory: the locks by their ids. -/
abbrev LockTable := Dictionary Lock

namespace LockTable

/-- Create a lock, unless there is one of that id. -/
def create (table : LockTable) (lock : Lock) : Except LockTableError Unit × LockTable :=
  match table.find? lock.id with
  | some _ => (.error (.alreadyExists lock.id), table)
  | none => (.ok (), table.insert lock.id lock)

/-- The lock of an id. -/
def get (table : LockTable) (lockId : String) : Except LockTableError Lock :=
  match table.find? lockId with
  | some lock => .ok lock
  | none => .error (.notFound lockId)

/-- Delete the lock of an id. -/
def delete (table : LockTable) (lockId : String) : Except LockTableError Unit × LockTable :=
  match table.find? lockId with
  | some _ => (.ok (), table.erase lockId)
  | none => (.error (.notFound lockId), table)

/-- The locks in the order of their ids. -/
def list (table : LockTable) : List Lock := table.values

/-- Put a lock into the table, whether there is one of that id or not. -/
def overwrite (table : LockTable) (lock : Lock) : LockTable := table.insert lock.id lock

/-- A lock is created if there is none of its id. -/
theorem create_of_find?_none {table : LockTable} {lock : Lock} (free : table.find? lock.id = none) :
    table.create lock = (.ok (), table.insert lock.id lock) := by
  simp [create, free]

/-- A lock is not created if there is one of its id. -/
theorem create_of_find?_some {table : LockTable} {lock holder : Lock}
    (held : table.find? lock.id = some holder) :
    table.create lock = (.error (.alreadyExists lock.id), table) := by
  simp [create, held]

/-- A lock that is there is deleted. -/
theorem delete_of_find?_some {table : LockTable} {lockId : String} {holder : Lock}
    (held : table.find? lockId = some holder) :
    table.delete lockId = (.ok (), table.erase lockId) := by
  simp [delete, held]

/-- A lock that is not there cannot be deleted. -/
theorem delete_of_find?_none {table : LockTable} {lockId : String}
    (free : table.find? lockId = none) :
    table.delete lockId = (.error (.notFound lockId), table) := by
  simp [delete, free]

end LockTable

end ControlPlane
