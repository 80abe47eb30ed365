import ControlPlane.Lock.Remote
import ControlPlane.Policy.Update
import ControlPlane.Rehearsal.Faults

/-!
# Rehearsing guarded operations

The stage of a rehearsal holds a lock table, in memory or in a store whose answers are written down,
policy stores in memory, and the lock services. Its clock moves on by a microsecond at each look.
What the steps of a rehearsal note down is theirs.
-/
namespace ControlPlane.Rehearsal

/-- A policy store in memory. -/
structure PolicyShelf where
  /-- The policy on the shelf, if there is one. -/
  policy : Option PolicyDocument
  /-- The number of policies that were put. -/
  writes : Nat
  /-- What happens to the next calls of `fetch` and `put`. -/
  faults : Faults ServiceFailure

/-- What a lock service works for, and how many locks it has. -/
structure Duty where
  /-- The service itself. -/
  service : LockService
  /-- The request that the service works for. -/
  requestId : String
  /-- The number of its locks. It is kept without wrapping around: a counter of 64 bits comes to the
  same number for fewer than 2⁶³ acquisitions and releases. -/
  count : Int

/-- What guarded operations share. -/
structure GuardStage (ν : Type) where
  /-- The lock table in memory. -/
  table : LockTable
  /-- The table that is used instead, if there is one. -/
  remote : Option RemoteTable
  /-- The next answers of the remote store. -/
  script : List (Except ServiceFailure ItemReply)
  /-- The calls of the remote store. -/
  calls : List ItemCall
  /-- What happens to the next calls of `create`, `get`, `delete` and `list`. -/
  faults : Faults LockTableError
  /-- The policy stores by their names. -/
  shelves : Dictionary PolicyShelf
  /-- The lock services by their names. -/
  duties : Dictionary Duty
  /-- The first time on the clock. -/
  start : Instant
  /-- The number of looks at the clock. -/
  looks : Nat
  /-- The events that were reported. -/
  events : List Event
  /-- What the steps have noted down. -/
  notes : ν

namespace GuardStage

variable {ν α Step Reply : Type}

/-- The time on the clock. -/
def now (stage : GuardStage ν) : Instant :=
  (stage.start.after? ⟨stage.looks * 1000⟩).getD stage.start

/-- Answer a call of the remote store from the script; after its end nothing is reached. -/
def callStore (call : ItemCall) (stage : GuardStage ν) :
    Except ServiceFailure ItemReply × GuardStage ν :=
  match stage.script with
  | [] =>
    (.error ServiceFailure.unreachable, { stage with calls := stage.calls ++ [call] })
  | answer :: rest => (answer, { stage with script := rest, calls := stage.calls ++ [call] })

/-- An answer uses up one of the script. -/
theorem script_length_lt_of_callStore {call : ItemCall} {stage after : GuardStage ν}
    {reply : ItemReply} (answered : callStore call stage = (.ok reply, after)) :
    after.script.length < stage.script.length := by
  unfold callStore at answered
  split at answered
  · cases answered
  · next script =>
    rw [script]
    cases answered
    simp

/-- From any key on, a scan ends, at the latest with the script. -/
theorem acc_callStore (table : String) (place : ScanPlace (GuardStage ν)) :
    Acc (ScanPlace.Follows callStore table) place :=
  ScanPlace.acc_of_lt (·.state.script.length)
    (fun ⟨_, _, answered, _⟩ => script_length_lt_of_callStore answered) place

/-- The remote store that answers from the script. -/
def store : ItemStore (GuardStage ν) where
  call := callStore
  scan_ends table _ := acc_callStore table _

/-- Make a call of the table, unless it is written down to fail. -/
def attempt (name : String)
    (call : GuardStage ν → Except LockTableError α × GuardStage ν) (stage : GuardStage ν) :
    Except LockTableError α × GuardStage ν :=
  let (fault, faults) := stage.faults.take name
  let stage := { stage with faults }
  match fault with
  | none => call stage
  | some fault =>
    (.error fault.failure, if fault.takesEffect then (call stage).2 else stage)

/-- Create a lock. -/
def create (lock : Lock) (stage : GuardStage ν) : Except LockTableError Unit × GuardStage ν :=
  match stage.remote with
  | some remote => remote.create store lock stage
  | none =>
    let (result, table) := stage.table.create lock
    (result, { stage with table })

/-- The lock of an id. -/
def get (lockId : String) (stage : GuardStage ν) : Except LockTableError Lock × GuardStage ν :=
  match stage.remote with
  | some remote => remote.get store lockId stage
  | none => (stage.table.get lockId, stage)

/-- Delete the lock of an id. -/
def delete (lockId : String) (stage : GuardStage ν) : Except LockTableError Unit × GuardStage ν :=
  match stage.remote with
  | some remote => remote.delete store lockId stage
  | none =>
    let (result, table) := stage.table.delete lockId
    (result, { stage with table })

/-- All locks. -/
def list (stage : GuardStage ν) : Except LockTableError (List Lock) × GuardStage ν :=
  match stage.remote with
  | some remote => remote.list store stage
  | none => (.ok stage.table.list, stage)

/-- The policy on a shelf. -/
def fetch (name : String) (stage : GuardStage ν) :
    Except ServiceFailure (Option PolicyDocument) × GuardStage ν :=
  match stage.shelves.find? name with
  | none => (.ok none, stage)
  | some shelf =>
    let (fault, faults) := shelf.faults.take "fetch"
    (match fault with
      | some fault => .error fault.failure
      | none => .ok shelf.policy,
      { stage with shelves := stage.shelves.insert name { shelf with faults } })

/-- Put a policy on a shelf. -/
def put (name : String) (policy : Option PolicyDocument) (stage : GuardStage ν) :
    Except ServiceFailure Unit × GuardStage ν :=
  match stage.shelves.find? name with
  | none => (.ok (), stage)
  | some shelf =>
    let (fault, faults) := shelf.faults.take "put"
    let written : PolicyShelf := ⟨policy, shelf.writes + 1, faults⟩
    let (result, shelf) : Except ServiceFailure Unit × PolicyShelf := match fault with
      | none => (.ok (), written)
      | some fault =>
        (.error fault.failure, if fault.takesEffect then written else { shelf with faults })
    (result, { stage with shelves := stage.shelves.insert name shelf })

/-- What a service works for. -/
def requestId (stage : GuardStage ν) (service : String) : String :=
  match stage.duties.find? service with
  | some duty => duty.requestId
  | none => ""

/-- How many locks a service has. -/
def lockCount (stage : GuardStage ν) (service : String) : Int :=
  match stage.duties.find? service with
  | some duty => duty.count
  | none => 0

/-- Answer a request. -/
def answer (run : Step → GuardStage ν → Reply × GuardStage ν) :
    (request : GuardRequest Step) → GuardStage ν → request.Answer Reply × GuardStage ν
  | .create lock, stage => stage.attempt "create" (create lock)
  | .get lockId, stage => stage.attempt "get" (get lockId)
  | .delete lockId, stage => stage.attempt "delete" (delete lockId)
  | .list, stage => stage.attempt "list" list
  | .clock, stage => (stage.now, { stage with looks := stage.looks + 1 })
  | .requestId service, stage => (stage.requestId service, stage)
  | .lockCount service, stage => (stage.lockCount service, stage)
  | .fetch name, stage => stage.fetch name
  | .put name policy, stage => stage.put name policy
  | .step step, stage => run step stage

/-- Change the duty of a service. -/
def changeDuty (stage : GuardStage ν) (service : String) (change : Duty → Duty) : GuardStage ν :=
  match stage.duties.find? service with
  | some duty => { stage with duties := stage.duties.insert service (change duty) }
  | none => stage

/-- Keep a mark. -/
def keep : GuardMark → GuardStage ν → GuardStage ν
  | .event event, stage => { stage with events := stage.events ++ [event] }
  | .acquired service, stage =>
    stage.changeDuty service fun duty => { duty with count := duty.count + 1 }
  | .released service, stage =>
    stage.changeDuty service fun duty => { duty with count := duty.count - 1 }
  | .bound service requestId, stage =>
    stage.changeDuty service fun duty => { duty with requestId, count := 0 }

/-- The stage as the surroundings of guarded operations. -/
def surroundings (run : Step → GuardStage ν → Reply × GuardStage ν) :
    Surroundings (guardInterface Step Reply) (GuardStage ν) := ⟨answer run, keep⟩

end GuardStage

end ControlPlane.Rehearsal
