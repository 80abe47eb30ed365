import ControlPlane.Rehearsal.Guard
import ControlPlane.Rehearsal.Resource
import ControlPlane.Report.Lock

/-!
# Reports on rehearsals

After each step of a rehearsal a report shows what the services, the tables and the stores hold, and
which calls were made.
-/
namespace ControlPlane.Report

open Rehearsal

variable {ν : Type} (isNow : Instant → Bool)

/-- An item with its time as a word if it comes from the clock. -/
def presentItem (item : Item) : Item :=
  if ((item.text? "timestamp").bind Instant.parseStrict?).any isNow then
    item.insert "timestamp" (.text "now")
  else item

/-- A call as it was sent to the store of a table. -/
def itemCall (remote : RemoteTable) (call : ItemCall) : Json :=
  let shown : ItemCall := match call with
    | .create table item => .create table (presentItem isNow item)
    | other => other
  .object ([("action", .string call.action), ("body", shown.toJson)] ++
    (remote.address?.map fun address => ("uri", Json.string address)).toList)

/-- A policy store. -/
def shelf (shelf : PolicyShelf) : Json :=
  .object [("writes", count shelf.writes),
    ("policy", optionalText (shelf.policy.map PolicyDocument.encode)),
    ("hash", optionalText (shelf.policy.bind PolicyDocument.storeHash))]

/-- What the table holds, or the calls of its store. -/
def tableState (stage : GuardStage ν) : String × Json :=
  match stage.remote with
  | some remote => ("requests", .array (stage.calls.map (itemCall isNow remote)))
  | none => ("rows", texts stage.table.keys)

/-- The policy stores, if there are any. -/
def shelves (stage : GuardStage ν) : List (String × Json) :=
  if stage.shelves.size = 0 then []
  else [("stores", .object (stage.shelves.entries.map fun entry => (entry.1, shelf entry.2)))]

/-- The stage of a rehearsal. -/
def stage (stage : GuardStage ν) : Json :=
  .object ([("counts", .object (stage.duties.entries.map fun entry =>
      (entry.1, .ofInt entry.2.count))), tableState isNow stage] ++ shelves stage)

/-- An access of a resource. -/
def access : Access Json → Json
  | .read => .string "read"
  | .write state => .object [("write", state)]

end ControlPlane.Report
