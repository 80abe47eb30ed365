import ControlPlane.Lock.Item

/-!
# The remote lock table

A remote store keeps items by their keys. It is told to create an item only if there is none of
that key and to delete one only if there is; it refuses otherwise, and the refusal says which.

Listing scans page after page, each scan starting from the key that came with the page before, until
a page comes without a key. A page may be told by the key alone, with a scan that only reads, or by
what the store keeps in mind, or by both. All that is asked of a store is that a scan from the
beginning does not go on for ever (`ItemStore.ScanEnds`); the listing ends by that alone.
-/
namespace ControlPlane

/-- A call of an item store. -/
inductive ItemCall where
  /-- Create an item, unless there is one of that key. -/
  | create (table : String) (item : Item)
  /-- The item of a key. -/
  | get (table : String) (key : Item)
  /-- Delete the item of a key, if there is one. -/
  | delete (table : String) (key : Item)
  /-- The page of items after a key, or the first page. -/
  | scan (table : String) (start : Option Item)

namespace ItemCall

/-- The name of a call. -/
def action : ItemCall → String
  | create .. => "PutItem"
  | get .. => "GetItem"
  | delete .. => "DeleteItem"
  | scan .. => "Scan"

/-- The members that name the key of the items in a condition. -/
def condition (expression : String) : List (String × Json) :=
  [("ConditionExpression", .string expression),
    ("ExpressionAttributeNames", .object [("#pk", .string Lock.keyName)])]

/-- A call as it is sent. -/
def toJson : ItemCall → Json
  | create table item =>
    .object (condition "attribute_not_exists(#pk)" ++
      [("Item", item.toJson), ("TableName", .string table)])
  | get table key =>
    .object [("ConsistentRead", .bool true), ("Key", key.toJson), ("TableName", .string table)]
  | delete table key =>
    .object (condition "attribute_exists(#pk)" ++
      [("Key", key.toJson), ("TableName", .string table)])
  | scan table start =>
    .object ([("ConsistentRead", .bool true)] ++
      (start.map fun key => ("ExclusiveStartKey", key.toJson)).toList ++
      [("TableName", .string table)])

end ItemCall

/-- The answer of an item store. -/
structure ItemReply where
  /-- The item that was asked for. -/
  item : Option Item
  /-- The items of a page. -/
  page : List Item
  /-- Where the next page starts. -/
  lastKey : Option Item

namespace ItemReply

/-- The key to go on from: an empty one is none. -/
def next? (reply : ItemReply) : Option Item :=
  reply.lastKey.filter fun key => !key.entries.isEmpty

end ItemReply

/-- Where a scan has come to. -/
structure ScanPlace (σ : Type) where
  /-- What the next page starts from. -/
  start : Option Item
  /-- The state of the store. -/
  state : σ

namespace ScanPlace

/-- A place follows another one if the page there leads to it. -/
def Follows {σ : Type} (call : ItemCall → σ → Except ServiceFailure ItemReply × σ) (table : String)
    (later now : ScanPlace σ) : Prop :=
  ∃ reply key, call (.scan table now.start) now.state = (.ok reply, later.state) ∧
    reply.next? = some key ∧ later.start = some key

/-- A scan ends if less is left of something after each page. -/
theorem acc_of_lt {σ : Type} {call : ItemCall → σ → Except ServiceFailure ItemReply × σ}
    {table : String} (left : ScanPlace σ → Nat)
    (less : ∀ {later now}, Follows call table later now → left later < left now)
    (place : ScanPlace σ) : Acc (Follows call table) place :=
  Subrelation.accessible less ((measure left).wf.apply place)

end ScanPlace

/-- A store of items with a state. -/
structure ItemStore (σ : Type) where
  /-- Answer a call. -/
  call : ItemCall → σ → Except ServiceFailure ItemReply × σ
  /-- Whatever the state, a scan from the beginning ends. -/
  scan_ends : ∀ table state, Acc (ScanPlace.Follows call table) ⟨none, state⟩

namespace ItemStore

/-- From a key on and in a state, the scan of a table ends: no pages follow one another for ever. -/
abbrev ScanEnds {σ : Type} (store : ItemStore σ) (table : String) (start : Option Item)
    (state : σ) : Prop := Acc (ScanPlace.Follows store.call table) ⟨start, state⟩

end ItemStore

/-- A lock table in a remote store. -/
structure RemoteTable where
  /-- The name that the store knows the table by. -/
  name : String
  /-- Where the store is reached, if not where it usually is. -/
  endpoint : Option String
deriving DecidableEq, Repr

namespace RemoteTable

variable {σ : Type}

/-- The address that calls are sent to, if it is not the usual one. -/
def address? (table : RemoteTable) : Option String :=
  table.endpoint.map fun endpoint => if endpoint.endsWith "/" then endpoint else endpoint ++ "/"

/-- The text of a table, for logs. -/
def debugText (table : RemoteTable) : String :=
  "DynamoLocksTable \x7b table_name: " ++ quote table.name ++ " \x7d"

/-- Create a lock, unless there is one of that id. -/
def create (table : RemoteTable) (store : ItemStore σ) (lock : Lock) (state : σ) :
    Except LockTableError Unit × σ :=
  let (answer, after) := store.call (.create table.name (.ofLock lock)) state
  (match answer with
    | .ok _ => .ok ()
    | .error (.conditionFailed _) => .error (.alreadyExists lock.id)
    | .error failure => .error (.store failure), after)

/-- The lock of an id. -/
def get (table : RemoteTable) (store : ItemStore σ) (lockId : String) (state : σ) :
    Except LockTableError Lock × σ :=
  let (answer, after) := store.call (.get table.name (.key lockId)) state
  (match answer with
    | .ok reply => match reply.item with
      | some item => item.toLock
      | none => .error (.notFound lockId)
    | .error failure => .error (.store failure), after)

/-- Delete the lock of an id. -/
def delete (table : RemoteTable) (store : ItemStore σ) (lockId : String) (state : σ) :
    Except LockTableError Unit × σ :=
  let (answer, after) := store.call (.delete table.name (.key lockId)) state
  (match answer with
    | .ok _ => .ok ()
    | .error (.conditionFailed _) => .error (.notFound lockId)
    | .error failure => .error (.store failure), after)

/-- The locks of a page, up to the first item that is none. -/
def readPage : List Item → Except LockTableError (List Lock)
  | [] => .ok []
  | item :: rest => do
    let lock ← item.toLock
    let locks ← readPage rest
    return lock :: locks

/-- The locks from a key on, page after page. -/
def listFrom (table : RemoteTable) (store : ItemStore σ) (start : Option Item) (state : σ)
    (ends : store.ScanEnds table.name start state) : Except LockTableError (List Lock) × σ :=
  match answered : store.call (.scan table.name start) state with
  | (.error failure, after) => (.error (.store failure), after)
  | (.ok reply, after) =>
    match readPage reply.page with
    | .error error => (.error error, after)
    | .ok locks =>
      match next : reply.next? with
      | none => (.ok locks, after)
      | some key =>
        let (others, last) := listFrom table store (some key) after
          (ends.inv ⟨reply, key, answered, next, rfl⟩)
        (others.map (locks ++ ·), last)
termination_by (⟨⟨start, state⟩, ends⟩ :
  { place // Acc (ScanPlace.Follows store.call table.name) place })
decreasing_by exact ⟨reply, key, answered, next, rfl⟩

/-- All locks in the order in which the store has them. -/
def list (table : RemoteTable) (store : ItemStore σ) (state : σ) :
    Except LockTableError (List Lock) × σ :=
  table.listFrom store none state (store.scan_ends table.name state)

end RemoteTable

end ControlPlane
