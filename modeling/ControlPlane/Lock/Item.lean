import ControlPlane.Lock.Table

/-!
# Locks as items

A remote store keeps a lock as an item: attributes by their names, each with a typed value. All
attributes of a lock are texts; the time is written with its offset and the data as a JSON object.

Reading an item checks the id, the scope, the time and the data in this order. Data and request id
may be missing.
-/
namespace ControlPlane

/-- The value of an attribute. -/
inductive Attribute where
  /-- A text. -/
  | text (value : String)
  /-- A value of another type, as it is written. -/
  | other (written : Json)

namespace Attribute

/-- A text value. -/
def text? : Attribute → Option String
  | text value => some value
  | other _ => none

/-- An attribute as it is written: its type and its value. -/
def toJson : Attribute → Json
  | text value => .object [("S", .string value)]
  | other written => written

/-- An attribute as it was written. -/
def ofJson : Json → Attribute
  | .object [("S", .string value)] => text value
  | written => other written

end Attribute

/-- Attributes by their names. -/
abbrev Item := Dictionary Attribute

namespace Item

/-- An item as it is written. -/
def toJson (item : Item) : Json :=
  .object (item.entries.map fun entry => (entry.1, entry.2.toJson))

/-- An item as it was written. -/
def ofJson : Json → Item
  | .object members => .ofList (members.map fun member => (member.1, Attribute.ofJson member.2))
  | _ => .empty

/-- The text of an attribute. -/
def text? (item : Item) (name : String) : Option String := (item.find? name).bind Attribute.text?

/-- The item that finds a lock. -/
def key (lockId : String) : Item := .ofList [(Lock.keyName, .text lockId)]

/-- Stands for the id of an item without one. -/
def unknownId : String := "<unknown>"

/-- The item of a lock. -/
def ofLock (lock : Lock) : Item :=
  .ofList [(Lock.keyName, .text lock.id), ("scope", .text lock.scope.name),
    ("timestamp", .text lock.madeAt.offsetText), ("data", .text lock.data.compact),
    ("request_id", .text lock.requestId)]

/-- Why an item is no lock. -/
def corrupt {α : Type} (lockId reason : String) : Except LockTableError α :=
  .error (.corrupt lockId reason)

/-- The text of an attribute that has to be there. -/
def required (item : Item) (lockId name : String) : Except LockTableError String :=
  match item.text? name with
  | some value => .ok value
  | none => corrupt lockId ("missing " ++ name)

/-- The scope of an item. -/
def scope (item : Item) (lockId : String) : Except LockTableError LockScope := do
  let name ← item.required lockId "scope"
  match LockScope.ofName? name with
  | .ok scope => return scope
  | .error unknown => corrupt lockId unknown.message

/-- The time of an item. -/
def madeAt (item : Item) (lockId : String) : Except LockTableError Instant := do
  let text ← item.required lockId "timestamp"
  match Instant.parseStrict? text with
  | some instant => return instant
  | none => corrupt lockId ("bad timestamp: " ++ Mismatch.unreadableTimeText)

/-- The data of an item, empty if there is none. -/
def data (item : Item) (lockId : String) : Except LockTableError JsonObject :=
  match item.text? "data" with
  | none => .ok JsonObject.empty
  | some text => match (Document.ofText text).read JsonReader.object with
    | .ok object => .ok object
    | .error _ => corrupt lockId ("bad data: " ++ ReadFault.unreadableText)

/-- The lock of an item. -/
def toLock (item : Item) : Except LockTableError Lock :=
  match item.text? Lock.keyName with
  | none => corrupt unknownId ("missing " ++ Lock.keyName)
  | some lockId => do
    let scope ← item.scope lockId
    let madeAt ← item.madeAt lockId
    let data ← item.data lockId
    return ⟨lockId, scope, madeAt, data, (item.text? "request_id").getD ""⟩

end Item

end ControlPlane
