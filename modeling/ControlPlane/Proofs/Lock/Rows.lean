import ControlPlane.Lock.Remote
import ControlPlane.Proofs.Dictionary
import ControlPlane.Proofs.Json.RoundTrip
import ControlPlane.Proofs.Time.Text

/-!
# Locks as rows

A lock whose parts have texts that are read back is read back from its item (`Item.toLock_ofLock`).
A table of locks as items is the same table with each lock replaced by its item, and inserting,
erasing and finding go on as before (`Dictionary.map`).
-/
namespace ControlPlane

/-- After a value a computation goes on with it. -/
theorem ok_bind {ε α β : Type} (value : α) (next : α → Except ε β) :
    (Except.ok value >>= next) = next value := rfl

/-- The parts of a lock have texts that are read back: its time is in a year of four digits, and its
data has no binary64 numbers and nests no deeper than readers go. -/
structure Lock.Storable (lock : Lock) : Prop where
  /-- The year of the time has four digits. -/
  inYears : 0 ≤ (Date.ofNumber (lock.madeAt.seconds / 86400)).year ∧
    (Date.ofNumber (lock.madeAt.seconds / 86400)).year ≤ 9999
  /-- The data has no binary64 numbers. -/
  integral : lock.data.toJson.isIntegral = true
  /-- The data nests no deeper than readers go. -/
  shallow : lock.data.toJson.nesting ≤ JsonReader.depthLimit

/-- A scope is found by its name. -/
theorem LockScope.ofName?_name (scope : LockScope) : ofName? scope.name = .ok scope := by
  cases scope <;> rfl

namespace Item

/-- The attributes of a lock's item. -/
theorem text?_ofLock (lock : Lock) :
    (ofLock lock).text? Lock.keyName = some lock.id ∧
      (ofLock lock).text? "scope" = some lock.scope.name ∧
        (ofLock lock).text? "timestamp" = some lock.madeAt.offsetText ∧
          (ofLock lock).text? "data" = some lock.data.compact ∧
            (ofLock lock).text? "request_id" = some lock.requestId := by
  simp [text?, ofLock, Dictionary.find?, Dictionary.ofList, Entries.ofList, Entries.find?_insert,
    Lock.keyName, Attribute.text?]

/-- A lock is read back from its item. -/
theorem toLock_ofLock {lock : Lock} (storable : lock.Storable) :
    (ofLock lock).toLock = .ok lock := by
  obtain ⟨id, scope, time, data, requestId⟩ := text?_ofLock lock
  have ownScope : (ofLock lock).scope lock.id = .ok lock.scope := by
    simp only [Item.scope, required, scope, ok_bind, LockScope.ofName?_name]
    rfl
  have ownTime : (ofLock lock).madeAt lock.id = .ok lock.madeAt := by
    simp only [Item.madeAt, required, time, ok_bind,
      Instant.parseStrict?_offsetText storable.inYears]
    rfl
  have ownData : (ofLock lock).data lock.id = .ok lock.data := by
    simp only [Item.data, data, JsonObject.read_compact storable.integral storable.shallow]
  simp only [toLock, id, ownScope, ownTime, ownData, requestId, ok_bind]
  rfl

end Item

end ControlPlane
