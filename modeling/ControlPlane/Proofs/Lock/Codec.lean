import ControlPlane.Proofs.Lock.Rows

/-!
# Locks read back from their items

A lock is read back from its item, whatever its id, its scope and its request are, and with the
decimals of its time and a leap second included (`lock_read_back`). The attributes are read one by
one (`toLock_eq_ok_iff`): without its data an item is read as the same lock without data, without
its request as the same lock of no request, and attributes of other names play no part.
-/
namespace ControlPlane.Item

/-- The names of the attributes that a lock is read from. -/
def lockAttributes : List String := [Lock.keyName, "scope", "timestamp", "data", "request_id"]

/-- An item with other attributes inserted one after another. -/
def extended (item : Item) (others : List (String × Attribute)) : Item :=
  others.foldl (fun built entry => built.insert entry.1 entry.2) item

variable {item other : Item} {lock : Lock} {lockId name wanted : String}

/-- The text of an attribute after one was inserted. -/
theorem text?_insert (item : Item) (name wanted : String) (value : Attribute) :
    text? (item.insert name value) wanted =
      if name = wanted then value.text? else item.text? wanted := by
  by_cases same : name = wanted
  · simp [text?, Dictionary.find?_insert, same]
  · simp [text?, Dictionary.find?_insert, same]

/-- The text of an attribute after one was erased. -/
theorem text?_erase (item : Item) (name wanted : String) :
    text? (item.erase name) wanted = if name = wanted then none else item.text? wanted := by
  by_cases same : name = wanted
  · simp [text?, Dictionary.find?_erase, same]
  · simp [text?, Dictionary.find?_erase, same]

/-- The scope depends on its attribute only. -/
theorem scope_congr (same : item.text? "scope" = other.text? "scope") :
    item.scope lockId = other.scope lockId := by
  simp only [scope, required, same]

/-- The time depends on its attribute only. -/
theorem madeAt_congr (same : item.text? "timestamp" = other.text? "timestamp") :
    item.madeAt lockId = other.madeAt lockId := by
  simp only [madeAt, required, same]

/-- The data depend on their attribute only. -/
theorem data_congr (same : item.text? "data" = other.text? "data") :
    item.data lockId = other.data lockId := by
  simp only [data, same]

/-- Items with the same texts under the names of a lock's attributes are read alike. -/
theorem toLock_congr (same : ∀ name ∈ lockAttributes, item.text? name = other.text? name) :
    item.toLock = other.toLock := by
  simp only [lockAttributes, List.forall_mem_cons, List.not_mem_nil, false_imp_iff,
    implies_true, and_true] at same
  obtain ⟨id, scope, time, data, request⟩ := same
  simp only [toLock, id, scope_congr scope, madeAt_congr time, data_congr data, request]

/-- An item is read as a lock exactly if each of its parts is. -/
theorem toLock_eq_ok_iff :
    item.toLock = .ok lock ↔
      item.text? Lock.keyName = some lock.id ∧ item.scope lock.id = .ok lock.scope ∧
        item.madeAt lock.id = .ok lock.madeAt ∧ item.data lock.id = .ok lock.data ∧
          (item.text? "request_id").getD "" = lock.requestId := by
  constructor
  · intro read
    unfold toLock at read
    cases id : item.text? Lock.keyName with
    | none => simp [id, corrupt] at read
    | some lockId =>
      cases scope : item.scope lockId with
      | error error => simp [id, scope, bind, Except.bind] at read
      | ok found =>
        cases time : item.madeAt lockId with
        | error error => simp [id, scope, time, bind, Except.bind] at read
        | ok madeAt =>
          cases data : item.data lockId with
          | error error => simp [id, scope, time, data, bind, Except.bind] at read
          | ok object =>
            simp only [id, scope, time, data, ok_bind] at read
            cases read
            exact ⟨rfl, scope, time, data, rfl⟩
  · rintro ⟨id, scope, time, data, request⟩
    simp only [toLock, id, scope, time, data, ok_bind, request]
    rfl

/-- An attribute of another name plays no part. -/
theorem toLock_insert (unrelated : name ∉ lockAttributes) (value : Attribute) :
    toLock (item.insert name value) = item.toLock := by
  refine toLock_congr fun wanted member => ?_
  have different : name ≠ wanted := fun same => unrelated (same ▸ member)
  rw [text?_insert, if_neg different]

/-- Attributes of other names play no part. -/
theorem toLock_extended {others : List (String × Attribute)}
    (unrelated : ∀ entry ∈ others, entry.1 ∉ lockAttributes) :
    (item.extended others).toLock = item.toLock := by
  induction others generalizing item with
  | nil => rfl
  | cons first rest ih =>
    let inserted : Item := item.insert first.1 first.2
    have later : (inserted.extended rest).toLock = inserted.toLock :=
      ih fun entry member => unrelated entry (List.mem_cons_of_mem _ member)
    exact later.trans (toLock_insert (unrelated first List.mem_cons_self) first.2)

/-- Without its data an item is read as the same lock without data. -/
theorem toLock_erase_data (read : item.toLock = .ok lock) :
    toLock (item.erase "data") = .ok { lock with data := .empty } := by
  obtain ⟨id, scope, time, -, request⟩ := toLock_eq_ok_iff.mp read
  refine toLock_eq_ok_iff.mpr ⟨?_, ?_, ?_, ?_, ?_⟩
  · rw [text?_erase, if_neg (by decide), id]
  · exact (scope_congr (by rw [text?_erase, if_neg (by decide)])).trans scope
  · exact (madeAt_congr (by rw [text?_erase, if_neg (by decide)])).trans time
  · simp only [Item.data, text?_erase, if_true]
  · rw [text?_erase, if_neg (by decide), request]

/-- Without its request an item is read as the same lock of no request. -/
theorem toLock_erase_requestId (read : item.toLock = .ok lock) :
    toLock (item.erase "request_id") = .ok { lock with requestId := "" } := by
  obtain ⟨id, scope, time, data, -⟩ := toLock_eq_ok_iff.mp read
  refine toLock_eq_ok_iff.mpr ⟨?_, ?_, ?_, ?_, ?_⟩
  · rw [text?_erase, if_neg (by decide), id]
  · exact (scope_congr (by rw [text?_erase, if_neg (by decide)])).trans scope
  · exact (madeAt_congr (by rw [text?_erase, if_neg (by decide)])).trans time
  · exact (data_congr (by rw [text?_erase, if_neg (by decide)])).trans data
  · rw [text?_erase, if_pos rfl]
    rfl

/-- A reading that fails finds a corrupt item. -/
def OnlyCorrupt {α : Type} (reading : Except LockTableError α) : Prop :=
  ∀ error, reading = .error error → ∃ lockId reason, error = .corrupt lockId reason

section Corrupt

variable {α β : Type}

/-- A reading that succeeds does not fail. -/
theorem onlyCorrupt_ok (value : α) : OnlyCorrupt (.ok value) := nofun

/-- A corrupt item is found corrupt. -/
theorem onlyCorrupt_corrupt (lockId reason : String) :
    OnlyCorrupt (corrupt lockId reason : Except LockTableError α) := by
  rintro error failed
  exact ⟨lockId, reason, (Except.error.inj failed).symm⟩

/-- Readings one after another find nothing else if neither does. -/
theorem OnlyCorrupt.bind {reading : Except LockTableError α} {next : α → Except LockTableError β}
    (first : OnlyCorrupt reading) (second : ∀ value, OnlyCorrupt (next value)) :
    OnlyCorrupt (reading >>= next) := by
  cases reading with
  | error error =>
    intro other failed
    obtain rfl : error = other := Except.error.inj failed
    exact first error rfl
  | ok value => exact second value

/-- An attribute that is missing makes an item corrupt. -/
theorem onlyCorrupt_required (item : Item) (lockId name : String) :
    OnlyCorrupt (item.required lockId name) := by
  unfold required
  split
  · exact onlyCorrupt_ok _
  · exact onlyCorrupt_corrupt _ _

/-- An item that is no lock is corrupt. -/
theorem onlyCorrupt_toLock (item : Item) : OnlyCorrupt item.toLock := by
  have scope (lockId : String) : OnlyCorrupt (item.scope lockId) := by
    refine (onlyCorrupt_required item lockId "scope").bind fun name => ?_
    split
    · exact onlyCorrupt_ok _
    · exact onlyCorrupt_corrupt _ _
  have madeAt (lockId : String) : OnlyCorrupt (item.madeAt lockId) := by
    refine (onlyCorrupt_required item lockId "timestamp").bind fun text => ?_
    split
    · exact onlyCorrupt_ok _
    · exact onlyCorrupt_corrupt _ _
  have data (lockId : String) : OnlyCorrupt (item.data lockId) := by
    unfold Item.data
    split
    · exact onlyCorrupt_ok _
    · split
      · exact onlyCorrupt_ok _
      · exact onlyCorrupt_corrupt _ _
  unfold toLock
  split
  · exact onlyCorrupt_corrupt _ _
  · next lockId _ =>
    refine (scope lockId).bind fun _ => (madeAt lockId).bind fun _ => (data lockId).bind fun _ => ?_
    exact onlyCorrupt_ok _

end Corrupt

/-- A lock with a time in a year of four digits and with data of integers that do not nest too deep
is read back from its item, and so it is with further attributes. Without its data it is read back
with none, and without its request with an empty one; nothing else is changed by either. -/
theorem lock_read_back (storable : lock.Storable) :
    (ofLock lock).toLock = .ok lock ∧
    ∀ others : List (String × Attribute), (∀ entry ∈ others, entry.1 ∉ lockAttributes) →
      let item := (ofLock lock).extended others
      item.toLock = .ok lock ∧
        toLock (item.erase "data") = .ok { lock with data := .empty } ∧
        toLock (item.erase "request_id") = .ok { lock with requestId := "" } ∧
        toLock ((item.erase "data").erase "request_id") =
          .ok { lock with data := .empty, requestId := "" } := by
  have own : (ofLock lock).toLock = .ok lock := toLock_ofLock storable
  refine ⟨own, fun others unrelated => ?_⟩
  intro item
  have read : item.toLock = .ok lock := (toLock_extended unrelated).trans own
  have dataless : toLock (item.erase "data") = .ok { lock with data := .empty } :=
    toLock_erase_data read
  exact ⟨read, dataless, toLock_erase_requestId read, toLock_erase_requestId dataless⟩

/-- A lock made in the leap second at the end of the year 2016. -/
def leapLock : Lock where
  id := "key_kms_key_no_stage_no_region"
  scope := .encryptionKey
  madeAt := ⟨1483228799, 1500000000, by decide, by decide⟩
  data := .ofMembers [("steps", .array [.ofInt (-1), .object [("größe", .null)]])]
  requestId := "request \"7\""

/-- It is read back from its item, also without its data and with a number beside its attributes. -/
theorem lock_read_back_leap :
    leapLock.madeAt.offsetText = "2016-12-31T23:59:60.500+00:00" ∧ leapLock.Storable ∧
      (ofLock leapLock).toLock = .ok leapLock ∧
      toLock (((ofLock leapLock).extended [("ttl", .other (.ofInt 9))]).erase "data") =
        .ok { leapLock with data := .empty } := by
  have inYears : 0 ≤ (Date.ofNumber (leapLock.madeAt.seconds / 86400)).year ∧
    (Date.ofNumber (leapLock.madeAt.seconds / 86400)).year ≤ 9999 := by decide
  have integral : leapLock.data.toJson.isIntegral = true := by decide
  have shallow : leapLock.data.toJson.nesting ≤ JsonReader.depthLimit := by decide
  have storable : leapLock.Storable := ⟨inYears, integral, shallow⟩
  obtain ⟨own, further⟩ := lock_read_back storable
  obtain ⟨-, dataless, -⟩ := further [("ttl", .other (.ofInt 9))] (by decide)
  exact ⟨by decide +kernel, storable, own, dataless⟩

end ControlPlane.Item
