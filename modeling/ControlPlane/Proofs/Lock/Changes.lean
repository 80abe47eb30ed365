import ControlPlane.Proofs.Lock.History
import Mathlib.Data.List.DropRight

/-!
# What calls do to counts

A call of a lock service acquires a lock, or releases one, or gets a request to work for, or changes
nothing. The count of a service is said here in terms of such changes, and so is what the service
holds: the locks that it has acquired and not released. A service is careful (`Careful`) if it
releases only what it holds and gets no new request while it holds something. Then it counts what it
holds (`Careful.count_eq`), and if all are careful, what they hold is what has been added to the
table (`HoldsRows`).
-/
namespace ControlPlane

/-- What a call does to the count of its service. -/
inductive LockChange where
  /-- The service has acquired the lock of an id. -/
  | acquired (service lockId : String)
  /-- The service has released the lock of an id. -/
  | released (service lockId : String)
  /-- The service works for a new request. -/
  | bound (service : String)
deriving DecidableEq

namespace LockChange

/-- The service whose count is changed. -/
def service : LockChange → String
  | acquired service _ | released service _ | bound service => service

/-- A service acquires a lock. -/
def acquiredBy (name : String) : LockChange → Bool
  | acquired service _ => service = name
  | released .. | bound _ => false

/-- A service releases a lock. -/
def releasedBy (name : String) : LockChange → Bool
  | released service _ => service = name
  | acquired .. | bound _ => false

/-- The count of the service after a change. -/
def tally : LockChange → Int → Int
  | acquired .., count => count + 1
  | released .., count => count - 1
  | bound _, _ => 0

/-- The ids that a service holds after a change. -/
def heldAfter (name : String) (held : List String) : LockChange → List String
  | acquired service lockId => if service = name then lockId :: held else held
  | released service lockId => if service = name then held.erase lockId else held
  | bound _ => held

/-- A service that holds some ids keeps to the rules: it releases only what it holds, and gets a new
request only if it holds nothing. -/
def Allowed (name : String) (held : List String) : LockChange → Prop
  | acquired .. => True
  | released service lockId => service = name → lockId ∈ held
  | bound service => service = name → held = []

end LockChange

/-- What a call has done to the count of its service. -/
def LockReturn.change? : LockReturn → Option LockChange
  | tryAcquire service (.ok (.acquired lock)) | acquire service (.ok lock) =>
    some (.acquired service.name lock.id)
  | release service lock (.ok ()) => some (.released service.name lock.id)
  | bind service => some (.bound service.name)
  | _ => none

/-- The changes since a service last got a request to work for. -/
def sinceBound (name : String) (changes : List LockChange) : List LockChange :=
  changes.rtakeWhile fun change => change ≠ .bound name

/-- The locks that a service has acquired since it got its request, less those it has released. -/
def countOf (name : String) (changes : List LockChange) : Int :=
  let own := sinceBound name changes
  own.countP (·.acquiredBy name) - own.countP (·.releasedBy name)

/-- The ids that a service has acquired and not released. -/
def heldIds (name : String) (changes : List LockChange) : List String :=
  changes.foldl (LockChange.heldAfter name) []

/-- A service has kept to the rules all along. -/
inductive Careful (name : String) : List LockChange → Prop where
  /-- A service that has done nothing has kept to the rules. -/
  | nil : Careful name []
  /-- A service goes on keeping to the rules by a change that they allow. -/
  | snoc {earlier : List LockChange} {change : LockChange} (careful : Careful name earlier)
      (allowed : change.Allowed name (heldIds name earlier)) : Careful name (earlier ++ [change])

section Counts

variable {name : String} {changes : List LockChange} {change : LockChange}

/-- The changes since a request go on, until there is a new one. -/
theorem sinceBound_append (name : String) (changes : List LockChange) (change : LockChange) :
    sinceBound name (changes ++ [change]) =
      if change = .bound name then [] else sinceBound name changes ++ [change] := by
  unfold sinceBound
  rw [List.rtakeWhile_concat]
  by_cases same : change = .bound name
  · simp [same]
  · simp [same]

/-- A count goes up with an acquisition, down with a release, and back to zero with a request. -/
theorem countOf_append (name : String) (changes : List LockChange) (change : LockChange) :
    countOf name (changes ++ [change]) =
      if change.service = name then change.tally (countOf name changes)
      else countOf name changes := by
  unfold countOf
  rw [sinceBound_append]
  by_cases own : change.service = name
  · subst own
    rw [if_pos rfl]
    cases change with
    | acquired service lockId =>
      have counted : (LockChange.acquired service lockId).acquiredBy service = true ∧
          (LockChange.acquired service lockId).releasedBy service = false :=
        ⟨decide_eq_true rfl, rfl⟩
      rw [if_neg nofun]
      simp only [LockChange.service, LockChange.tally, List.countP_append, List.countP_singleton,
        counted, if_true, Bool.false_eq_true, if_false]
      omega
    | released service lockId =>
      have counted : (LockChange.released service lockId).acquiredBy service = false ∧
          (LockChange.released service lockId).releasedBy service = true :=
        ⟨rfl, decide_eq_true rfl⟩
      rw [if_neg nofun]
      simp only [LockChange.service, LockChange.tally, List.countP_append, List.countP_singleton,
        counted, if_true, Bool.false_eq_true, if_false]
      omega
    | bound service =>
      rw [LockChange.service, if_pos rfl]
      rfl
  · have others : change ≠ .bound name ∧ change.acquiredBy name = false ∧
        change.releasedBy name = false := by
      refine ⟨fun same => own (congrArg LockChange.service same), ?_, ?_⟩
      · cases change with
        | acquired service lockId => exact decide_eq_false own
        | _ => rfl
      · cases change with
        | released service lockId => exact decide_eq_false own
        | _ => rfl
    simp [own, others]

/-- What a service holds is changed by itself alone. -/
theorem LockChange.heldAfter_of_ne (other : change.service ≠ name) (held : List String) :
    change.heldAfter name held = held := by
  cases change with
  | acquired service lockId => exact if_neg other
  | released service lockId => exact if_neg other
  | bound service => rfl

/-- The last change decides what is held after it. -/
theorem heldIds_append (name : String) (changes : List LockChange) (change : LockChange) :
    heldIds name (changes ++ [change]) = change.heldAfter name (heldIds name changes) := by
  unfold heldIds
  rw [List.foldl_append]
  rfl

/-- What was careful until the last change was careful before, and so was the last change. -/
theorem Careful.last (careful : Careful name (changes ++ [change])) :
    Careful name changes ∧ change.Allowed name (heldIds name changes) := by
  generalize same : changes ++ [change] = all at careful
  cases careful with
  | nil => simp at same
  | snoc earlier allowed =>
    obtain ⟨rfl, last⟩ := List.append_inj' same rfl
    obtain rfl := List.singleton_inj.mp last
    exact ⟨earlier, allowed⟩

/-- A careful service counts what it holds. -/
theorem Careful.count_eq (careful : Careful name changes) :
    countOf name changes = (heldIds name changes).length := by
  induction careful with
  | nil => rfl
  | @snoc earlier change _ allowed ih =>
    rw [countOf_append, heldIds_append]
    by_cases own : change.service = name
    · rw [if_pos own]
      cases change with
      | acquired service lockId =>
        have own : service = name := own
        simp [LockChange.tally, LockChange.heldAfter, own, ih]
      | released service lockId =>
        have member : lockId ∈ heldIds name earlier := allowed own
        have own : service = name := own
        have some := List.length_pos_of_mem member
        simp only [LockChange.tally, LockChange.heldAfter, if_pos own, ih,
          List.length_erase_of_mem member]
        omega
      | bound service =>
        have nothing : heldIds name earlier = [] := allowed own
        simp [LockChange.tally, LockChange.heldAfter, nothing]
    · rw [if_neg own, LockChange.heldAfter_of_ne own, ih]

end Counts

/-- What the services hold is what has been added to a table. -/
structure HoldsRows (initial table : LockTable) (changes : List LockChange) : Prop where
  /-- There is a row for what was there in the beginning, and for what is held. -/
  rows : ∀ lockId, (table.find? lockId).isSome ↔
    (initial.find? lockId).isSome ∨ ∃ name, lockId ∈ heldIds name changes
  /-- What was there in the beginning is held by nobody. -/
  added : ∀ lockId name, lockId ∈ heldIds name changes → initial.find? lockId = none
  /-- Nobody holds the lock of an id twice. -/
  once : ∀ name, (heldIds name changes).Nodup
  /-- The lock of an id has one holder. -/
  sole : ∀ lockId first second, lockId ∈ heldIds first changes → lockId ∈ heldIds second changes →
    first = second

namespace HoldsRows

variable {initial table : LockTable} {changes : List LockChange}

/-- Nobody holds anything in the beginning. -/
theorem start (initial : LockTable) : HoldsRows initial initial [] := by
  refine ⟨fun lockId => ?_, fun lockId name member => ?_, fun name => .nil, fun _ _ _ member => ?_⟩
  · simp [heldIds]
  · cases member
  · cases member

/-- A lock that nobody has is acquired. -/
theorem acquire (holds : HoldsRows initial table changes) {lock : Lock}
    (free : table.find? lock.id = none) (service : String) :
    HoldsRows initial (table.insert lock.id lock) (changes ++ [.acquired service lock.id]) := by
  have absent : ¬ ((initial.find? lock.id).isSome ∨ ∃ name, lock.id ∈ heldIds name changes) := by
    rw [← holds.rows, free]
    exact Bool.false_ne_true
  obtain ⟨unused, unheld⟩ := not_or.mp absent
  have held : ∀ name lockId, lockId ∈ heldIds name (changes ++ [.acquired service lock.id]) ↔
      service = name ∧ lockId = lock.id ∨ lockId ∈ heldIds name changes := by
    intro name lockId
    rw [heldIds_append, LockChange.heldAfter]
    by_cases own : service = name
    · simp [own]
    · simp [own]
  refine ⟨fun lockId => ?_, fun lockId name member => ?_, fun name => ?_,
    fun lockId first second inFirst inSecond => ?_⟩
  · rw [Dictionary.find?_insert]
    by_cases same : lock.id = lockId
    · rw [if_pos same]
      exact iff_of_true rfl (.inr ⟨service, (held _ _).mpr (.inl ⟨rfl, same.symm⟩)⟩)
    · rw [if_neg same, holds.rows]
      simp [held, Ne.symm same]
  · rcases (held name lockId).mp member with ⟨-, rfl⟩ | earlier
    · exact Option.not_isSome_iff_eq_none.mp unused
    · exact holds.added lockId name earlier
  · rw [heldIds_append, LockChange.heldAfter]
    split
    · exact List.nodup_cons.mpr ⟨fun member => unheld ⟨name, member⟩, holds.once name⟩
    · exact holds.once name
  · rcases (held first lockId).mp inFirst with ⟨rfl, rfl⟩ | earlier
    · rcases (held second lock.id).mp inSecond with ⟨rfl, -⟩ | earlier
      · rfl
      · exact (unheld ⟨second, earlier⟩).elim
    · rcases (held second lockId).mp inSecond with ⟨rfl, rfl⟩ | also
      · exact (unheld ⟨first, earlier⟩).elim
      · exact holds.sole lockId first second earlier also

/-- A lock is released by its holder. -/
theorem release (holds : HoldsRows initial table changes) {service lockId : String}
    (own : lockId ∈ heldIds service changes) :
    HoldsRows initial (table.erase lockId) (changes ++ [.released service lockId]) := by
  have held : ∀ name other, other ∈ heldIds name (changes ++ [.released service lockId]) ↔
      other ≠ lockId ∧ other ∈ heldIds name changes := by
    intro name other
    rw [heldIds_append, LockChange.heldAfter]
    by_cases mine : service = name
    · rw [if_pos mine]
      exact (holds.once name).mem_erase_iff
    · rw [if_neg mine]
      refine ⟨fun member => ⟨?_, member⟩, fun both => both.2⟩
      rintro rfl
      exact mine (holds.sole other service name own member)
  refine ⟨fun other => ?_, fun other name member => holds.added other name ((held _ _).mp member).2,
    fun name => ?_, fun other first second inFirst inSecond => holds.sole other first second
      ((held _ _).mp inFirst).2 ((held _ _).mp inSecond).2⟩
  · rw [Dictionary.find?_erase]
    by_cases same : lockId = other
    · subst same
      simp [held, holds.added lockId service own]
    · rw [if_neg same, holds.rows]
      simp [held, Ne.symm same]
  · rw [heldIds_append, LockChange.heldAfter]
    split
    · exact (holds.once name).erase lockId
    · exact holds.once name

/-- A request makes no difference to what is held. -/
theorem bind (holds : HoldsRows initial table changes) (service : String) :
    HoldsRows initial table (changes ++ [.bound service]) := by
  have held : ∀ name, heldIds name (changes ++ [.bound service]) = heldIds name changes :=
    fun name => heldIds_append name changes _
  refine ⟨fun lockId => ?_, fun lockId name => ?_, fun name => ?_, fun lockId first second => ?_⟩
  · simp only [held, holds.rows]
  · rw [held]
    exact holds.added lockId name
  · rw [held]
    exact holds.once name
  · rw [held, held]
    exact holds.sole lockId first second

end HoldsRows

end ControlPlane
