import ControlPlane.Proofs.Dictionary
import ControlPlane.Proofs.Lock.Course

/-!
# Stale locks

A service finds the stale locks of a table in memory by going through its rows and looking at the
clock, and it looks at the clock once more to see whether a lock that is in its way is stale. At one
time both give the same: the rows older than the threshold, to the nanosecond (`staleness_exact`).

How the rows came into the table plays no part, except that each is filed under its own id
(`filed_built`), so that a row is listed just if it is found (`Filed.mem_list_iff`).
-/
namespace ControlPlane

namespace LockTable

/-- What changes the rows of a table. -/
inductive RowChange where
  /-- Create a lock, unless there is one of that id. -/
  | create (lock : Lock)
  /-- Put a lock into the table, whether there is one of that id or not. -/
  | overwrite (lock : Lock)
  /-- Delete the lock of an id, if there is one. -/
  | delete (lockId : String)

/-- The table after a change. -/
def change (table : LockTable) : RowChange → LockTable
  | .create lock => (table.create lock).2
  | .overwrite lock => table.overwrite lock
  | .delete lockId => (table.delete lockId).2

/-- The table that some changes make of the empty one. -/
def built (changes : List RowChange) : LockTable := changes.foldl change Dictionary.empty

/-- Every row is filed under its own id. -/
def Filed (table : LockTable) : Prop := ∀ entry ∈ table.entries, entry.2.id = entry.1

/-- Rows stay filed when one is put under its id. -/
theorem Filed.insert {table : LockTable} (filed : table.Filed) (lock : Lock) :
    Filed (Dictionary.insert table lock.id lock) := by
  intro entry member
  rcases Entries.mem_insert member with rfl | old
  · rfl
  · exact filed entry old

/-- Rows stay filed, whatever changes them. -/
theorem Filed.change {table : LockTable} (filed : table.Filed) (step : RowChange) :
    (table.change step).Filed := by
  cases step with
  | create lock =>
    cases found : table.find? lock.id with
    | none =>
      rw [LockTable.change, create_of_find?_none found]
      exact filed.insert lock
    | some holder =>
      rw [LockTable.change, create_of_find?_some found]
      exact filed
  | overwrite lock => exact filed.insert lock
  | delete lockId =>
    cases found : table.find? lockId with
    | none =>
      rw [LockTable.change, delete_of_find?_none found]
      exact filed
    | some holder =>
      rw [LockTable.change, delete_of_find?_some found]
      exact fun entry member => filed entry (Entries.mem_erase member)

/-- Rows are filed in every table that is made by changes. -/
theorem filed_built (changes : List RowChange) : (built changes).Filed := by
  have filed_foldl (table : LockTable) (filed : table.Filed) :
      (changes.foldl LockTable.change table).Filed := by
    induction changes generalizing table with
    | nil => exact filed
    | cons step rest ih => exact ih (table.change step) (filed.change step)
  exact filed_foldl Dictionary.empty fun entry member => absurd member List.not_mem_nil

variable {table : LockTable}

/-- A row is listed just if it is found under its id. -/
theorem Filed.mem_list_iff (filed : table.Filed) {lock : Lock} :
    lock ∈ table.list ↔ table.find? lock.id = some lock := by
  constructor
  · intro listed
    obtain ⟨⟨key, row⟩, member, rfl⟩ := List.mem_map.mp listed
    have own : row.id = key := filed _ member
    rw [own]
    exact Entries.find?_of_mem table.ascending member
  · intro found
    exact List.mem_map.mpr ⟨(lock.id, lock), Entries.mem_of_find? found, rfl⟩

/-- Rows are listed in the order of their ids, each of them once. -/
theorem Filed.pairwise_list (filed : table.Filed) : table.list.Pairwise (·.id < ·.id) := by
  refine List.pairwise_map.mpr (table.ascending.imp_of_mem ?_)
  intro first second memberFirst memberSecond before
  rw [filed first memberFirst, filed second memberSecond]
  exact before

/-- Surroundings with the lock table in memory and a clock that stands still. All the rest is
elsewhere. -/
def during {Step Reply σ : Type} (elsewhere : Surroundings (guardInterface Step Reply) σ)
    (now : Instant) : Surroundings (guardInterface Step Reply) (LockTable × σ) where
  answer
    | .create lock, (table, state) => ((table.create lock).1, (table.create lock).2, state)
    | .get lockId, (table, state) => (table.get lockId, table, state)
    | .delete lockId, (table, state) => ((table.delete lockId).1, (table.delete lockId).2, state)
    | .list, (table, state) => (.ok table.list, table, state)
    | .clock, both => (now, both)
    | request, (table, state) =>
      let (answer, after) := elsewhere.answer request state
      (answer, table, after)
  keep mark both := (both.1, elsewhere.keep mark both.2)

end LockTable

namespace Lock

variable {lock : Lock} {threshold : Duration} {now : Instant}

/-- Outside leap seconds a lock is stale just if more than the threshold has passed. -/
theorem isStale_iff (plain : ¬ lock.madeAt.IsLeap) (plainNow : ¬ now.IsLeap) :
    lock.isStale threshold now = true ↔
      (threshold.nanoseconds : Int) < now.total - lock.madeAt.total := by
  rw [isStale, decide_eq_true_iff, age, Instant.since_eq_sub plainNow plain]

/-- At the threshold a lock is not stale yet. -/
example : let lock := ofKey ⟨"orders", .dataset, none, none⟩ "request" .empty .epoch
    lock.isStale ⟨1500000000⟩ ⟨1, 500000000, by decide, by decide⟩ = false ∧
      lock.isStale ⟨1500000000⟩ ⟨1, 500000001, by decide, by decide⟩ = true := by decide

/-- A lock is no older than the time that has passed since it was made. -/
theorem age_le (plain : ¬ lock.madeAt.IsLeap) : lock.age now ≤ now.total - lock.madeAt.total := by
  have between : now.leapBetween lock.madeAt ≤ 0 := by
    simp only [Instant.leapBetween, plain, and_false, if_false]
    split <;> decide
  rw [age, Instant.since]
  omega

/-- A lock that is stale was made before. -/
theorem total_lt_of_isStale (plain : ¬ lock.madeAt.IsLeap)
    (stale : lock.isStale threshold now = true) : lock.madeAt.total < now.total := by
  have older : (threshold.nanoseconds : Int) < lock.age now := of_decide_eq_true stale
  have passed : lock.age now ≤ now.total - lock.madeAt.total := age_le plain
  omega

/-- A lock that is stale is so at every later time and for every smaller threshold. -/
theorem isStale_mono {later : Instant} {smaller : Duration} (plain : ¬ lock.madeAt.IsLeap)
    (plainLater : ¬ later.IsLeap) (after : now.total ≤ later.total)
    (smallerOrSame : smaller.nanoseconds ≤ threshold.nanoseconds)
    (stale : lock.isStale threshold now = true) : lock.isStale smaller later = true := by
  rw [isStale_iff plain plainLater]
  have older : (threshold.nanoseconds : Int) < lock.age now := of_decide_eq_true stale
  have passed : lock.age now ≤ now.total - lock.madeAt.total := age_le plain
  omega

end Lock

namespace LockService

variable {Step Reply σ : Type} {elsewhere : Surroundings (guardInterface Step Reply) σ}
  {service : LockService} {table : LockTable} {now : Instant}

/-- Going through some locks keeps the stale ones and changes nothing. -/
theorem run_keepStale (locks : List Lock) (both : LockTable × σ) :
    (service.keepStale locks).run (LockTable.during elsewhere now) both =
      (locks.filter (·.isStale service.staleAfter now), both) := by
  induction locks with
  | nil => rfl
  | cons lock rest ih =>
    change ((service.keepStale rest).bind fun stale => Program.done
      (if lock.isStale service.staleAfter now then lock :: stale else stale)).run
        (LockTable.during elsewhere now) both = _
    rw [Program.run_bind, ih, List.filter_cons]
    rfl

/-- Looking for the stale locks of a table changes nothing. -/
theorem run_staleLocks (service : LockService) (table : LockTable) (now : Instant) (state : σ) :
    service.staleLocks.run (LockTable.during elsewhere now) (table, state) =
      (Except.ok (table.list.filter (·.isStale service.staleAfter now)), table, state) := by
  change ((service.keepStale table.list).bind fun stale => Program.done (Except.ok stale)).run
    (LockTable.during elsewhere now) (table, state) = _
  rw [Program.run_bind, run_keepStale]
  rfl

/-- Looking at the lock in the way reports it, and whether it is stale. -/
theorem run_inspect_of_held (service : LockService) {attempted holder : Lock}
    (held : table.find? attempted.id = some holder) (state : σ) :
    ((service.inspect attempted).run (LockTable.during elsewhere now) (table, state)).1 =
      .ok (.conflict ⟨attempted, some holder, holder.isStale service.staleAfter now⟩) := by
  have found : (LockTable.during elsewhere now).answer (.get attempted.id) (table, state) =
      (.ok holder, table, state) := by
    change (table.get attempted.id, table, state) = _
    rw [LockTable.get, held]
  have inspected : (service.inspect attempted).run (LockTable.during elsewhere now) (table, state) =
      Program.run (LockTable.during elsewhere now)
        (if holder.isStale service.staleAfter now then
          Guarded.report (staleReport holder) >>= fun _ =>
            pure (.ok (.conflict ⟨attempted, some holder, true⟩))
        else pure (.ok (.conflict ⟨attempted, some holder, false⟩))) (table, state) :=
    (Program.run_ask found).trans (Program.run_ask rfl)
  rw [inspected]
  cases stale : holder.isStale service.staleAfter now <;> rfl

/-- Trying to take a lock that is held reports the holder, and whether it is stale. -/
theorem run_tryAcquire_of_held (service : LockService) {key : LockKey} {holder : Lock}
    (held : table.find? key.id = some holder) (data : JsonObject) (state : σ) :
    ∃ attempted, ((service.tryAcquire key data).run (LockTable.during elsewhere now)
      (table, state)).1 =
        .ok (.conflict ⟨attempted, some holder, holder.isStale service.staleAfter now⟩) := by
  let attempted := Lock.ofKey key (elsewhere.answer (.requestId service.name) state).1 data now
  refine ⟨attempted, ?_⟩
  have refused (left : σ) : (LockTable.during elsewhere now).answer (.create attempted)
      (table, left) = (.error (.alreadyExists attempted.id), table, left) := by
    change ((table.create attempted).1, (table.create attempted).2, left) = _
    rw [LockTable.create_of_find?_some held]
  have tried : (service.tryAcquire key data).run (LockTable.during elsewhere now) (table, state) =
      _ := (Program.run_ask rfl).trans ((Program.run_ask rfl).trans (Program.run_ask (refused _)))
  rw [tried]
  exact run_inspect_of_held service held _

/-- Trying to take a lock that is free takes it. -/
theorem run_tryAcquire_of_free (service : LockService) {key : LockKey}
    (free : table.find? key.id = none) (data : JsonObject) (state : σ) :
    ∃ taken, ((service.tryAcquire key data).run (LockTable.during elsewhere now)
      (table, state)).1 = .ok (.acquired taken) := by
  let lock := Lock.ofKey key (elsewhere.answer (.requestId service.name) state).1 data now
  refine ⟨lock, ?_⟩
  have created (left : σ) : (LockTable.during elsewhere now).answer (.create lock) (table, left) =
      (.ok (), table.insert lock.id lock, left) := by
    change ((table.create lock).1, (table.create lock).2, left) = _
    rw [LockTable.create_of_find?_none free]
  have tried : (service.tryAcquire key data).run (LockTable.during elsewhere now) (table, state) =
      _ := (Program.run_ask rfl).trans ((Program.run_ask rfl).trans (Program.run_ask (created _)))
  rw [tried]
  rfl

/-- Taking a lock is trying to, with a conflict as an error. -/
theorem run_acquire (service : LockService) (key : LockKey) (data : JsonObject)
    (both : LockTable × σ) :
    ((service.acquire key data).run (LockTable.during elsewhere now) both).1 =
      required ((service.tryAcquire key data).run (LockTable.during elsewhere now) both).1 := by
  change (((service.tryAcquire key data).bind _).run (LockTable.during elsewhere now) both).1 = _
  rw [Program.run_bind]
  rcases (service.tryAcquire key data).run (LockTable.during elsewhere now) both with ⟨outcome, after⟩
  cases outcome with
  | error error => rfl
  | ok outcome => cases outcome <;> rfl

/-- A service reports a conflict when it takes the lock of a key, or tries to. -/
def Reports (elsewhere : Surroundings (guardInterface Step Reply) σ) (service : LockService)
    (table : LockTable) (now : Instant) (key : LockKey) (conflict : LockConflict) : Prop :=
  ∃ data state,
    ((service.tryAcquire key data).run (LockTable.during elsewhere now) (table, state)).1 =
        .ok (.conflict conflict) ∨
      ((service.acquire key data).run (LockTable.during elsewhere now) (table, state)).1 =
        .error (.locked conflict)

/-- A conflict that is reported names the lock in the way, and says whether it is stale. -/
theorem Reports.exists_holder {key : LockKey} {conflict : LockConflict}
    (reports : Reports elsewhere service table now key conflict) :
    ∃ holder, table.find? key.id = some holder ∧ conflict.holder = some holder ∧
      conflict.stale = holder.isStale service.staleAfter now := by
  obtain ⟨data, state, reported⟩ := reports
  rw [run_acquire] at reported
  cases found : table.find? key.id with
  | none =>
    obtain ⟨taken, acquired⟩ := run_tryAcquire_of_free service found data state
    rw [acquired] at reported
    rcases reported with tried | required
    · cases tried
    · cases required
  | some holder =>
    obtain ⟨attempted, blocked⟩ := run_tryAcquire_of_held service found data state
    rw [blocked] at reported
    refine ⟨holder, rfl, ?_⟩
    rcases reported with tried | required
    · cases tried
      exact ⟨rfl, rfl⟩
    · cases required
      exact ⟨rfl, rfl⟩

/-- The locks of a table that are stale at a time, and what a service makes of them. -/
structure Staleness (elsewhere : Surroundings (guardInterface Step Reply) σ)
    (service : LockService) (table : LockTable) (now : Instant) (stale : List Lock) : Prop where
  /-- They are what is listed, and nothing changes. -/
  listed (state : σ) :
    service.staleLocks.run (LockTable.during elsewhere now) (table, state) =
      (Except.ok stale, table, state)
  /-- They are the rows that are older than the threshold, to the nanosecond. -/
  exact {lock : Lock} (plain : ¬ lock.madeAt.IsLeap) (plainNow : ¬ now.IsLeap) :
    lock ∈ stale ↔ table.find? lock.id = some lock ∧
      (service.staleAfter.nanoseconds : Int) < now.total - lock.madeAt.total
  /-- Each is listed once, in the order of the ids. -/
  ascending : stale.Pairwise (·.id < ·.id)
  /-- None was made now or will be made later. -/
  past {lock : Lock} (plain : ¬ lock.madeAt.IsLeap) (made : now.total ≤ lock.madeAt.total) :
    lock ∉ stale
  /-- A conflict names the lock in the way, and says of it whether it is one of them. -/
  flagged {key : LockKey} {conflict : LockConflict}
    (reports : Reports elsewhere service table now key conflict) :
    ∃ holder, conflict.holder = some holder ∧ table.find? key.id = some holder ∧
      (conflict.stale = true ↔ holder ∈ stale)
  /-- Whenever there is a lock in the way, there is a conflict. -/
  reported {key : LockKey} {holder : Lock} (held : table.find? key.id = some holder)
    (data : JsonObject) (state : σ) :
    ∃ conflict,
      ((service.tryAcquire key data).run (LockTable.during elsewhere now) (table, state)).1 =
          .ok (.conflict conflict) ∧
        ((service.acquire key data).run (LockTable.during elsewhere now) (table, state)).1 =
          .error (.locked conflict)
  /-- As long as a row that is stale is in the table, it is stale at every later time and for every
  smaller threshold. -/
  lasting {lock : Lock} (member : lock ∈ stale) (plain : ¬ lock.madeAt.IsLeap) {later : Instant}
    (plainLater : ¬ later.IsLeap) (after : now.total ≤ later.total) {other : LockService}
    (smaller : other.staleAfter.nanoseconds ≤ service.staleAfter.nanoseconds)
    (changes : List LockTable.RowChange)
    (left : (LockTable.built changes).find? lock.id = some lock) (state : σ) :
    ∃ still, other.staleLocks.run (LockTable.during elsewhere later)
        (LockTable.built changes, state) = (Except.ok still, LockTable.built changes, state) ∧
      lock ∈ still

/-- Whatever changes made a table, the stale locks that a service lists are the rows that are older
than its threshold, and a conflict says the same of the lock in the way. -/
theorem staleness_exact (elsewhere : Surroundings (guardInterface Step Reply) σ)
    (service : LockService) (changes : List LockTable.RowChange) (now : Instant) :
    ∃ stale, Staleness elsewhere service (LockTable.built changes) now stale := by
  let table := LockTable.built changes
  have filed : table.Filed := LockTable.filed_built changes
  let stale := table.list.filter (·.isStale service.staleAfter now)
  have mem_stale {lock : Lock} : lock ∈ stale ↔
      table.find? lock.id = some lock ∧ lock.isStale service.staleAfter now = true := by
    rw [List.mem_filter, filed.mem_list_iff]
  refine ⟨stale, ?_⟩
  constructor
  case listed => exact run_staleLocks service table now
  case exact =>
    intro lock plain plainNow
    rw [mem_stale, Lock.isStale_iff plain plainNow]
  case ascending => exact filed.pairwise_list.filter _
  case past =>
    intro lock plain made member
    have before := Lock.total_lt_of_isStale plain (mem_stale.mp member).2
    omega
  case flagged =>
    intro key conflict reports
    obtain ⟨holder, found, named, flag⟩ := reports.exists_holder
    have own : table.find? holder.id = some holder := by
      have same : holder.id = key.id := filed _ (Entries.mem_of_find? found)
      rw [same, found]
    refine ⟨holder, named, found, ?_⟩
    rw [mem_stale, flag]
    exact (and_iff_right own).symm
  case reported =>
    intro key holder held data state
    obtain ⟨attempted, blocked⟩ := run_tryAcquire_of_held service held data state
    refine ⟨_, blocked, ?_⟩
    rw [run_acquire, blocked]
    rfl
  case lasting =>
    intro lock member plain later plainLater after other smaller changes left state
    refine ⟨_, run_staleLocks other _ later state, ?_⟩
    have still := Lock.isStale_mono plain plainLater after smaller (mem_stale.mp member).2
    exact List.mem_filter.mpr ⟨(LockTable.filed_built changes).mem_list_iff.mpr left, still⟩

end LockService

end ControlPlane
