import ControlPlane.Proofs.Lock.Attempt
import Mathlib.Data.List.Perm.Subperm

/-!
# Histories of lock calls

A history lists what the calls of lock services have given, in the order in which they ended. It is
legal (`Legal`) if each call has given what it would have given had the calls been made one after
another: a lock is acquired only if nobody has it, and released only if somebody does. The histories
of crews are legal; what is said here follows from that alone.

Releases address locks by their ids, so the services may release locks of each other. A history is
orderly (`Orderly`) if they do not.
-/
namespace ControlPlane

/-- A call of a lock service. -/
inductive LockCall where
  /-- Acquire a lock, or report the conflict. -/
  | tryAcquire (service : LockService) (key : LockKey) (data : JsonObject)
  /-- Acquire a lock, or fail with the conflict. -/
  | acquire (service : LockService) (key : LockKey) (data : JsonObject)
  /-- Release the lock of an id. -/
  | release (service : LockService) (lock : Lock)
  /-- Begin anew, for another request. -/
  | bind (service : LockService) (requestId : String)

/-- What a call of a lock service gives. -/
inductive LockReturn where
  | tryAcquire (service : LockService) (result : Except LockError LockOutcome)
  | acquire (service : LockService) (result : Except LockError Lock)
  | release (service : LockService) (lock : Lock) (result : Except LockError Unit)
  | bind (service : LockService)

namespace LockCall

/-- Do what is called for. -/
def program {Step Reply : Type} : LockCall → Guarded Step Reply LockReturn
  | tryAcquire service key data => do return .tryAcquire service (← service.tryAcquire key data)
  | acquire service key data => do return .acquire service (← service.acquire key data)
  | release service lock => do return .release service lock (← service.release lock)
  | bind service requestId => do
    service.bind requestId
    return .bind service

/-- The call is for a lock. -/
def Acquires : LockCall → Prop
  | tryAcquire .. | acquire .. => True
  | release .. | bind .. => False

end LockCall

namespace LockReturn

/-- The service that has acquired a lock, with the lock. -/
def acquired? : LockReturn → Option (String × Lock)
  | tryAcquire service (.ok (.acquired lock)) | acquire service (.ok lock) =>
    some (service.name, lock)
  | _ => none

/-- The service that was to release a lock, with the lock. -/
def released? : LockReturn → Option (String × Lock)
  | release service lock _ => some (service.name, lock)
  | _ => none

/-- What happens to the lock of an id: it is acquired, or it is released. -/
def handover? (lockId : String) : LockReturn → Option (Option Lock)
  | tryAcquire _ (.ok (.acquired lock)) | acquire _ (.ok lock) =>
    if lock.id = lockId then some (some lock) else none
  | release _ lock (.ok ()) => if lock.id = lockId then some none else none
  | _ => none

end LockReturn

/-- The acquisitions and releases of an id: the lock for an acquisition, `none` for a release. -/
def handovers (lockId : String) (history : List LockReturn) : List (Option Lock) :=
  history.filterMap (LockReturn.handover? lockId)

/-- The lock of an id that has been acquired last, unless it has been released since. -/
def holding (lockId : String) (history : List LockReturn) : Option Lock :=
  (handovers lockId history).getLast?.join

/-- Acquisitions and releases take turns, an acquisition first. -/
def Alternates (handovers : List (Option Lock)) : Prop :=
  ∀ index handover, handovers[index]? = some handover → (handover.isSome ↔ index % 2 = 0)

/-- What a call can give after others: a lock that nobody has, and the release of one that somebody
has. -/
def LockReturn.Follows (earlier : List LockReturn) : LockReturn → Prop
  | .tryAcquire _ (.ok (.acquired lock)) | .acquire _ (.ok lock) => holding lock.id earlier = none
  | .release _ lock (.ok ()) => (holding lock.id earlier).isSome
  | .release _ lock (.error _) => holding lock.id earlier = none
  | _ => True

/-- Every call has given what it could after those that ended before. -/
inductive Legal : List LockReturn → Prop where
  /-- Before the first call everything is legal. -/
  | nil : Legal []
  /-- A call gives what it can after those before. -/
  | snoc {earlier : List LockReturn} {result : LockReturn} (legal : Legal earlier)
      (follows : result.Follows earlier) : Legal (earlier ++ [result])

/-- The services that have acquired locks, with the locks. -/
def acquisitions (history : List LockReturn) : List (String × Lock) :=
  history.filterMap LockReturn.acquired?

/-- The services that have released locks, or tried to, with the locks. -/
def releases (history : List LockReturn) : List (String × Lock) :=
  history.filterMap LockReturn.released?

/-- At every moment the services have released only locks that they had acquired themselves, each
at most once. -/
def Orderly (history : List LockReturn) : Prop :=
  ∀ earlier later, history = earlier ++ later → (releases earlier).Subperm (acquisitions earlier)

/-- No release has failed. -/
def ReleasesSucceed (history : List LockReturn) : Prop :=
  ∀ service lock result, .release service lock result ∈ history → result = .ok ()

/-- A service has acquired the lock of an id more often than it has released it. -/
def Holds (history : List LockReturn) (lockId service : String) : Prop :=
  (releases history).countP (fun release => release.1 = service ∧ release.2.id = lockId) <
    (acquisitions history).countP (fun taken => taken.1 = service ∧ taken.2.id = lockId)

/-- A call has acquired a lock for a service. -/
structure LockReturn.Takes (result : LockReturn) (service : String) (lock : Lock) : Prop where
  /-- The call has acquired the lock for the service. -/
  acquired : result.acquired? = some (service, lock)
  /-- The call has released nothing. -/
  released : result.released? = none
  /-- The call gives the id of the lock a holder, and touches no other id. -/
  handover : ∀ lockId, result.handover? lockId = if lock.id = lockId then some (some lock) else none
  /-- Such a result is legal exactly if no one holds the lock. -/
  follows : ∀ {earlier}, result.Follows earlier ↔ holding lock.id earlier = none

/-- A try that succeeds has acquired the lock. -/
theorem LockReturn.takes_tryAcquire (service : LockService) (lock : Lock) :
    (LockReturn.tryAcquire service (.ok (.acquired lock))).Takes service.name lock :=
  ⟨rfl, rfl, fun _ => rfl, .rfl⟩

/-- An acquisition that succeeds has acquired the lock. -/
theorem LockReturn.takes_acquire (service : LockService) (lock : Lock) :
    (LockReturn.acquire service (.ok lock)).Takes service.name lock :=
  ⟨rfl, rfl, fun _ => rfl, .rfl⟩

/-- A call has done nothing to a lock: it has not got one, or was for something else. -/
structure LockReturn.Idle (result : LockReturn) : Prop where
  /-- The call has acquired nothing. -/
  acquired : result.acquired? = none
  /-- The call has released nothing. -/
  released : result.released? = none
  /-- The call touches no id. -/
  handover : ∀ lockId, result.handover? lockId = none
  /-- Such a result is legal at any time. -/
  follows : ∀ earlier, result.Follows earlier

/-- A try that fails has done nothing to a lock. -/
theorem LockReturn.idle_tryAcquire_error (service : LockService) (error : LockError) :
    (LockReturn.tryAcquire service (.error error)).Idle :=
  ⟨rfl, rfl, fun _ => rfl, fun _ => trivial⟩

/-- A try that meets a conflict has done nothing to a lock. -/
theorem LockReturn.idle_tryAcquire_conflict (service : LockService) (conflict : LockConflict) :
    (LockReturn.tryAcquire service (.ok (.conflict conflict))).Idle :=
  ⟨rfl, rfl, fun _ => rfl, fun _ => trivial⟩

/-- An acquisition that fails has done nothing to a lock. -/
theorem LockReturn.idle_acquire_error (service : LockService) (error : LockError) :
    (LockReturn.acquire service (.error error)).Idle :=
  ⟨rfl, rfl, fun _ => rfl, fun _ => trivial⟩

/-- A service that gets a new request has done nothing to a lock. -/
theorem LockReturn.idle_bind (service : LockService) : (LockReturn.bind service).Idle :=
  ⟨rfl, rfl, fun _ => rfl, fun _ => trivial⟩

/-- A call has acquired a lock, released one, failed to release one, or done nothing to a lock. -/
theorem LockReturn.kinds (result : LockReturn) :
    (∃ service lock, result.Takes service lock) ∨
      (∃ service lock, result = .release service lock (.ok ())) ∨
      (∃ service lock error, result = .release service lock (.error error)) ∨ result.Idle := by
  cases result with
  | tryAcquire service result =>
    cases result with
    | error error => exact .inr (.inr (.inr (idle_tryAcquire_error service error)))
    | ok outcome =>
      cases outcome with
      | acquired lock => exact .inl ⟨service.name, lock, takes_tryAcquire service lock⟩
      | conflict conflict => exact .inr (.inr (.inr (idle_tryAcquire_conflict service conflict)))
  | acquire service result =>
    cases result with
    | error error => exact .inr (.inr (.inr (idle_acquire_error service error)))
    | ok lock => exact .inl ⟨service.name, lock, takes_acquire service lock⟩
  | release service lock result =>
    cases result with
    | ok freed => exact .inr (.inl ⟨service, lock, rfl⟩)
    | error error => exact .inr (.inr (.inl ⟨service, lock, error, rfl⟩))
  | bind service => exact .inr (.inr (.inr (idle_bind service)))

section Holding

variable {lockId : String} {history : List LockReturn} {result : LockReturn}

/-- Nobody has a lock in the beginning. -/
@[simp] theorem holding_nil : holding lockId [] = none := rfl

/-- What hands no lock over leaves the holder. -/
theorem holding_append_none (idle : result.handover? lockId = none) :
    holding lockId (history ++ [result]) = holding lockId history := by
  unfold holding handovers
  simp [idle]

/-- The last handover of an id decides who holds its lock. -/
theorem holding_append_some {handover : Option Lock}
    (given : result.handover? lockId = some handover) :
    holding lockId (history ++ [result]) = handover := by
  unfold holding handovers
  simp [given]

/-- What hands one lock over decides who holds it, and leaves the others. -/
theorem holding_append_of_handover {changed : String} {handover : Option Lock}
    (given : ∀ other, result.handover? other = if changed = other then some handover else none) :
    holding lockId (history ++ [result]) =
      if changed = lockId then handover else holding lockId history := by
  have own := given lockId
  by_cases same : changed = lockId
  · rw [if_pos same] at own ⊢
    exact holding_append_some own
  · rw [if_neg same] at own ⊢
    exact holding_append_none own

/-- The later part of a history decides who holds a lock, if it hands it over at all. -/
theorem holding_append (earlier later : List LockReturn) : holding lockId (earlier ++ later) =
    if handovers lockId later = [] then holding lockId earlier else holding lockId later := by
  unfold holding
  have parts : handovers lockId (earlier ++ later) =
      handovers lockId earlier ++ handovers lockId later := List.filterMap_append
  rw [parts]
  by_cases quiet : handovers lockId later = []
  · rw [if_pos quiet, quiet, List.append_nil]
  · rw [if_neg quiet, List.getLast?_append_of_ne_nil _ quiet]

/-- A lock that is held has the id that it is held under. -/
theorem id_of_holding {lock : Lock} (held : holding lockId history = some lock) :
    lock.id = lockId := by
  have last : (handovers lockId history).getLast? = some (some lock) :=
    Option.join_eq_some_iff.mp held
  obtain ⟨result, -, given⟩ := List.mem_filterMap.mp (List.mem_of_getLast? last)
  obtain ⟨service, other, takes⟩ | ⟨service, other, rfl⟩ | ⟨service, other, error, rfl⟩ | idle :=
    result.kinds
  · rw [takes.handover] at given
    obtain ⟨same, rfl⟩ : other.id = lockId ∧ other = lock := by simpa using given
    exact same
  · simp [LockReturn.handover?] at given
  · cases given
  · rw [idle.handover] at given
    cases given

end Holding

section Alternating

variable {handovers : List (Option Lock)} {handover : Option Lock}

/-- A lock is held exactly after an odd number of handovers. -/
theorem Alternates.isSome_last (alternates : Alternates handovers) :
    handovers.getLast?.join.isSome ↔ handovers.length % 2 = 1 := by
  cases last : handovers.getLast? with
  | none =>
    have empty : handovers = [] := List.getLast?_eq_none_iff.mp last
    simp [empty]
  | some handover =>
    have final : handovers[handovers.length - 1]? = some handover := by
      rw [← List.getLast?_eq_getElem?, last]
    have within : handovers.length - 1 < handovers.length := (List.getElem?_eq_some_iff.mp final).1
    have kind := alternates _ _ final
    rw [Option.join_some, kind]
    omega

/-- An acquisition follows when nobody has the lock, and a release when somebody does. -/
theorem Alternates.append (alternates : Alternates handovers)
    (turn : handover.isSome ↔ handovers.getLast?.join = none) :
    Alternates (handovers ++ [handover]) := by
  have parity := alternates.isSome_last
  intro index other found
  by_cases inside : index < handovers.length
  · rw [List.getElem?_append_left inside] at found
    exact alternates index other found
  · have last : index = handovers.length := by
      have within := (List.getElem?_eq_some_iff.mp found).1
      rw [List.length_append, List.length_singleton] at within
      omega
    have same : handover = other := by simpa [last] using found
    rw [← same, turn, last, ← Option.not_isSome_iff_eq_none, parity]
    omega

end Alternating

/-- What a call can give hands a lock over from nobody to somebody, or back. -/
theorem LockReturn.Follows.turn {earlier : List LockReturn} {result : LockReturn}
    (follows : result.Follows earlier) {lockId : String} {handover : Option Lock}
    (given : result.handover? lockId = some handover) :
    handover.isSome ↔ holding lockId earlier = none := by
  obtain ⟨service, lock, takes⟩ | ⟨service, lock, rfl⟩ | ⟨service, lock, error, rfl⟩ | idle :=
    result.kinds
  · rw [takes.handover] at given
    obtain ⟨rfl, rfl⟩ : lock.id = lockId ∧ some lock = handover := by simpa using given
    exact ⟨fun _ => takes.follows.mp follows, fun _ => rfl⟩
  · obtain ⟨rfl, rfl⟩ : lock.id = lockId ∧ none = handover := by
      simpa [LockReturn.handover?] using given
    have held : (holding lock.id earlier).isSome := follows
    exact ⟨nofun, fun free => (Option.not_isSome_iff_eq_none.mpr free held).elim⟩
  · cases given
  · rw [idle.handover] at given
    cases given

/-- In a legal history the acquisitions and releases of an id take turns. -/
theorem Legal.alternates {history : List LockReturn} (legal : Legal history) (lockId : String) :
    Alternates (handovers lockId history) := by
  induction legal with
  | nil => exact fun index handover found => by cases found
  | @snoc earlier result _ follows ih =>
    unfold handovers at ih ⊢
    rw [List.filterMap_append]
    cases given : result.handover? lockId with
    | none => simpa [given] using ih
    | some handover =>
      have last : List.filterMap (LockReturn.handover? lockId) [result] = [handover] := by
        simp [given]
      rw [last]
      exact ih.append (follows.turn given)

section Orderly

variable {history earlier : List LockReturn} {result : LockReturn}

/-- What was orderly until the last call ended was orderly before. -/
theorem Orderly.init (orderly : Orderly (earlier ++ [result])) : Orderly earlier :=
  fun front back same => orderly front (back ++ [result]) (by rw [same, List.append_assoc])

/-- Calls have something in common as often as they acquire or release it. -/
theorem Orderly.countP_le (orderly : Orderly history) (kind : String × Lock → Bool) :
    (releases history).countP kind ≤ (acquisitions history).countP kind :=
  (orderly history [] (List.append_nil history).symm).countP_le kind

/-- How often the lock of an id has been acquired. -/
def timesAcquired (lockId : String) (history : List LockReturn) : Nat :=
  (acquisitions history).countP fun taken => taken.2.id = lockId

/-- How often the lock of an id was to be released. -/
def timesReleased (lockId : String) (history : List LockReturn) : Nat :=
  (releases history).countP fun release => release.2.id = lockId

/-- An acquisition counts for the id of its lock. -/
theorem timesAcquired_append {lockId service : String} {lock : Lock}
    (acquired : result.acquired? = some (service, lock)) :
    timesAcquired lockId (earlier ++ [result]) =
      timesAcquired lockId earlier + if lock.id = lockId then 1 else 0 := by
  unfold timesAcquired acquisitions
  rw [List.filterMap_append, List.countP_append]
  simp [acquired, List.countP_cons]

/-- A release counts for the id of its lock. -/
theorem timesReleased_append {lockId service : String} {lock : Lock}
    (released : result.released? = some (service, lock)) :
    timesReleased lockId (earlier ++ [result]) =
      timesReleased lockId earlier + if lock.id = lockId then 1 else 0 := by
  unfold timesReleased releases
  rw [List.filterMap_append, List.countP_append]
  simp [released, List.countP_cons]

/-- What acquires no lock does not count as an acquisition. -/
theorem timesAcquired_append_none {lockId : String} (idle : result.acquired? = none) :
    timesAcquired lockId (earlier ++ [result]) = timesAcquired lockId earlier := by
  unfold timesAcquired acquisitions
  simp [idle]

/-- What releases no lock does not count as a release. -/
theorem timesReleased_append_none {lockId : String} (idle : result.released? = none) :
    timesReleased lockId (earlier ++ [result]) = timesReleased lockId earlier := by
  unfold timesReleased releases
  simp [idle]

/-- The release of a lock hands it over. -/
theorem handover?_release (service : LockService) (lock : Lock) (lockId : String) :
    (LockReturn.release service lock (.ok ())).handover? lockId =
      if lock.id = lockId then some none else none := rfl

/-- No release fails as long as none that is added does. -/
theorem ReleasesSucceed.append (clean : ReleasesSucceed earlier)
    (last : result.released? = none ∨ ∃ service lock, result = .release service lock (.ok ())) :
    ReleasesSucceed (earlier ++ [result]) := by
  intro service lock outcome member
  rcases List.mem_append.mp member with before | final
  · exact clean service lock outcome before
  · obtain rfl := List.mem_singleton.mp final
    obtain idle | ⟨other, otherLock, same⟩ := last
    · cases idle
    · cases same
      rfl

/-- In a legal and orderly history no release fails, and a lock has been acquired once more than
released while it is held, and as often otherwise. -/
theorem Legal.balance (legal : Legal history) (orderly : Orderly history) :
    ReleasesSucceed history ∧ ∀ lockId, timesAcquired lockId history =
      timesReleased lockId history + if (holding lockId history).isSome then 1 else 0 := by
  induction legal with
  | nil => exact ⟨fun _ _ _ member => (List.not_mem_nil member).elim, fun _ => rfl⟩
  | @snoc earlier result _ follows ih =>
    obtain ⟨clean, balance⟩ := ih orderly.init
    obtain ⟨service, lock, takes⟩ | ⟨service, lock, rfl⟩ | ⟨service, lock, error, rfl⟩ | idle :=
      result.kinds
    · refine ⟨clean.append (.inl takes.released), fun lockId => ?_⟩
      rw [timesAcquired_append takes.acquired, timesReleased_append_none takes.released, balance,
        holding_append_of_handover takes.handover]
      by_cases same : lock.id = lockId
      · subst same
        simp [takes.follows.mp follows]
      · simp [same]
    · have held : (holding lock.id earlier).isSome := follows
      refine ⟨clean.append (.inr ⟨service, lock, rfl⟩), fun lockId => ?_⟩
      rw [timesAcquired_append_none rfl, timesReleased_append rfl, balance,
        holding_append_of_handover (handover?_release service lock)]
      by_cases same : lock.id = lockId
      · subst same
        simp [held]
      · simp [same]
    · -- A failed release would be one more than there were acquisitions.
      have free : holding lock.id earlier = none := follows
      have count : timesReleased lock.id (earlier ++ [.release service lock (.error error)]) ≤
          timesAcquired lock.id (earlier ++ [.release service lock (.error error)]) :=
        orderly.countP_le _
      rw [timesAcquired_append_none rfl, timesReleased_append rfl, balance, free] at count
      simp only [if_true, Option.isSome_none, Bool.false_eq_true, if_false] at count
      omega
    · refine ⟨clean.append (.inl idle.released), fun lockId => ?_⟩
      rw [timesAcquired_append_none idle.acquired, timesReleased_append_none idle.released, balance,
        holding_append_none (idle.handover lockId)]

/-- What is counted for an id is counted for one service, for another, or for neither. -/
theorem countP_services (entries : List (String × Lock)) (lockId : String) {first second : String}
    (different : first ≠ second) :
    entries.countP (fun entry => entry.2.id = lockId) =
      entries.countP (fun entry => entry.1 = first ∧ entry.2.id = lockId) +
        entries.countP (fun entry => entry.1 = second ∧ entry.2.id = lockId) +
        entries.countP fun entry => entry.1 ≠ first ∧ entry.1 ≠ second ∧ entry.2.id = lockId := by
  induction entries with
  | nil => rfl
  | cons entry rest ih =>
    simp only [List.countP_cons, ih]
    by_cases same : entry.2.id = lockId
    · by_cases isFirst : entry.1 = first
      · simp [same, isFirst, different]
        omega
      · by_cases isSecond : entry.1 = second
        · simp [same, isSecond, Ne.symm different]
          omega
        · simp [same, isFirst, isSecond]
          omega
    · simp [same]

/-- In a legal and orderly history no two services hold the lock of an id. -/
theorem Legal.exclusive (legal : Legal history) (orderly : Orderly history)
    {lockId first second : String} (holdsFirst : Holds history lockId first)
    (holdsSecond : Holds history lockId second) : first = second := by
  by_cases same : first = second
  · exact same
  · have balance := (legal.balance orderly).2 lockId
    have others := orderly.countP_le
      fun entry => entry.1 ≠ first ∧ entry.1 ≠ second ∧ entry.2.id = lockId
    unfold timesAcquired timesReleased at balance
    rw [countP_services (acquisitions history) lockId same,
      countP_services (releases history) lockId same] at balance
    unfold Holds at holdsFirst holdsSecond
    split at balance <;> omega

end Orderly

end ControlPlane
