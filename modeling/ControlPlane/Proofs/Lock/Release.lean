import ControlPlane.Proofs.Lock.Exclusion

/-!
# Releasing a lock again

A release names a lock by its id alone, so it cannot tell a lock from a later one of the same id. If
nobody has the id when a lock is released again, the release fails and changes nothing. If somebody
has acquired it since, that lock is lost (`release_again`).
-/
namespace ControlPlane.Rehearsal

variable {ν Step Reply : Type}

/-- A release fails for want of a lock, and changes nothing. -/
structure FailsAgain (service : LockService) (lock : Lock)
    (before after : Crew ν Step Reply LockReturn) : Prop where
  /-- The result is that there is no lock of the id. -/
  results : after.results = before.results ++ [.release service lock (.error (.notHeld lock.id))]
  /-- The stage is as it was. -/
  stage : after.stage = before.stage

/-- A release takes away the lock of an id from the call that has acquired it last. -/
structure TakesAway (service : LockService) (lock taken : Lock)
    (before after : Crew ν Step Reply LockReturn) : Prop where
  /-- The release succeeds. -/
  results : after.results = before.results ++ [.release service lock (.ok ())]
  /-- There was a lock of the id in the table. -/
  row : before.stage.table.find? lock.id = some taken
  /-- Afterwards there is none, and all other locks are left. -/
  table : ∀ lockId, after.stage.table.find? lockId =
    if lock.id = lockId then none else before.stage.table.find? lockId
  /-- Only the count of the service that releases goes down. -/
  duties : ∀ name, after.stage.duties.find? name =
    if service.name = name then
      (before.stage.duties.find? name).map fun duty => { duty with count := duty.count - 1 }
    else before.stage.duties.find? name

section Again

variable {calls : List LockCall} {crew : Crew ν Step Reply LockReturn} {place : Nat}
  {service : LockService} {lock : Lock}

/-- A release that finds no row fails. -/
theorem Consistent.work_release_free (consistent : Consistent calls crew)
    (run : Step → GuardStage ν → Reply × GuardStage ν)
    (waiting : crew.rest[place]? = some (LockCall.release service lock).program)
    (free : holding lock.id crew.results = none) :
    FailsAgain service lock crew (crew.work run place) := by
  have absent : crew.stage.table.find? lock.id = none := by rw [consistent.keeps, free]
  rw [Crew.work, Crew.workIn_of_some waiting, step_release_free run consistent.plain absent]
  exact ⟨rfl, rfl⟩

/-- A release that finds a row erases it, and counts for the service that releases. -/
theorem Consistent.work_release_held (consistent : Consistent calls crew)
    (run : Step → GuardStage ν → Reply × GuardStage ν)
    (waiting : crew.rest[place]? = some (LockCall.release service lock).program) {taken : Lock}
    (held : holding lock.id crew.results = some taken) :
    TakesAway service lock taken crew (crew.work run place) := by
  have row : crew.stage.table.find? lock.id = some taken := by rw [consistent.keeps, held]
  rw [Crew.work, Crew.workIn_of_some waiting, step_release_held run consistent.plain row]
  refine ⟨rfl, row, fun lockId => ?_, fun name => ?_⟩
  · rw [GuardStage.table_keep, Dictionary.find?_erase]
  · exact GuardStage.duties_changeDuty _ _ _ _

/-- After a release of a lock only later acquisitions decide who holds its id. -/
theorem holding_after_release {history earlier later : List LockReturn} {other : LockService}
    (released : history = earlier ++ .release other lock (.ok ()) :: later) :
    holding lock.id history = holding lock.id later := by
  have freed : holding lock.id (earlier ++ [.release other lock (.ok ())]) = none :=
    holding_append_some (if_pos rfl)
  have split : history = (earlier ++ [.release other lock (.ok ())]) ++ later := by
    rw [released, List.append_assoc]
    rfl
  rw [split, holding_append, freed]
  by_cases quiet : handovers lock.id later = []
  · rw [if_pos quiet, holding, quiet]
    rfl
  · rw [if_neg quiet]

end Again

section Reacquired

/-- A service with a request of its own. -/
def firstService : LockService := ⟨"first", ⟨0⟩⟩

/-- Another service with a request of its own. -/
def secondService : LockService := ⟨"second", ⟨0⟩⟩

/-- The key that both services use. -/
def sharedKey : LockKey := ⟨"sales", .dataset, none, none⟩

/-- The lock of the shared key for a request. -/
def sharedLock (requestId : String) : Lock :=
  Lock.ofKey sharedKey requestId JsonObject.empty GuardStage.bare.start

/-- A stage on which both services have their requests. -/
def sharedStage : GuardStage Unit :=
  { GuardStage.bare with
    duties := Dictionary.ofList
      [("first", ⟨firstService, "one", 0⟩), ("second", ⟨secondService, "two", 0⟩)] }

/-- The first service acquires the lock and releases it twice; the second acquires it in between. -/
def reacquiringCalls : List LockCall :=
  [.acquire firstService sharedKey JsonObject.empty, .release firstService (sharedLock "one"),
    .acquire secondService sharedKey JsonObject.empty, .release firstService (sharedLock "one")]

/-- The order of the steps, with the clock standing still. -/
def reacquiringSchedule : List Turn :=
  [.work 0, .work 0, .work 0, .work 1, .clock GuardStage.bare.start, .work 2, .work 2, .work 2]

/-- The services before the second release. -/
def reacquired : Crew Unit Unit Unit LockReturn :=
  (Crew.start sharedStage (reacquiringCalls.map LockCall.program)).after
    (fun _ stage => ((), stage)) reacquiringSchedule

/-- A second release of a lock can succeed: it erases the row of a lock that somebody else has
acquired since, and the first service has then released more than it has acquired. -/
theorem second_release_succeeds :
    let after := reacquired.work (fun _ stage => ((), stage)) 3
    reacquired.rest[3]? = some (LockCall.release firstService (sharedLock "one")).program ∧
      .release firstService (sharedLock "one") (.ok ()) ∈ reacquired.results ∧
      reacquired.stage.table.find? sharedKey.id = some (sharedLock "two") ∧
      after.results = reacquired.results ++ [.release firstService (sharedLock "one") (.ok ())] ∧
      after.stage.table.find? sharedKey.id = none ∧
      reacquired.stage.lockCount "first" = 0 ∧ after.stage.lockCount "first" = -1 := by
  have results : reacquired.results = [.acquire firstService (.ok (sharedLock "one")),
      .release firstService (sharedLock "one") (.ok ()),
      .acquire secondService (.ok (sharedLock "two"))] := rfl
  refine ⟨rfl, ?_, rfl, rfl, rfl, by decide, by decide⟩
  rw [results]
  simp

end Reacquired

/-- A lock that has been released is released again: that fails and changes nothing, unless the id
has been acquired since and is still held. Then it takes the lock away from that holder. -/
theorem release_again (run : Step → GuardStage ν → Reply × GuardStage ν) {stage : GuardStage ν}
    (plain : stage.Plain) (empty : stage.table = Dictionary.empty) (calls : List LockCall)
    (schedule : List Turn) {place : Nat} {service other : LockService} {lock : Lock}
    {earlier later : List LockReturn} :
    let crew := (Crew.start stage
      (calls.map fun call => (call.program : Guarded Step Reply LockReturn))).after run schedule
    crew.rest[place]? = some (LockCall.release service lock).program →
    crew.results = earlier ++ .release other lock (.ok ()) :: later →
    (holding lock.id later = none → FailsAgain service lock crew (crew.work run place)) ∧
      ∀ taken, holding lock.id later = some taken →
        TakesAway service lock taken crew (crew.work run place) := by
  intro crew waiting released
  have consistent : Consistent calls crew := consistent_after run plain empty calls schedule
  have since := holding_after_release released
  constructor
  · intro free
    exact consistent.work_release_free run waiting (since.trans free)
  · intro taken held
    exact consistent.work_release_held run waiting (since.trans held)

/-- The second release of a lock that somebody else has acquired since. -/
theorem release_again_reacquired :
    sharedStage.Plain ∧ sharedStage.table = Dictionary.empty ∧
      reacquired.rest[3]? = some (LockCall.release firstService (sharedLock "one")).program ∧
      reacquired.results = [.acquire firstService (.ok (sharedLock "one"))] ++
        .release firstService (sharedLock "one") (.ok ()) ::
          [.acquire secondService (.ok (sharedLock "two"))] ∧
      holding sharedKey.id [.acquire secondService (.ok (sharedLock "two"))] =
        some (sharedLock "two") ∧
      TakesAway firstService (sharedLock "one") (sharedLock "two") reacquired
        (reacquired.work (fun _ stage => ((), stage)) 3) := by
  have plain : sharedStage.Plain := .of_empty rfl rfl
  have held : holding sharedKey.id [.acquire secondService (.ok (sharedLock "two"))] =
      some (sharedLock "two") := rfl
  have waiting : reacquired.rest[3]? =
      some (LockCall.release firstService (sharedLock "one")).program := rfl
  have released : reacquired.results = [.acquire firstService (.ok (sharedLock "one"))] ++
      .release firstService (sharedLock "one") (.ok ()) ::
        [.acquire secondService (.ok (sharedLock "two"))] := rfl
  have again := release_again (fun _ stage => ((), stage)) plain rfl reacquiringCalls
    reacquiringSchedule waiting released
  exact ⟨plain, rfl, waiting, released, held, again.2 (sharedLock "two") held⟩

end ControlPlane.Rehearsal
