import ControlPlane.Proofs.Lock.History
import ControlPlane.Proofs.Rehearsal.Crew

/-!
# Locks exclude each other

Any number of lock calls on one plain stage, in any order of their requests, give a legal history,
and the table holds just the locks that the history says are held (`Consistent`). So acquisitions
and releases of an id take turns, and at most one service holds an id, if each releases only what it
has acquired (`locks_exclude`).
-/
namespace ControlPlane.Rehearsal

variable {ν Step Reply : Type}

/-- A program that has just acquired a lock for a service. -/
def Won (service : String) (lock : Lock) (program : Guarded Step Reply LockReturn) : Prop :=
  ∃ result : LockReturn, program = .leave (.acquired service) (.done result) ∧
    result.Takes service lock

/-- What can be left of a call that has not ended. -/
def Underway : LockCall → Guarded Step Reply LockReturn → Prop
  | .tryAcquire service _ _, program | .acquire service _ _, program =>
    LockService.Attempting (Won service.name) LockReturn.Idle program
  | .release service lock, program => program = (LockCall.release service lock).program
  | .bind service requestId, program => program = (LockCall.bind service requestId).program

/-- A call is under way from the start. -/
theorem underway_program (call : LockCall) :
    Underway call (call.program : Guarded Step Reply LockReturn) := by
  cases call with
  | tryAcquire service key data =>
    refine LockService.Attempting.bind (LockService.attempting_tryAcquire
      (fun lock rest => rest = .leave (.acquired service.name) (.done (.ok (.acquired lock))))
      (fun result => ∀ lock, result ≠ .ok (.acquired lock)) (fun _ _ => rfl)
      fun _ other => other) ?_ ?_
    · rintro lock rest rfl
      exact ⟨_, rfl, LockReturn.takes_tryAcquire service lock⟩
    · intro result other
      refine .lost ?_
      cases result with
      | error error => exact LockReturn.idle_tryAcquire_error service error
      | ok outcome =>
        cases outcome with
        | acquired lock => exact absurd rfl (other lock)
        | conflict conflict => exact LockReturn.idle_tryAcquire_conflict service conflict
  | acquire service key data =>
    refine LockService.Attempting.bind LockService.attempting_acquire ?_ ?_
    · rintro lock rest ⟨-, rfl⟩
      exact ⟨_, rfl, LockReturn.takes_acquire service lock⟩
    · rintro result ⟨error, rfl⟩
      exact .lost (LockReturn.idle_acquire_error service error)
  | release service lock => rfl
  | bind service requestId => rfl

/-- What a step of a lock call does to the stage, and the results that it gives. -/
inductive LockStep (call : LockCall) (before : GuardStage ν) :
    GuardStage ν → List LockReturn → Prop where
  /-- The call looks around, and has no result yet. -/
  | looked {after : GuardStage ν} (undisturbed : before.Undisturbed after) :
      LockStep call before after []
  /-- The call ends without a change. -/
  | idle {after : GuardStage ν} {result : LockReturn} (undisturbed : before.Undisturbed after)
      (idle : result.Idle) : LockStep call before after [result]
  /-- The call takes a lock that nobody had. -/
  | taken {service : String} {lock : Lock} {result : LockReturn} (acquires : call.Acquires)
      (takes : result.Takes service lock) (free : before.table.find? lock.id = none) :
      LockStep call before
        (GuardStage.keep (.acquired service)
          { before with table := before.table.insert lock.id lock }) [result]
  /-- The call releases a lock that somebody had. -/
  | freed {service : LockService} {lock : Lock} (called : call = .release service lock)
      (held : (before.table.find? lock.id).isSome) :
      LockStep call before
        (GuardStage.keep (.released service.name)
          { before with table := before.table.erase lock.id }) [.release service lock (.ok ())]
  /-- The call is to release a lock that nobody has. -/
  | refused {service : LockService} {lock : Lock} (called : call = .release service lock)
      (free : before.table.find? lock.id = none) :
      LockStep call before before [.release service lock (.error (.notHeld lock.id))]
  /-- The call gives its service a request. -/
  | bound {service : LockService} {requestId : String} (called : call = .bind service requestId) :
      LockStep call before (GuardStage.keep (.bound service.name requestId) before) [.bind service]

section Steps

variable {call : LockCall} {program : Guarded Step Reply LockReturn} {before after : GuardStage ν}
  {given earlier : List LockReturn}

/-- A step of an attempt looks around, gives up, or takes the lock. -/
theorem lockStep_of_attempting {service : String}
    (run : Step → GuardStage ν → Reply × GuardStage ν) (acquires : call.Acquires)
    (attempting : LockService.Attempting (Won service) LockReturn.Idle program)
    (plain : before.Plain) :
    let after := program.step (GuardStage.surroundings run) before
    LockStep call before after.2 (Crew.ended program after.1) ∧
      (LockService.Attempting (Won service) LockReturn.Idle after.1 ∨
        ∃ result, after.1 = .done result) := by
  intro after
  obtain ⟨later, undisturbed, -⟩ | ⟨lock, next, rfl, ⟨result, resumed, takes⟩, free⟩ :=
    attempting.step run plain
  · refine ⟨?_, .inl later⟩
    change LockService.Attempting _ _ after.1 at later
    generalize after.1 = left at later ⊢
    unfold Crew.ended
    split
    · exact .looked undisturbed
    · cases later with
      | lost idle => exact .idle undisturbed idle
    · exact .looked undisturbed
  · have answered : GuardStage.answer run (.create lock) before =
        (.ok (), { before with table := before.table.insert lock.id lock }) := by
      rw [plain.answer_create, LockTable.create_of_find?_none free]
    have stepped : after = (.done result, GuardStage.keep (.acquired service)
        { before with table := before.table.insert lock.id lock }) := by
      refine (GuardStage.step_ask answered).trans ?_
      rw [resumed]
      rfl
    rw [stepped]
    exact ⟨.taken acquires takes free, .inr ⟨result, rfl⟩⟩

/-- A release fails if there is no row of its id. -/
theorem step_release_free (run : Step → GuardStage ν → Reply × GuardStage ν) (plain : before.Plain)
    {service : LockService} {lock : Lock} (free : before.table.find? lock.id = none) :
    Program.step (GuardStage.surroundings run)
        ((LockCall.release service lock).program : Guarded Step Reply LockReturn) before =
      (.done (.release service lock (.error (.notHeld lock.id))), before) := by
  have answered : GuardStage.answer run (.delete lock.id) before =
      (.error (.notFound lock.id), before) := by
    rw [plain.answer_delete, LockTable.delete_of_find?_none free]
  rw [LockCall.program, LockService.release_bind]
  exact GuardStage.step_ask answered

/-- A release erases the row of its id, whoever has created it. -/
theorem step_release_held (run : Step → GuardStage ν → Reply × GuardStage ν) (plain : before.Plain)
    {service : LockService} {lock holder : Lock}
    (held : before.table.find? lock.id = some holder) :
    Program.step (GuardStage.surroundings run)
        ((LockCall.release service lock).program : Guarded Step Reply LockReturn) before =
      (.done (.release service lock (.ok ())), GuardStage.keep (.released service.name)
        { before with table := before.table.erase lock.id }) := by
  have answered : GuardStage.answer run (.delete lock.id) before =
      (.ok (), { before with table := before.table.erase lock.id }) := by
    rw [plain.answer_delete, LockTable.delete_of_find?_some held]
  rw [LockCall.program, LockService.release_bind]
  exact GuardStage.step_ask answered

/-- A step of a call under way is a lock step, and the call goes on or ends. -/
theorem lockStep_of_underway (run : Step → GuardStage ν → Reply × GuardStage ν)
    (underway : Underway call program) (plain : before.Plain) :
    let after := program.step (GuardStage.surroundings run) before
    LockStep call before after.2 (Crew.ended program after.1) ∧
      (Underway call after.1 ∨ ∃ result, after.1 = .done result) := by
  cases call with
  | tryAcquire service key data => exact lockStep_of_attempting run trivial underway plain
  | acquire service key data => exact lockStep_of_attempting run trivial underway plain
  | release service lock =>
    cases underway
    cases found : before.table.find? lock.id with
    | none =>
      rw [step_release_free run plain found]
      exact ⟨.refused rfl found, .inr ⟨_, rfl⟩⟩
    | some holder =>
      rw [step_release_held run plain found]
      exact ⟨.freed rfl (by rw [found]; rfl), .inr ⟨_, rfl⟩⟩
  | bind service requestId =>
    cases underway
    exact ⟨.bound rfl, .inr ⟨_, rfl⟩⟩

/-- The table holds the locks that a history says are held. -/
def Keeps (stage : GuardStage ν) (history : List LockReturn) : Prop :=
  ∀ lockId, stage.table.find? lockId = holding lockId history

/-- What hands no lock over leaves the table right if it leaves the table. -/
theorem Keeps.append_none {result : LockReturn} (keeps : Keeps before earlier)
    (table : after.table = before.table) (idle : ∀ lockId, result.handover? lockId = none) :
    Keeps after (earlier ++ [result]) := by
  intro lockId
  rw [table, keeps lockId, holding_append_none (idle lockId)]

/-- What hands one lock over leaves the table right if it changes the row of that lock alone. -/
theorem Keeps.append_some {result : LockReturn} {changed : String} {held : Option Lock}
    (keeps : Keeps before earlier)
    (table : ∀ lockId, after.table.find? lockId =
      if changed = lockId then held else before.table.find? lockId)
    (handover : ∀ lockId, result.handover? lockId = if changed = lockId then some held else none) :
    Keeps after (earlier ++ [result]) := by
  intro lockId
  rw [table, holding_append_of_handover handover, keeps lockId]

/-- A lock step keeps the stage plain, the history legal, and the table right. -/
theorem LockStep.keeps (step : LockStep call before after given) (plain : before.Plain)
    (legal : Legal earlier) (keeps : Keeps before earlier) :
    after.Plain ∧ Legal (earlier ++ given) ∧ Keeps after (earlier ++ given) := by
  cases step with
  | looked undisturbed =>
    rw [List.append_nil]
    refine ⟨undisturbed.plain plain, legal, fun lockId => ?_⟩
    rw [undisturbed.table]
    exact keeps lockId
  | @idle _ result undisturbed idle =>
    have follows : result.Follows earlier := idle.follows earlier
    exact ⟨undisturbed.plain plain, legal.snoc follows,
      keeps.append_none undisturbed.table idle.handover⟩
  | @taken service lock result acquires takes free =>
    have follows : result.Follows earlier := takes.follows.mpr (by rw [← keeps, free])
    refine ⟨plain.congr (by simp) (by simp), legal.snoc follows,
      keeps.append_some (fun lockId => ?_) takes.handover⟩
    rw [GuardStage.table_keep, Dictionary.find?_insert]
  | @freed service lock called held =>
    have follows : (LockReturn.release service lock (.ok ())).Follows earlier := by
      rw [keeps] at held
      exact held
    refine ⟨plain.congr (by simp) (by simp), legal.snoc follows,
      keeps.append_some (fun lockId => ?_) (handover?_release service lock)⟩
    rw [GuardStage.table_keep, Dictionary.find?_erase]
  | @refused service lock called free =>
    have follows :
        (LockReturn.release service lock (.error (.notHeld lock.id))).Follows earlier := by
      rw [keeps] at free
      exact free
    exact ⟨plain, legal.snoc follows, keeps.append_none rfl fun _ => rfl⟩
  | @bound service requestId called =>
    have follows : (LockReturn.bind service).Follows earlier :=
      (LockReturn.idle_bind service).follows earlier
    exact ⟨plain.congr (by simp) (by simp), legal.snoc follows,
      keeps.append_none (by simp) fun _ => rfl⟩

end Steps

/-- Lock calls that share a plain stage, as far as they have come. -/
structure Consistent (calls : List LockCall) (crew : Crew ν Step Reply LockReturn) : Prop where
  /-- The table is in memory and does not fail. -/
  plain : crew.stage.Plain
  /-- Each call has its place. -/
  length : crew.rest.length = calls.length
  /-- Each call is underway or has its result. -/
  underway : ∀ (place : Nat) (call : LockCall) (program : Guarded Step Reply LockReturn),
    calls[place]? = some call → crew.rest[place]? = some program →
      Underway call program ∨ ∃ result, program = .done result
  /-- Each result is one that its call could give after those before. -/
  legal : Legal crew.results
  /-- The table has the locks that are held by the results so far. -/
  keeps : Keeps crew.stage crew.results

section Runs

variable {calls : List LockCall} {crew : Crew ν Step Reply LockReturn} {place : Nat}
  {program : Guarded Step Reply LockReturn}

/-- A place has an operation exactly if it has a call. -/
theorem Consistent.called (consistent : Consistent calls crew)
    (waiting : crew.rest[place]? = some program) : ∃ call, calls[place]? = some call := by
  obtain ⟨within, -⟩ := List.getElem?_eq_some_iff.mp waiting
  rw [consistent.length] at within
  exact ⟨calls[place], List.getElem?_eq_getElem within⟩

/-- One step of one call keeps everything consistent. -/
theorem Consistent.work (consistent : Consistent calls crew)
    (run : Step → GuardStage ν → Reply × GuardStage ν)
    (waiting : crew.rest[place]? = some program) : Consistent calls (crew.work run place) := by
  obtain ⟨call, called⟩ := consistent.called waiting
  obtain underway | ⟨result, rfl⟩ := consistent.underway place call program called waiting
  · obtain ⟨step, later⟩ := lockStep_of_underway run underway consistent.plain
    obtain ⟨plain, legal, keeps⟩ := step.keeps consistent.plain consistent.legal consistent.keeps
    rw [Crew.work, Crew.workIn_of_some waiting]
    refine ⟨plain, by simpa using consistent.length, ?_, legal, keeps⟩
    intro other otherCall otherProgram otherCalled found
    by_cases same : place = other
    · subst same
      obtain rfl : call = otherCall := Option.some.inj (called.symm.trans otherCalled)
      obtain ⟨within, -⟩ := List.getElem?_eq_some_iff.mp waiting
      obtain rfl := Option.some.inj ((List.getElem?_set_self within).symm.trans found)
      exact later
    · have unchanged := (List.getElem?_set_ne same).symm.trans found
      exact consistent.underway other otherCall otherProgram otherCalled unchanged
  · rwa [Crew.work, Crew.workIn_of_done waiting]

/-- Lock calls on a plain stage without locks are consistent after every schedule. -/
theorem consistent_after (run : Step → GuardStage ν → Reply × GuardStage ν)
    {stage : GuardStage ν} (plain : stage.Plain)
    (empty : stage.table = Dictionary.empty) (calls : List LockCall) (schedule : List Turn) :
    Consistent calls ((Crew.start stage (calls.map fun call =>
      (call.program : Guarded Step Reply LockReturn))).after run schedule) := by
  refine Crew.afterIn_induction (Consistent calls) ?_ ?_ ?_ schedule
  · refine ⟨plain, by simp [Crew.start], ?_, .nil, fun lockId => ?_⟩
    · intro place call program called found
      simp only [Crew.start, List.getElem?_map, called, Option.map_some, Option.some.injEq] at found
      rw [← found]
      exact .inl (underway_program call)
    · simp only [Crew.start, empty, Dictionary.find?_empty, holding_nil]
  · exact fun crew place program consistent waiting => consistent.work run waiting
  · intro crew now consistent
    exact ⟨consistent.plain.congr rfl rfl, consistent.length, consistent.underway,
      consistent.legal, consistent.keeps⟩

/-- A step of an acquisition gives it its lock, or changes neither the table nor a count. -/
theorem Consistent.losing (consistent : Consistent calls crew)
    (run : Step → GuardStage ν → Reply × GuardStage ν) {call : LockCall}
    (called : calls[place]? = some call) (acquires : call.Acquires) :
    (∃ result service lock, (crew.work run place).results = crew.results ++ [result] ∧
        result.acquired? = some (service, lock)) ∨
      (crew.work run place).stage.table = crew.stage.table ∧
        (crew.work run place).stage.duties = crew.stage.duties := by
  cases waiting : crew.rest[place]? with
  | none =>
    rw [Crew.work, Crew.workIn_of_none waiting]
    exact .inr ⟨rfl, rfl⟩
  | some program =>
    obtain underway | ⟨result, rfl⟩ := consistent.underway place call program called waiting
    · obtain ⟨step, -⟩ := lockStep_of_underway run underway consistent.plain
      rw [Crew.work, Crew.workIn_of_some waiting]
      generalize Program.step (GuardStage.surroundings run) program crew.stage = next at step
      obtain ⟨left, after⟩ := next
      generalize given : Crew.ended program left = results at step
      cases step with
      | looked undisturbed => exact .inr ⟨undisturbed.table, undisturbed.duties⟩
      | idle undisturbed idle => exact .inr ⟨undisturbed.table, undisturbed.duties⟩
      | @taken service lock result _ takes free =>
        exact .inl ⟨result, service, lock, by simp only [given], takes.acquired⟩
      | freed released held =>
        rw [released] at acquires
        exact acquires.elim
      | refused released free =>
        rw [released] at acquires
        exact acquires.elim
      | bound bound =>
        rw [bound] at acquires
        exact acquires.elim
    · rw [Crew.work, Crew.workIn_of_done waiting]
      exact .inr ⟨rfl, rfl⟩

end Runs

/-- What is true of the locks of some calls, as far as these have come. -/
structure LocksExclude (run : Step → GuardStage ν → Reply × GuardStage ν) (calls : List LockCall)
    (crew : Crew ν Step Reply LockReturn) : Prop where
  /-- Acquisitions and releases of an id take turns, an acquisition first. -/
  alternating : ∀ lockId, Alternates (handovers lockId crew.results)
  /-- There is a row just after an acquisition, and it is the lock that the acquisition gave. -/
  rows : ∀ lockId, crew.stage.table.find? lockId = (handovers lockId crew.results).getLast?.join
  /-- A row is stored under its own id. -/
  keyed : ∀ lockId row, crew.stage.table.find? lockId = some row → row.id = lockId
  /-- A step of an acquisition that does not give it its lock changes no lock and no count. -/
  losing : ∀ (place : Nat) (call : LockCall), calls[place]? = some call → call.Acquires →
    (∃ result service lock, (crew.work run place).results = crew.results ++ [result] ∧
        result.acquired? = some (service, lock)) ∨
      (crew.work run place).stage.table = crew.stage.table ∧
        ∀ service, (crew.work run place).stage.lockCount service = crew.stage.lockCount service
  /-- If the services release only what they have acquired, at most one holds an id. -/
  exclusive : Orderly crew.results → ∀ lockId first second,
    Holds crew.results lockId first → Holds crew.results lockId second → first = second
  /-- If the services release only what they have acquired, no release fails. -/
  releasing : Orderly crew.results → ReleasesSucceed crew.results

/-- Locks exclude each other, whoever calls for them in whatever order. -/
theorem locks_exclude (run : Step → GuardStage ν → Reply × GuardStage ν) {stage : GuardStage ν}
    (plain : stage.Plain) (empty : stage.table = Dictionary.empty) (calls : List LockCall)
    (schedule : List Turn) :
    LocksExclude run calls ((Crew.start stage (calls.map fun call =>
      (call.program : Guarded Step Reply LockReturn))).after run schedule) := by
  have consistent := consistent_after run plain empty calls schedule
  constructor
  case alternating => exact consistent.legal.alternates
  case rows => exact consistent.keeps
  case keyed =>
    intro lockId row found
    rw [consistent.keeps] at found
    exact id_of_holding found
  case losing =>
    intro place call called acquires
    refine (consistent.losing run called acquires).imp_right fun same => ⟨same.1, fun service => ?_⟩
    exact GuardStage.lockCount_congr (by rw [same.2])
  case exclusive => exact fun orderly _ _ _ => consistent.legal.exclusive orderly
  case releasing => exact fun orderly => (consistent.legal.balance orderly).1

/-- Two services that want one lock: the first gets it, and releases it at last. -/
theorem locks_exclude_two :
    let first : LockService := ⟨"first", ⟨0⟩⟩
    let second : LockService := ⟨"second", ⟨0⟩⟩
    let key : LockKey := ⟨"sales", .dataset, none, none⟩
    let calls : List LockCall := [.acquire first key JsonObject.empty,
      .acquire second key JsonObject.empty,
      .release first (Lock.ofKey key "" JsonObject.empty GuardStage.bare.start)]
    let schedule : List Turn := [.work 0, .work 1, .work 0, .work 1, .work 0, .work 1, .work 1,
      .work 1, .work 2]
    GuardStage.bare.Plain ∧ GuardStage.bare.table = Dictionary.empty ∧
      LocksExclude (fun _ stage => ((), stage)) calls ((Crew.start GuardStage.bare
        (calls.map fun call => (call.program : Guarded Unit Unit LockReturn))).after
          (fun _ stage => ((), stage)) schedule) := by
  have plain : GuardStage.bare.Plain := .of_empty rfl rfl
  exact ⟨plain, rfl, locks_exclude _ plain rfl _ _⟩

end ControlPlane.Rehearsal
