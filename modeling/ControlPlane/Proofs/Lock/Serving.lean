import ControlPlane.Proofs.Lock.Changes
import ControlPlane.Proofs.Rehearsal.Crew

/-!
# Calls of lock services against any answers

A call of a lock service looks around and reports. It changes the count of its service at most once,
and only right after a lock has been created or deleted for it, or when the service gets a request.
That step ends the call, and the result says what the change was (`Serving.step`). So whatever the
requests are answered, and in whatever order several calls make theirs, what is to be known of the
stage can be proved of four kinds of steps (`serviceStep_induction`).

A call is not made before its first turn, so any calls that depend on the results of earlier ones are
among those of some list and some schedule. What is done under a lock is an acquisition, other calls
and a release. A call that is given up has no more turns.
-/
namespace ControlPlane

open Rehearsal

/-- A call of a lock service, whatever it is for. -/
inductive ServiceCall where
  /-- A call that is about one lock. -/
  | lock (call : LockCall)
  /-- Whether there is a lock of an id. -/
  | lockExists (lockId : String)
  /-- The locks that are too old. -/
  | staleLocks (service : LockService)
  /-- The end of a request. -/
  | finish (service : LockService)

/-- What a call of a lock service gives. -/
inductive ServiceReturn where
  | lock (result : LockReturn)
  | lockExists (lockId : String) (result : Except LockTableError Bool)
  | staleLocks (service : LockService) (result : Except LockError (List Lock))
  | finish (service : LockService) (count : Int)

/-- The service that a lock call is made to. -/
def LockCall.service : LockCall → LockService
  | tryAcquire service .. | acquire service .. | release service _ | bind service _ => service

/-- Do what is called for. -/
def ServiceCall.program {Step Reply : Type} : ServiceCall → Guarded Step Reply ServiceReturn
  | lock call => do return .lock (← call.program)
  | lockExists lockId => do return .lockExists lockId (← LockService.lockExists lockId)
  | staleLocks service => do return .staleLocks service (← service.staleLocks)
  | finish service => do return .finish service (← service.finish)

/-- What a call has done to the count of its service. -/
def ServiceReturn.change? : ServiceReturn → Option LockChange
  | lock result => result.change?
  | lockExists .. | staleLocks .. | finish .. => none

/-- The changes that some calls have made, in their order. -/
def changes (history : List ServiceReturn) : List LockChange :=
  history.filterMap ServiceReturn.change?

/-- The changes of two series of calls come one after another. -/
theorem changes_append (earlier later : List ServiceReturn) :
    changes (earlier ++ later) = changes earlier ++ changes later := List.filterMap_append

/-- A request that only looks around, in the table or at a service. -/
def GuardRequest.Observes {Step : Type} : GuardRequest Step → Prop
  | .get _ | .list | .clock | .requestId _ | .lockCount _ => True
  | _ => False

variable {ν Step Reply α : Type}

/-- What looks around for an acquisition looks around. -/
theorem GuardRequest.Looks.observes {request : GuardRequest Step} (looks : request.Looks) :
    request.Observes := by
  cases request with
  | get lockId => trivial
  | clock => trivial
  | requestId service => trivial
  | _ => exact looks.elim

/-- A program that looks around and reports until it ends without a change, or ends with the change
that it has just made. -/
inductive Serving (may : LockChange → Prop) : Guarded Step Reply ServiceReturn → Prop where
  /-- The call ends without a change. -/
  | idle {result : ServiceReturn} (unchanged : result.change? = none) : Serving may (.done result)
  /-- It reports something. -/
  | report (event : Event) {rest : Guarded Step Reply ServiceReturn} (later : Serving may rest) :
      Serving may (.leave (.event event) rest)
  /-- It looks around, and goes on whatever it finds. -/
  | look {request : GuardRequest Step}
      {next : request.Answer Reply → Guarded Step Reply ServiceReturn}
      (observes : request.Observes) (later : ∀ answer, Serving may (next answer)) :
      Serving may (.ask request next)
  /-- It creates a lock; after a success it counts it and ends, after a failure it goes on. -/
  | create {lock : Lock} {service : String} {result : ServiceReturn}
      {next : Except LockTableError Unit → Guarded Step Reply ServiceReturn}
      (own : may (.acquired service lock.id))
      (created : next (.ok ()) = .leave (.acquired service) (.done result))
      (changed : result.change? = some (.acquired service lock.id))
      (later : ∀ error, Serving may (next (.error error))) : Serving may (.ask (.create lock) next)
  /-- It deletes a lock; after a success it counts that and ends, after a failure it goes on. -/
  | delete {lockId service : String} {result : ServiceReturn}
      {next : Except LockTableError Unit → Guarded Step Reply ServiceReturn}
      (own : may (.released service lockId))
      (deleted : next (.ok ()) = .leave (.released service) (.done result))
      (changed : result.change? = some (.released service lockId))
      (later : ∀ error, Serving may (next (.error error))) : Serving may (.ask (.delete lockId) next)

/-- What is left of a call: it is under way, or it is about to give its service a request, or it has
ended. -/
inductive Remaining (may : LockChange → Prop) : Guarded Step Reply ServiceReturn → Prop where
  /-- The call is under way. -/
  | serving {program : Guarded Step Reply ServiceReturn} (serving : Serving may program) :
      Remaining may program
  /-- It is about to give its service a request. -/
  | binding {service requestId : String} {result : ServiceReturn} (own : may (.bound service))
      (changed : result.change? = some (.bound service)) :
      Remaining may (.leave (.bound service requestId) (.done result))
  /-- It has ended. -/
  | ended (result : ServiceReturn) : Remaining may (.done result)

section Calls

variable {may : LockChange → Prop}

/-- An acquisition under way is a call under way. -/
theorem LockService.Attempting.serving {front : Guarded Step Reply α}
    {won : Lock → Guarded Step Reply α → Prop} {lost : α → Prop}
    (attempting : LockService.Attempting won lost front) (give : α → ServiceReturn)
    (taken : ∀ lock rest, won lock rest → ∃ service value, may (.acquired service lock.id) ∧
      rest = .leave (.acquired service) (.done value) ∧
        (give value).change? = some (.acquired service lock.id))
    (given : ∀ value, lost value → (give value).change? = none) :
    Serving may (front >>= fun value => Program.done (give value)) := by
  induction attempting with
  | lost lost => exact .idle (given _ lost)
  | report event _ ih => exact .report event ih
  | look looks _ ih => exact .look looks.observes ih
  | create made _ ih =>
    obtain ⟨service, value, own, created, changed⟩ := taken _ _ made
    exact .create own (congrArg (· >>= fun value => Program.done (give value)) created) changed ih

/-- Looking at the clock for each of some locks goes on with those that are stale. -/
theorem serving_keepStale (service : LockService)
    {next : List Lock → Guarded Step Reply ServiceReturn}
    (later : ∀ stale, Serving may (next stale)) (locks : List Lock) :
    Serving may (service.keepStale locks >>= next) := by
  induction locks generalizing next with
  | nil => exact later []
  | cons lock rest ih =>
    refine .look trivial fun now => ?_
    change Serving may ((service.keepStale rest >>= fun stale => _) >>= next)
    rw [Program.bind_assoc]
    exact ih fun stale => later _

/-- A call that takes or releases a lock, or gives its service a request, changes nothing but the
count of that service. -/
theorem remaining_lock (call : LockCall)
    (own : ∀ change : LockChange, change.service = call.service.name → may change) :
    Remaining may ((ServiceCall.lock call).program : Guarded Step Reply ServiceReturn) := by
  cases call with
  | tryAcquire service key data =>
    change Remaining may ((service.tryAcquire key data >>= fun result =>
      Program.done (.tryAcquire service result)) >>= fun result => Program.done (.lock result))
    rw [Program.bind_assoc]
    refine .serving (LockService.Attempting.serving (LockService.attempting_tryAcquire
      (fun lock rest => rest = .leave (.acquired service.name) (.done (.ok (.acquired lock))))
      (fun result => ∀ lock, result ≠ .ok (.acquired lock)) (fun _ _ => rfl) fun _ other => other)
      (fun result => .lock (.tryAcquire service result)) ?_ ?_)
    · rintro lock rest rfl
      exact ⟨service.name, .ok (.acquired lock), own _ rfl, rfl, rfl⟩
    · intro result other
      cases result with
      | error error => rfl
      | ok outcome =>
        cases outcome with
        | acquired lock => exact absurd rfl (other lock)
        | conflict conflict => rfl
  | acquire service key data =>
    change Remaining may ((service.acquire key data >>= fun result =>
      Program.done (.acquire service result)) >>= fun result => Program.done (.lock result))
    rw [Program.bind_assoc]
    refine .serving (LockService.attempting_acquire.serving
      (fun result => .lock (.acquire service result)) ?_ ?_)
    · rintro lock rest ⟨-, rfl⟩
      exact ⟨service.name, .ok lock, own _ rfl, rfl, rfl⟩
    · rintro result ⟨error, rfl⟩
      rfl
  | release service lock =>
    change Remaining may ((service.release lock >>= fun result =>
      Program.done (.release service lock result)) >>= fun result => Program.done (.lock result))
    rw [Program.bind_assoc, LockService.release_bind]
    refine .serving (.delete (own _ rfl) rfl rfl fun error => ?_)
    obtain ⟨failure, failed⟩ := LockService.exists_releaseResult_error error
    refine .idle ?_
    rw [failed]
    rfl
  | bind service requestId => exact .binding (own _ rfl) rfl

/-- Calls for anything else change no count. -/
theorem remaining_program (call : ServiceCall)
    (own : ∀ lockCall, call = .lock lockCall → ∀ change : LockChange,
      change.service = lockCall.service.name → may change) :
    Remaining may (call.program : Guarded Step Reply ServiceReturn) := by
  cases call with
  | lock call => exact remaining_lock call (own call rfl)
  | lockExists lockId =>
    refine .serving (.look trivial fun answer => ?_)
    cases answer with
    | ok lock => exact .idle rfl
    | error error => cases error <;> exact .idle rfl
  | staleLocks service =>
    refine .serving (.look trivial fun answer => ?_)
    cases answer with
    | error error => exact .idle rfl
    | ok locks =>
      change Serving may ((service.keepStale locks >>= fun stale => Program.done (.ok stale)) >>=
        fun result => Program.done (.staleLocks service result))
      rw [Program.bind_assoc]
      exact serving_keepStale service (fun stale => .idle rfl) locks
  | finish service =>
    refine .serving (.look trivial fun count => .look trivial fun requestId => ?_)
    change Serving may ((if (count : Int) ≠ 0 then _ else _) >>= _)
    by_cases left : (count : Int) ≠ 0
    · rw [if_pos left]
      exact .report _ (.idle rfl)
    · rw [if_neg left]
      exact .idle rfl

end Calls

section Steps

variable {surroundings : Surroundings (guardInterface Step Reply) (GuardStage ν)}
  {may : LockChange → Prop} {kept : GuardStage ν → GuardStage ν → Prop}
  {program : Guarded Step Reply ServiceReturn}

/-- Looking around and reporting keep to a relation between stages, and so do the creations and
deletions that fail. -/
structure Harmless (surroundings : Surroundings (guardInterface Step Reply) (GuardStage ν))
    (kept : GuardStage ν → GuardStage ν → Prop) : Prop where
  /-- Doing nothing keeps to the relation. -/
  refl : ∀ stage, kept stage stage
  /-- What keeps to the relation twice keeps to it. -/
  trans : ∀ {first second third}, kept first second → kept second third → kept first third
  /-- A report keeps to the relation. -/
  reported : ∀ event stage, kept stage (surroundings.keep (.event event) stage)
  /-- Looking around keeps to the relation. -/
  observed : ∀ {request : GuardRequest Step}, request.Observes → ∀ stage,
    kept stage (surroundings.answer request stage).2
  /-- A creation that fails keeps to the relation. -/
  uncreated : ∀ {lock error stage after},
    surroundings.answer (.create lock) stage = (.error error, after) → kept stage after
  /-- A deletion that fails keeps to the relation. -/
  undeleted : ∀ {lockId error stage after},
    surroundings.answer (.delete lockId) stage = (.error error, after) → kept stage after

/-- What a step of a call does to the stage, and the changes that it makes to counts. -/
inductive ServiceStep (surroundings : Surroundings (guardInterface Step Reply) (GuardStage ν))
    (may : LockChange → Prop) (kept : GuardStage ν → GuardStage ν → Prop) (before : GuardStage ν) :
    GuardStage ν → List LockChange → Prop where
  /-- Nothing changes but what is kept to. -/
  | quiet {after : GuardStage ν} (same : kept before after) :
      ServiceStep surroundings may kept before after []
  /-- A lock is created and counted. -/
  | acquired {lock : Lock} {service : String} {middle : GuardStage ν}
      (own : may (.acquired service lock.id))
      (created : surroundings.answer (.create lock) before = (.ok (), middle)) :
      ServiceStep surroundings may kept before (surroundings.keep (.acquired service) middle)
        [.acquired service lock.id]
  /-- A lock is deleted and not counted any more. -/
  | released {lockId service : String} {middle : GuardStage ν} (own : may (.released service lockId))
      (deleted : surroundings.answer (.delete lockId) before = (.ok (), middle)) :
      ServiceStep surroundings may kept before (surroundings.keep (.released service) middle)
        [.released service lockId]
  /-- A service gets a request, and counts from zero. -/
  | bound {service requestId : String} (own : may (.bound service)) :
      ServiceStep surroundings may kept before (surroundings.keep (.bound service requestId) before)
        [.bound service]

/-- The reports of a call are harmless. -/
theorem Serving.settle (serving : Serving may program) (harmless : Harmless surroundings kept)
    (stage : GuardStage ν) : Serving may (program.settle surroundings stage).1 ∧
      kept stage (program.settle surroundings stage).2 := by
  induction serving generalizing stage with
  | idle unchanged => exact ⟨.idle unchanged, harmless.refl stage⟩
  | report event _ ih =>
    obtain ⟨serving, same⟩ := ih (surroundings.keep (.event event) stage)
    exact ⟨serving, harmless.trans (harmless.reported event stage) same⟩
  | look observes later _ => exact ⟨.look observes later, harmless.refl stage⟩
  | create own created changed later _ =>
    exact ⟨.create own created changed later, harmless.refl stage⟩
  | delete own deleted changed later _ =>
    exact ⟨.delete own deleted changed later, harmless.refl stage⟩

/-- A call that ends while it looks around has changed nothing. -/
theorem Serving.changes_ended {left : Guarded Step Reply ServiceReturn}
    (serving : Serving may left) (program : Guarded Step Reply ServiceReturn) :
    changes (Crew.ended program left) = [] := by
  unfold Crew.ended
  split
  · rfl
  · cases serving with
    | idle unchanged => simp [changes, unchanged]
  · rfl

/-- What a call goes on with after a harmless step. -/
theorem Serving.quiet {rest : Guarded Step Reply ServiceReturn} {stage middle : GuardStage ν}
    (serving : Serving may rest) (harmless : Harmless surroundings kept) (same : kept stage middle)
    (program : Guarded Step Reply ServiceReturn) :
    let after := rest.settle surroundings middle
    ServiceStep surroundings may kept stage after.2 (changes (Crew.ended program after.1)) ∧
      Remaining may after.1 := by
  intro after
  obtain ⟨later, still⟩ := serving.settle harmless middle
  rw [later.changes_ended program]
  exact ⟨.quiet (harmless.trans same still), .serving later⟩

/-- What a call has done that ends with a mark, and says what has changed. -/
theorem ServiceStep.ending {stage middle : GuardStage ν} {mark : GuardMark} {result : ServiceReturn}
    {change : LockChange}
    (step : ServiceStep surroundings may kept stage (surroundings.keep mark middle) [change])
    (changed : result.change? = some change)
    (working : Crew.ended program (.done result) = [result]) :
    let after := Program.settle surroundings (.leave mark (.done result)) middle
    ServiceStep surroundings may kept stage after.2 (changes (Crew.ended program after.1)) ∧
      Remaining may after.1 := by
  intro after
  refine ⟨?_, .ended result⟩
  have said : changes (Crew.ended program after.1) = [change] := by
    change changes (Crew.ended program (.done result)) = [change]
    rw [working]
    exact List.filterMap_cons_some changed
  rwa [said]

/-- A step gets the answer to a request, and goes on with it. -/
theorem step_answered {request : GuardRequest Step} {answer : request.Answer Reply}
    {next : request.Answer Reply → Guarded Step Reply ServiceReturn} {stage middle : GuardStage ν}
    (answered : surroundings.answer request stage = (answer, middle)) :
    Program.step surroundings (.ask request next) stage =
      (next answer).settle surroundings middle := by
  simp only [Program.step, answered]

/-- A step of a call that is under way looks around or fails, and then nothing is changed; or it
ends the call with a change. -/
theorem Serving.step (serving : Serving may program) (harmless : Harmless surroundings kept)
    (stage : GuardStage ν) :
    let after := program.step surroundings stage
    ServiceStep surroundings may kept stage after.2 (changes (Crew.ended program after.1)) ∧
      Remaining may after.1 := by
  intro after
  cases serving with
  | idle unchanged =>
    exact (Serving.idle unchanged).quiet harmless (harmless.refl stage) _
  | report event later =>
    exact (Serving.report event later).quiet harmless (harmless.refl stage) _
  | @look request next observes later =>
    exact (later _).quiet harmless (harmless.observed observes stage) _
  | @create lock service result next own created changed later =>
    rcases answered : surroundings.answer (.create lock) stage with ⟨answer, middle⟩
    simp only [after, step_answered answered]
    cases answer with
    | error error => exact (later error).quiet harmless (harmless.uncreated answered) _
    | ok done =>
      rw [created]
      exact (ServiceStep.acquired own answered).ending changed rfl
  | @delete lockId service result next own deleted changed later =>
    rcases answered : surroundings.answer (.delete lockId) stage with ⟨answer, middle⟩
    simp only [after, step_answered answered]
    cases answer with
    | error error => exact (later error).quiet harmless (harmless.undeleted answered) _
    | ok done =>
      rw [deleted]
      exact (ServiceStep.released own answered).ending changed rfl

/-- A step of what is left of a call. -/
theorem Remaining.step (remaining : Remaining may program) (harmless : Harmless surroundings kept)
    (stage : GuardStage ν) :
    let after := program.step surroundings stage
    ServiceStep surroundings may kept stage after.2 (changes (Crew.ended program after.1)) ∧
      Remaining may after.1 := by
  cases remaining with
  | serving serving => exact serving.step harmless stage
  | binding own changed => exact (ServiceStep.bound own).ending changed rfl
  | ended result => exact ⟨.quiet (harmless.refl stage), .ended result⟩

end Steps

section Runs

variable {surroundings : Surroundings (guardInterface Step Reply) (GuardStage ν)}
  {may : LockChange → Prop} {kept : GuardStage ν → GuardStage ν → Prop}
  {crew : Crew ν Step Reply ServiceReturn} {place : Nat}

/-- The calls of a crew may make some changes only. -/
def AllRemain (may : LockChange → Prop) (crew : Crew ν Step Reply ServiceReturn) : Prop :=
  ∀ program ∈ crew.rest, Remaining may program

/-- A turn of a call is a step of it. -/
theorem AllRemain.work (remain : AllRemain may crew) (harmless : Harmless surroundings kept)
    {program : Guarded Step Reply ServiceReturn} (waiting : crew.rest[place]? = some program) :
    ∃ given, (crew.workIn surroundings place).results = crew.results ++ given ∧
      ServiceStep surroundings may kept crew.stage (crew.workIn surroundings place).stage
        (changes given) ∧ AllRemain may (crew.workIn surroundings place) := by
  have member : program ∈ crew.rest := List.mem_of_getElem? waiting
  obtain ⟨step, left⟩ := (remain program member).step harmless crew.stage
  rw [Crew.workIn_of_some waiting]
  refine ⟨_, rfl, step, fun other found => ?_⟩
  rcases List.mem_or_eq_of_mem_set found with before | rfl
  · exact remain other before
  · exact left

/-- What holds of the stage and the changes at the start, and is kept by each kind of step and by
each new time, holds after any schedule. -/
theorem serviceStep_induction (harmless : Harmless surroundings kept)
    (holds : GuardStage ν → List LockChange → Prop) {stage : GuardStage ν}
    (calls : List ServiceCall) (initial : holds stage [])
    (own : ∀ call, .lock call ∈ calls → ∀ change : LockChange,
      change.service = call.service.name → may change)
    (step : ∀ {before after history given}, holds before history →
      ServiceStep surroundings may kept before after given → holds after (history ++ given))
    (clock : ∀ {stage history} now, holds stage history → holds (stage.atTime now) history)
    (schedule : List Turn) :
    let crew := (Crew.start stage (calls.map fun call =>
      (call.program : Guarded Step Reply ServiceReturn))).afterIn surroundings schedule
    AllRemain may crew ∧ holds crew.stage (changes crew.results) := by
  refine Crew.afterIn_induction
    (fun crew => AllRemain may crew ∧ holds crew.stage (changes crew.results)) ⟨?_, initial⟩ ?_ ?_
    schedule
  · intro program member
    obtain ⟨call, called, rfl⟩ := List.mem_map.mp member
    refine remaining_program call fun lockCall same => own lockCall ?_
    rwa [← same]
  · rintro crew place program ⟨remain, held⟩ waiting
    obtain ⟨given, results, stepped, still⟩ := remain.work harmless waiting
    rw [results, changes_append]
    exact ⟨still, step held stepped⟩
  · rintro crew now ⟨remain, held⟩
    exact ⟨remain, clock now held⟩

end Runs

end ControlPlane
