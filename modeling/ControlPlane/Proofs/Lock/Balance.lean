import ControlPlane.Proofs.Lock.Bracket
import ControlPlane.Proofs.Lock.Release

/-!
# Nested locks

Programs that hold locks one within another, and one after another, leave a table in memory and the
counts of the services as they were, wherever they fail (`run_program`). The induction is on the
program. A block whose lock is free has the table of its inside changed by that lock alone, and the
inside gives the same table back, so the release finds the lock and undoes its creation. A block
whose lock is held, by others or by a block around it, is not entered: its acquisition changes
nothing but the clock and the reports, and in particular it does not release the lock of the block
around it.
-/
namespace ControlPlane.Rehearsal

variable {ν Step Reply α ε : Type}

/-- Two stages have the same locks, and the services the same duties. -/
structure SameLocks (before after : GuardStage ν) : Prop extends before.SameStores after where
  /-- The services have the same duties. -/
  duties : ∀ service, after.duties.find? service = before.duties.find? service

section Stage

variable {run : Step → GuardStage ν → Reply × GuardStage ν} {stage : GuardStage ν}
  {service : LockService} {key : LockKey} {data : JsonObject} {holder : Lock}

/-- A stage has the same locks as itself. -/
theorem SameLocks.refl (stage : GuardStage ν) : SameLocks stage stage :=
  ⟨GuardStage.SameStores.refl stage, fun _ => rfl⟩

/-- What is the same as before twice is the same as at first. -/
theorem SameLocks.trans {first second third : GuardStage ν} (before : SameLocks first second)
    (after : SameLocks second third) : SameLocks first third :=
  ⟨before.toSameStores.trans after.toSameStores, fun service =>
    (after.duties service).trans (before.duties service)⟩

/-- What changes nothing but the clock and the reports leaves the locks as they are. -/
theorem GuardStage.Undisturbed.sameLocks {before after : GuardStage ν}
    (undisturbed : before.Undisturbed after) : SameLocks before after :=
  ⟨undisturbed.toSameStores, fun service =>
    congrArg (Dictionary.find? · service) undisturbed.duties⟩

/-- A request is answered by the stage, and the run goes on with the answer. -/
theorem run_ask {request : GuardRequest Step} {next : request.Answer Reply → Guarded Step Reply α}
    {answer : request.Answer Reply} {after : GuardStage ν}
    (answered : GuardStage.answer run request stage = (answer, after)) :
    Program.run (GuardStage.surroundings run) (.ask request next) stage =
      (next answer).run (GuardStage.surroundings run) after :=
  Program.run_ask answered

/-- The stage after a lock of a key has been taken. -/
def taken (service : LockService) (lock : Lock) (stage : GuardStage ν) : GuardStage ν :=
  GuardStage.keep (.acquired service.name)
    { stage with looks := stage.looks + 1, table := stage.table.insert lock.id lock }

/-- A lock that is taken has a row in the table. -/
theorem table_taken (service : LockService) (lock : Lock) (stage : GuardStage ν) :
    (taken service lock stage).table = stage.table.insert lock.id lock :=
  GuardStage.table_keep _ _

/-- Taking a lock leaves the table in memory and without failures. -/
theorem plain_taken (plain : stage.Plain) {lock : Lock} : (taken service lock stage).Plain :=
  plain.congr (GuardStage.remote_keep _ _) (GuardStage.faults_keep _ _)

/-- A lock whose id is free is taken. -/
theorem run_acquire_free (run : Step → GuardStage ν → Reply × GuardStage ν)
    (service : LockService) (plain : stage.Plain) (free : stage.table.find? key.id = none) :
    ∃ lock : Lock, lock.id = key.id ∧
      (service.acquire key data).run (GuardStage.surroundings run) stage =
        (.ok lock, taken service lock stage) := by
  let lock := Lock.ofKey key (stage.requestId service.name) data stage.now
  refine ⟨lock, rfl, ?_⟩
  have created : GuardStage.answer run (.create lock) { stage with looks := stage.looks + 1 } =
      (.ok (), { stage with
        looks := stage.looks + 1, table := stage.table.insert lock.id lock }) := by
    have later : ({ stage with looks := stage.looks + 1 } : GuardStage ν).Plain :=
      plain.congr rfl rfl
    rw [later.answer_create, LockTable.create_of_find?_none free]
  have tried : (service.tryAcquire key data).run (GuardStage.surroundings run) stage =
      (.ok (.acquired lock), taken service lock stage) := by
    refine (Program.run_ask rfl).trans ((Program.run_ask rfl).trans ?_)
    exact run_ask created
  refine (Program.run_bind _ (service.tryAcquire key data) _ stage).trans ?_
  rw [tried]
  rfl

/-- Looking at the lock in the way gives a conflict that names it. -/
theorem run_inspect_held (run : Step → GuardStage ν → Reply × GuardStage ν)
    (service : LockService) (plain : stage.Plain) {attempted : Lock}
    (held : stage.table.find? attempted.id = some holder) :
    ∃ stale after, stage.Undisturbed after ∧
      (service.inspect attempted).run (GuardStage.surroundings run) stage =
        (.ok (.conflict ⟨attempted, some holder, stale⟩), after) := by
  let looked : GuardStage ν := { stage with looks := stage.looks + 1 }
  have found : GuardStage.answer run (.get attempted.id) stage = (.ok holder, stage) := by
    rw [plain.answer_get, LockTable.get, held]
  have inspected : (service.inspect attempted).run (GuardStage.surroundings run) stage =
      Program.run (GuardStage.surroundings run)
        (if holder.isStale service.staleAfter stage.now then
          Guarded.report (LockService.staleReport holder) >>= fun _ =>
            pure (.ok (.conflict ⟨attempted, some holder, true⟩))
        else pure (.ok (.conflict ⟨attempted, some holder, false⟩))) looked :=
    (run_ask found).trans (run_ask rfl)
  have undisturbed : stage.Undisturbed looked := ⟨⟨rfl, rfl, rfl, rfl⟩, rfl⟩
  rw [inspected]
  by_cases stale : holder.isStale service.staleAfter stage.now
  · rw [if_pos stale]
    exact ⟨true, _, undisturbed.trans (GuardStage.undisturbed_report _ looked), rfl⟩
  · rw [if_neg stale]
    exact ⟨false, looked, undisturbed, rfl⟩

/-- A lock whose id is taken stays with its holder, whom the conflict names. -/
theorem run_acquire_held (run : Step → GuardStage ν → Reply × GuardStage ν)
    (service : LockService) (plain : stage.Plain) (held : stage.table.find? key.id = some holder) :
    ∃ conflict after, conflict.attempted.id = key.id ∧ conflict.holder = some holder ∧
      stage.Undisturbed after ∧
        (service.acquire key data).run (GuardStage.surroundings run) stage =
          (.error (.locked conflict), after) := by
  let lock := Lock.ofKey key (stage.requestId service.name) data stage.now
  let looked : GuardStage ν := { stage with looks := stage.looks + 1 }
  let warned : GuardStage ν := GuardStage.keep (.event (LockService.raceWarning lock)) looked
  have later : looked.Plain := plain.congr rfl rfl
  have refused : GuardStage.answer run (.create lock) looked =
      (.error (.alreadyExists lock.id), looked) := by
    rw [later.answer_create, LockTable.create_of_find?_some held]
  have plainWarned : warned.Plain := plain.congr rfl rfl
  have blocked : warned.table.find? lock.id = some holder := held
  obtain ⟨stale, after, undisturbed, inspected⟩ := run_inspect_held run service plainWarned blocked
  have tried : (service.tryAcquire key data).run (GuardStage.surroundings run) stage =
      (.ok (.conflict ⟨lock, some holder, stale⟩), after) := by
    refine (Program.run_ask rfl).trans ((Program.run_ask rfl).trans ?_)
    exact (run_ask refused).trans inspected
  refine ⟨⟨lock, some holder, stale⟩, after, rfl, rfl, ?_, ?_⟩
  · have beforehand : stage.Undisturbed warned := ⟨⟨rfl, rfl, rfl, rfl⟩, rfl⟩
    exact beforehand.trans undisturbed
  · refine (Program.run_bind _ (service.tryAcquire key data) _ stage).trans ?_
    rw [tried]
    rfl

end Stage

/-- Programs of bodies under locks, one after another and one within the other. What comes after a
program may depend on its result, so it can stop after an error, or go on. -/
inductive Blocks (α ε : Type) where
  /-- End with a value, or fail. -/
  | give (result : Except ε α)
  /-- Run a program while a lock is held. -/
  | hold (service : LockService) (key : LockKey) (inside : Blocks α ε)
  /-- Run a program, and then one that depends on its result. -/
  | andThen (first : Blocks α ε) (next : Except ε α → Blocks α ε)

namespace Blocks

/-- What a program of blocks does. -/
def program (lift : LockError → ε) : Blocks α ε → Guarded Step Reply (Except ε α)
  | give result => pure result
  | hold service key inside => service.withLock key lift (program lift inside)
  | andThen first next => program lift first >>= fun result => program lift (next result)

/-- What a program of blocks comes to if a table holds the locks of others. -/
inductive Yields (lift : LockError → ε) : LockTable → Blocks α ε → Except ε α → Prop where
  /-- A result is given as it is. -/
  | give {table : LockTable} (result : Except ε α) : Yields lift table (.give result) result
  /-- A lock whose id is free is held within the block, and the result is that of the block. -/
  | free {table : LockTable} {service : LockService} {key : LockKey} {inside : Blocks α ε}
      {result : Except ε α} {lock : Lock} (own : lock.id = key.id)
      (absent : table.find? key.id = none)
      (within : Yields lift (table.insert key.id lock) inside result) :
      Yields lift table (.hold service key inside) result
  /-- A block whose lock is held already, be it by a block around it, is not entered. -/
  | locked {table : LockTable} {service : LockService} {key : LockKey} {inside : Blocks α ε}
      {conflict : LockConflict} {holder : Lock} (attempted : conflict.attempted.id = key.id)
      (present : table.find? key.id = some holder) (named : conflict.holder = some holder) :
      Yields lift table (.hold service key inside) (.error (lift (.locked conflict)))
  /-- The result is that of the program that comes after the first one. -/
  | andThen {table : LockTable} {first : Blocks α ε} {next : Except ε α → Blocks α ε}
      {between result : Except ε α} (before : Yields lift table first between)
      (after : Yields lift table (next between) result) :
      Yields lift table (.andThen first next) result

section Run

variable {run : Step → GuardStage ν → Reply × GuardStage ν} {lift : LockError → ε}
  {stage left : GuardStage ν} {service : LockService} {lock : Lock}

/-- Releasing a lock undoes taking it, if the locks were left alone in between. -/
theorem sameLocks_released (free : stage.table.find? lock.id = none)
    (same : SameLocks (taken service lock stage) left) :
    SameLocks stage (GuardStage.keep (.released service.name)
      { left with table := left.table.erase lock.id }) := by
  have table : left.table = stage.table.insert lock.id lock := by
    rw [same.table, taken, GuardStage.table_keep]
  refine ⟨⟨?_, ?_, ?_, ?_⟩, fun name => ?_⟩
  · rw [GuardStage.table_keep]
    simp only [table, Dictionary.erase_insert free]
  · rw [GuardStage.remote_keep]
    exact same.remote.trans (GuardStage.remote_keep _ _)
  · rw [GuardStage.faults_keep]
    exact same.faults.trans (GuardStage.faults_keep _ _)
  · rw [GuardStage.shelves_keep]
    exact same.shelves.trans (GuardStage.shelves_keep _ _)
  · have counted : left.duties.find? name = if service.name = name
        then (stage.duties.find? name).map fun duty => { duty with count := duty.count + 1 }
        else stage.duties.find? name :=
      (same.duties name).trans (GuardStage.duties_changeDuty _ _ _ _)
    refine (GuardStage.duties_changeDuty _ _ _ _).trans ?_
    simp only [counted]
    split
    · simp [Option.map_map, Function.comp_def]
    · rfl

/-- A lock that is in the table is released at the end. -/
theorem run_conclude_held (run : Step → GuardStage ν → Reply × GuardStage ν)
    (service : LockService) (lift : LockError → ε) (outcome : Except ε α) (plain : left.Plain)
    {holder : Lock} (held : left.table.find? lock.id = some holder) :
    (service.conclude lock lift outcome).run (GuardStage.surroundings run) left =
      (outcome, GuardStage.keep (.released service.name)
        { left with table := left.table.erase lock.id }) := by
  have deleted : GuardStage.answer run (.delete lock.id) left =
      (.ok (), { left with table := left.table.erase lock.id }) := by
    rw [plain.answer_delete, LockTable.delete_of_find?_some held]
  have answered : (GuardStage.surroundings run).answer (.delete lock.id) left = _ := deleted
  obtain ⟨ran, -⟩ := LockService.run_conclude service lift outcome answered
  rwa [LockService.concluded_ok, LockService.closing_ok] at ran

/-- A program of blocks leaves the locks and the counts as they were. -/
theorem run_program (run : Step → GuardStage ν → Reply × GuardStage ν) (lift : LockError → ε)
    (blocks : Blocks α ε) (plain : stage.Plain) :
    ∃ result after, (blocks.program lift).run (GuardStage.surroundings run) stage =
        (result, after) ∧ SameLocks stage after ∧ Yields lift stage.table blocks result := by
  induction blocks generalizing stage with
  | give result => exact ⟨result, stage, rfl, .refl stage, .give result⟩
  | hold service key inside ih =>
    cases found : stage.table.find? key.id with
    | some holder =>
      obtain ⟨conflict, after, attempted, named, undisturbed, refused⟩ :=
        run_acquire_held run service plain found
      obtain ⟨blocked, -⟩ := LockService.run_withLock_refused lift (inside.program lift) refused
      exact ⟨_, after, blocked, undisturbed.sameLocks, .locked attempted found named⟩
    | none =>
      obtain ⟨lock, own, acquired⟩ := run_acquire_free run service plain found
      obtain ⟨result, left, worked, same, yields⟩ := ih (plain_taken plain)
      have table : left.table = stage.table.insert lock.id lock :=
        same.table.trans (table_taken service lock stage)
      have held : left.table.find? lock.id = some lock := by
        rw [table, Dictionary.find?_insert, if_pos rfl]
      have released := run_conclude_held run service lift result
        (same.toSameStores.plain (plain_taken plain)) held
      obtain ⟨ran, -⟩ := LockService.run_withLock_held lift acquired worked
      rw [table_taken, own] at yields
      have free : stage.table.find? lock.id = none := by rwa [own]
      exact ⟨result, _, ran.trans released, sameLocks_released free same, .free own found yields⟩
  | andThen first next ihFirst ihNext =>
    obtain ⟨between, middle, ran, same, yields⟩ := ihFirst plain
    obtain ⟨result, after, ranNext, sameNext, yieldsNext⟩ :=
      ihNext between (same.toSameStores.plain plain)
    rw [same.table] at yieldsNext
    refine ⟨result, after, ?_, same.trans sameNext, .andThen yields yieldsNext⟩
    refine (Program.run_bind _ (first.program lift) _ stage).trans ?_
    rw [ran]
    exact ranNext

end Run

/-- Within a block, a block of the same key is not entered, and its conflict names the lock of the
block around it. -/
theorem yields_nested {lift : LockError → ε} {table : LockTable} {service other : LockService}
    {key : LockKey} {inside : Blocks α ε} {result : Except ε α}
    (free : table.find? key.id = none)
    (yields : Yields lift table (.hold service key (.hold other key inside)) result) :
    ∃ conflict holder, result = .error (lift (.locked conflict)) ∧ holder.id = key.id ∧
      conflict.attempted.id = key.id ∧ conflict.holder = some holder := by
  cases yields with
  | locked _ present =>
    rw [free] at present
    cases present
  | @free _ _ _ _ _ lock own _ within =>
    have mine : (table.insert key.id lock).find? key.id = some lock := by
      rw [Dictionary.find?_insert, if_pos rfl]
    cases within with
    | free _ absent =>
      rw [mine] at absent
      cases absent
    | locked attempted present named =>
      rw [mine] at present
      cases present
      exact ⟨_, lock, rfl, own, attempted, named⟩

end Blocks

/-- What a program of blocks gives, and what it leaves as it was. -/
structure Balanced (lift : LockError → ε) (blocks : Blocks α ε) (before after : GuardStage ν)
    (result : Except ε α) : Prop where
  /-- The table is as it was. -/
  table : after.table = before.table
  /-- Each service counts as many locks as before. -/
  counts : ∀ service, after.lockCount service = before.lockCount service
  /-- The result is the one that the blocks call for. -/
  yields : blocks.Yields lift before.table result

/-- Whatever answers it, a body under a lock is bracketed by the acquisition and one deletion.
Programs of such blocks, nested and failing in any way, leave the rows of a table in memory and the
counts of the services as they were. -/
theorem locks_bracket {σ : Type} (surroundings : Surroundings (guardInterface Step Reply) σ)
    (service : LockService) (key : LockKey) (lift : LockError → ε)
    (body : Guarded Step Reply (Except ε α)) (before : σ) :
    service.Brackets surroundings key lift body before ∧
      ∀ (run : Step → GuardStage ν → Reply × GuardStage ν) (stage : GuardStage ν)
        (blocks : Blocks α ε), stage.Plain →
          let finished := (blocks.program lift).run (GuardStage.surroundings run) stage
          Balanced lift blocks stage finished.2 finished.1 := by
  refine ⟨service.brackets surroundings key lift body before, fun run stage blocks plain => ?_⟩
  obtain ⟨result, after, ran, same, yields⟩ := blocks.run_program run lift plain
  simp only [ran]
  exact ⟨same.table, fun name => GuardStage.lockCount_congr (same.duties name), yields⟩

/-- A block within a block of the same key fails, and the block around it goes on to hold another
lock before it fails in turn: in the end there is no row. -/
theorem locks_bracket_nested :
    let otherKey : LockKey := { sharedKey with item := "orders" }
    let blocks : Blocks String String := .hold firstService sharedKey <|
      .andThen (.hold secondService sharedKey (.give (.ok "not reached"))) fun
        | .ok value => .give (.ok value)
        | .error text => .hold secondService otherKey (.give (.error text))
    let idle := fun (_ : Unit) (stage : GuardStage Unit) => ((), stage)
    let finished :=
      (blocks.program LockError.message).run (GuardStage.surroundings idle) sharedStage
    sharedStage.Plain ∧ Balanced LockError.message blocks sharedStage finished.2 finished.1 ∧
      finished.1 = .error (LockError.locked
        ⟨sharedLock "two", some (sharedLock "one"), false⟩).message := by
  intro otherKey blocks idle finished
  have plain : sharedStage.Plain := .of_empty rfl rfl
  have balanced := (locks_bracket (GuardStage.surroundings idle) firstService sharedKey
    LockError.message (.done (.ok "")) sharedStage).2 idle sharedStage blocks plain
  exact ⟨plain, balanced, by decide +kernel⟩

end ControlPlane.Rehearsal
