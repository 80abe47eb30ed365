import ControlPlane.Proofs.Lock.Rounds
import ControlPlane.Proofs.Policy.Atomicity

/-!
# Critical sections

Between acquiring and releasing the lock an update is in its critical section. `Critical` says what
the section leads to as long as nobody else writes the store: at the release the store holds what
the result of the update calls for. The update as a whole looks for the lock, and enters a critical
section once it has it (`attempting_update`).
-/
namespace ControlPlane

open Rehearsal

variable {ν Step Reply α β ε : Type}

/-- The row of a lock, the policies of a store and the way in which the table answers are the same
on two stages. -/
structure Rehearsal.GuardStage.Spares (lockId store : String) (before after : GuardStage ν) :
    Prop where
  /-- The row of the lock is the same. -/
  row : after.table.find? lockId = before.table.find? lockId
  /-- The policies of the store are the same. -/
  shelf : after.shelves.find? store = before.shelves.find? store
  /-- The table is the same one. -/
  remote : after.remote = before.remote
  /-- The table fails in the same way. -/
  faults : after.faults = before.faults

/-- A request leaves the row of a lock and a store alone, on every plain stage. -/
def GuardRequest.Spares (run : Step → GuardStage ν → Reply × GuardStage ν) (lockId store : String)
    (request : GuardRequest Step) : Prop :=
  ∀ stage : GuardStage ν, stage.Plain →
    stage.Spares lockId store (GuardStage.answer run request stage).2

namespace Protection

/-- A critical section, from which an update releases its lock with a result. What the store holds
now, and what it holds at the release, are right for each other. -/
inductive Critical (spared : GuardRequest Step → Prop) (service lockId store : String)
    (settles : α → Option PolicyDocument → Prop) :
    Option PolicyDocument → Guarded Step Reply α → Prop where
  /-- A mark is left. -/
  | mark {held : Option PolicyDocument} {rest : Guarded Step Reply α} (mark : GuardMark)
      (later : Critical spared service lockId store settles held rest) :
      Critical spared service lockId store settles held (.leave mark rest)
  /-- The policy is fetched: it is the one that the store holds. -/
  | fetch {held : Option PolicyDocument}
      {next : Except ServiceFailure (Option PolicyDocument) → Guarded Step Reply α}
      (later : Critical spared service lockId store settles held (next (.ok held))) :
      Critical spared service lockId store settles held (.ask (.fetch store) next)
  /-- A policy is put, and held from then on. -/
  | put {held policy : Option PolicyDocument}
      {next : Except ServiceFailure Unit → Guarded Step Reply α}
      (later : Critical spared service lockId store settles policy (next (.ok ()))) :
      Critical spared service lockId store settles held (.ask (.put store policy) next)
  /-- Something is asked for that leaves row and policy alone. -/
  | spare {held : Option PolicyDocument} {request : GuardRequest Step}
      {next : request.Answer Reply → Guarded Step Reply α} (spares : spared request)
      (later : ∀ answer, Critical spared service lockId store settles held (next answer)) :
      Critical spared service lockId store settles held (.ask request next)
  /-- The row is deleted, with the policy as the result wants it. -/
  | release {held : Option PolicyDocument} {result : α}
      {next : Except LockTableError Unit → Guarded Step Reply α}
      (resumed : next (.ok ()) = .leave (.released service) (.done result))
      (settled : settles result held) :
      Critical spared service lockId store settles held (.ask (.delete lockId) next)

section Programs

variable {spared : GuardRequest Step → Prop} {service lockId store : String}
  {settles : α → Option PolicyDocument → Prop} {held : Option PolicyDocument}

/-- What a store is to hold after an update that has found a policy there. -/
def Settles (principal : String) (edit : Edit) (before : Option PolicyDocument) :
    Except ε α → Option PolicyDocument → Prop
  | .ok _, after => ∃ changed, edit.applyToStored before principal = .ok changed ∧
      after = changed.elim before storable
  | .error _, after => after = before

end Programs

/-- A program that has just acquired the lock of an update enters its critical section. -/
def Enters (spared : GuardRequest Step → Prop) (service lockId store principal : String)
    (edit : Edit) (lock : Lock) (program : Guarded Step Reply (Except ε α)) : Prop :=
  lock.id = lockId ∧ ∀ before,
    Critical spared service lockId store (Settles principal edit before) before program

/-- An update that does not get its lock gives an error. -/
def Fails (result : Except ε α) : Prop := ∃ error, result = .error error

/-- An exchange in which neither a store refuses something nor the table the deletion of a lock. -/
def Smooth (lockId store : String) : GuardExchange Step Reply → Prop
  | ⟨.fetch name, .error _⟩ | ⟨.put name _, .error _⟩ => name ≠ store
  | ⟨.delete other, .error _⟩ => other ≠ lockId
  | _ => True

section Exchanges

variable {lockId store : String} {call : GuardExchange Step Reply}

/-- Looking around meets no refusal. -/
theorem smooth_of_looks (looks : call.1.Looks) : Smooth lockId store call := by
  obtain ⟨request, answer⟩ := call
  cases request with
  | delete other => exact looks.elim
  | fetch name => exact looks.elim
  | put name policy => exact looks.elim
  | _ => trivial

end Exchanges

section Steps

variable {run : Step → GuardStage ν → Reply × GuardStage ν} {stage : GuardStage ν}
  {lockId store : String} {holder : Lock} {held : Option PolicyDocument}

/-- A request that spares the row of a lock that is held changes no lock of that id. -/
theorem lockChange?_of_spares {request : GuardRequest Step} (plain : stage.Plain)
    (row : stage.table.find? lockId = some holder)
    (spares : stage.Spares lockId store (GuardStage.answer run request stage).2) :
    lockChange? lockId ⟨request, (GuardStage.answer run request stage).1⟩ = none := by
  cases request with
  | create lock =>
    rw [plain.answer_create]
    by_cases same : lock.id = lockId
    · subst same
      rw [LockTable.create_of_find?_some row]
      rfl
    · generalize (stage.table.create lock).1 = answer
      cases answer with
      | ok created => exact if_neg same
      | error error => rfl
  | delete other =>
    have kept := spares.row
    rw [plain.answer_delete] at kept ⊢
    by_cases same : other = lockId
    · subst same
      rw [LockTable.delete_of_find?_some row, Dictionary.find?_erase, if_pos rfl, row] at kept
      cases kept
    · generalize (stage.table.delete other).1 = answer
      cases answer with
      | ok deleted => exact if_neg same
      | error error => rfl
  | _ => rfl

/-- On a stage where a lock and a store are as they should be, nothing is refused. -/
theorem smooth_answer (plain : stage.Plain) (row : stage.table.find? lockId = some holder)
    (holds : stage.HoldsPolicy store held) (request : GuardRequest Step) :
    Smooth lockId store ⟨request, (GuardStage.answer run request stage).1⟩ := by
  cases request with
  | delete other =>
    rw [plain.answer_delete]
    by_cases same : other = lockId
    · subst same
      rw [LockTable.delete_of_find?_some row]
      trivial
    · generalize (stage.table.delete other).1 = answer
      cases answer with
      | ok deleted => trivial
      | error error => exact same
  | fetch name =>
    by_cases same : name = store
    · subst same
      obtain ⟨after, answered, -⟩ := holds.answer_fetch run
      rw [answered]
      trivial
    · generalize (GuardStage.answer run (.fetch name) stage).1 = answer
      cases answer with
      | ok policy => trivial
      | error failure => exact same
  | put name policy =>
    by_cases same : name = store
    · subst same
      obtain ⟨after, answered, -⟩ := holds.answer_put run policy
      rw [answered]
      trivial
    · generalize (GuardStage.answer run (.put name policy) stage).1 = answer
      cases answer with
      | ok written => trivial
      | error failure => exact same
  | _ => trivial

/-- What the steps of a critical section lead to: a later point of the section, or the release. -/
inductive CriticalStep (spared : GuardRequest Step → Prop) (service lockId store : String)
    (settles : α → Option PolicyDocument → Prop) (held : Option PolicyDocument) (holder : Lock)
    (after : GuardStage ν) (left : Guarded Step Reply α) (made : List (GuardExchange Step Reply)) :
    Prop where
  /-- The section goes on, and the lock is still held. -/
  | within {later : Option PolicyDocument}
      (critical : Critical spared service lockId store settles later left)
      (row : after.table.find? lockId = some holder) (holds : after.HoldsPolicy store later)
      (quiet : ∀ call ∈ made, lockChange? lockId call = none) :
      CriticalStep spared service lockId store settles held holder after left made
  /-- The lock is released, and the update is done. -/
  | released {result : α} (ended : left = .done result) (settled : settles result held)
      (row : after.table.find? lockId = none) (holds : after.HoldsPolicy store held)
      (freed : made = [(GuardRequest.delete lockId).gets (.ok ())]) :
      CriticalStep spared service lockId store settles held holder after left made

/-- The marks of a critical section change neither locks nor policies. -/
theorem Critical.settle {spared : GuardRequest Step → Prop} {service : String}
    {settles : α → Option PolicyDocument → Prop} {program : Guarded Step Reply α}
    (critical : Critical spared service lockId store settles held program)
    (run : Step → GuardStage ν → Reply × GuardStage ν) (stage : GuardStage ν) :
    Critical spared service lockId store settles held
        (program.settle (GuardStage.surroundings run) stage).1 ∧
      stage.SameStores (program.settle (GuardStage.surroundings run) stage).2 := by
  induction critical generalizing stage with
  | mark mark _ ih =>
    have kept := GuardStage.sameStores_keep mark stage
    obtain ⟨same, unchanged⟩ := ih (GuardStage.keep mark stage)
    exact ⟨same, kept.trans unchanged⟩
  | fetch later _ => exact ⟨.fetch later, .refl stage⟩
  | put later _ => exact ⟨.put later, .refl stage⟩
  | spare spares later _ => exact ⟨.spare spares later, .refl stage⟩
  | release resumed settled => exact ⟨.release resumed settled, .refl stage⟩

/-- A request within a critical section leads on in it. -/
theorem within_of_answer {spared : GuardRequest Step → Prop} {service : String}
    {settles : α → Option PolicyDocument → Prop} {request : GuardRequest Step}
    {next : request.Answer Reply → Guarded Step Reply α} {answer : request.Answer Reply}
    {between : GuardStage ν} {later : Option PolicyDocument}
    (answered : GuardStage.answer run request stage = (answer, between))
    (critical : Critical spared service lockId store settles later (next answer))
    (plain : between.Plain) (row : between.table.find? lockId = some holder)
    (holds : between.HoldsPolicy store later)
    (quiet : lockChange? lockId (request.gets answer) = none) :
    let after := Program.step (GuardStage.surroundings run) (.ask request next) stage
    CriticalStep spared service lockId store settles held holder after.2 after.1
        (Program.stepExchange (GuardStage.surroundings run) (.ask request next) stage) ∧
      after.2.Plain := by
  intro after
  obtain ⟨same, unchanged⟩ := critical.settle run between
  have stepped : after = (next answer).settle (GuardStage.surroundings run) between :=
    GuardStage.step_ask answered
  rw [GuardStage.stepExchange_ask answered, stepped]
  refine ⟨.within same ?_ (holds.congr (by rw [unchanged.shelves])) ?_, unchanged.plain plain⟩
  · rw [unchanged.table, row]
  · intro call member
    rw [List.mem_singleton.mp member]
    exact quiet

/-- A step of a critical section leads on in it, or releases the lock at its end. -/
theorem Critical.step {service : String} {settles : α → Option PolicyDocument → Prop}
    {program : Guarded Step Reply α}
    (critical : Critical (GuardRequest.Spares run lockId store) service lockId store settles held
      program) (plain : stage.Plain) (row : stage.table.find? lockId = some holder)
    (holds : stage.HoldsPolicy store held) :
    let after := program.step (GuardStage.surroundings run) stage
    CriticalStep (GuardRequest.Spares run lockId store) service lockId store settles held holder
        after.2 after.1 (program.stepExchange (GuardStage.surroundings run) stage) ∧
      after.2.Plain := by
  cases critical with
  | mark mark later =>
    have settled := (Critical.mark mark later).settle run stage
    refine ⟨.within settled.1 ?_ (holds.congr ?_) (by simp [Program.stepExchange]),
      settled.2.plain plain⟩
    · exact (congrArg (Dictionary.find? · lockId) settled.2.table).trans row
    · exact congrArg (Dictionary.find? · store) settled.2.shelves
  | fetch later =>
    obtain ⟨between, answered, kept, table, remote, faults⟩ := holds.answer_fetch run
    exact within_of_answer answered later (plain.congr remote faults) (by rw [table, row]) kept rfl
  | @put _ policy _ later =>
    obtain ⟨between, answered, kept, table, remote, faults⟩ := holds.answer_put run policy
    exact within_of_answer answered later (plain.congr remote faults) (by rw [table, row]) kept rfl
  | @spare _ request next spares later =>
    have spared := spares stage plain
    exact within_of_answer rfl (later _) (plain.congr spared.remote spared.faults)
      (spared.row.trans row) (holds.congr spared.shelf) (lockChange?_of_spares plain row spared)
  | @release _ result next resumed settled =>
    have answered : GuardStage.answer run (.delete lockId) stage =
        (.ok (), { stage with table := stage.table.erase lockId }) := by
      rw [plain.answer_delete, LockTable.delete_of_find?_some row]
    have stepped : Program.step (GuardStage.surroundings run) (.ask (.delete lockId) next) stage =
        (.done result, GuardStage.keep (.released service)
          { stage with table := stage.table.erase lockId }) := by
      refine (GuardStage.step_ask answered).trans ?_
      rw [resumed]
      rfl
    have kept := GuardStage.sameStores_keep (.released service)
      { stage with table := stage.table.erase lockId }
    rw [stepped, GuardStage.stepExchange_ask answered]
    refine ⟨.released rfl settled ?_ (holds.congr (by rw [kept.shelves])) rfl,
      kept.plain (plain.congr rfl rfl)⟩
    rw [kept.table, Dictionary.find?_erase, if_pos rfl]

/-- In a step of a critical section nothing is refused. -/
theorem smooth_step (run : Step → GuardStage ν → Reply × GuardStage ν)
    (program : Guarded Step Reply α) (plain : stage.Plain)
    (row : stage.table.find? lockId = some holder) (holds : stage.HoldsPolicy store held) :
    ∀ call ∈ program.stepExchange (GuardStage.surroundings run) stage,
      Smooth lockId store call := by
  cases program with
  | done result => simp [Program.stepExchange]
  | leave mark rest => simp [Program.stepExchange]
  | ask request next =>
    intro call member
    rw [List.mem_singleton.mp member]
    exact smooth_answer plain row holds request

end Steps

end Protection

end ControlPlane
