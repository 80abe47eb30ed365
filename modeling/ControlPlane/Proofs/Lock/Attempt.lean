import ControlPlane.Proofs.Lock.Course
import ControlPlane.Proofs.Rehearsal.Stage

/-!
# Acquisitions step by step

An acquisition looks around and reports, and it tries to create one lock. As long as it has not
created it, it has changed nothing that another operation could see (`Attempting.step`). What it
goes on with after it has created the lock, and what it gives if it does not, are parameters, so
that the same steps serve an acquisition by itself and one at the front of a longer operation
(`Attempting.bind`).
-/
namespace ControlPlane

open Rehearsal

variable {ν Step Reply α β : Type}

/-- A request that only looks around. -/
def GuardRequest.Looks : GuardRequest Step → Prop
  | .get _ | .clock | .requestId _ => True
  | _ => False

namespace LockService

/-- A program that looks around until it creates a lock, and then goes on as one that has won, or
ends as one that has lost. -/
inductive Attempting (won : Lock → Guarded Step Reply α → Prop) (lost : α → Prop) :
    Guarded Step Reply α → Prop where
  /-- The program has lost. -/
  | lost {result : α} (given : lost result) : Attempting won lost (.done result)
  /-- It reports something. -/
  | report (event : Event) {rest : Guarded Step Reply α} (later : Attempting won lost rest) :
      Attempting won lost (.leave (.event event) rest)
  /-- It looks around, and goes on whatever it finds. -/
  | look {request : GuardRequest Step} {next : request.Answer Reply → Guarded Step Reply α}
      (looks : request.Looks) (later : ∀ answer, Attempting won lost (next answer)) :
      Attempting won lost (.ask request next)
  /-- It creates a lock: it has won if there was none, and goes on otherwise. -/
  | create {lock : Lock} {next : Except LockTableError Unit → Guarded Step Reply α}
      (taken : won lock (next (.ok ())))
      (later : ∀ error, Attempting won lost (next (.error error))) :
      Attempting won lost (.ask (.create lock) next)

section Programs

variable {won : Lock → Guarded Step Reply α → Prop} {lost : α → Prop}
  {program : Guarded Step Reply α}

/-- An attempt can be the front of a longer one. -/
theorem Attempting.bind {wonThen : Lock → Guarded Step Reply β → Prop} {lostThen : β → Prop}
    {next : α → Guarded Step Reply β} (attempting : Attempting won lost program)
    (taken : ∀ lock rest, won lock rest → wonThen lock (rest >>= next))
    (given : ∀ result, lost result → Attempting wonThen lostThen (next result)) :
    Attempting wonThen lostThen (program >>= next) := by
  induction attempting with
  | lost result => exact given _ result
  | report event _ ih => exact .report event ih
  | look looks _ ih => exact .look looks ih
  | create made _ ih => exact .create (taken _ _ made) ih

/-- Looking at the lock in the way is a lost attempt. -/
theorem attempting_inspect {service : LockService} {attempted : Lock}
    {won : Lock → Guarded Step Reply (Except LockError LockOutcome) → Prop}
    {lost : Except LockError LockOutcome → Prop}
    (given : ∀ result, (∀ lock, result ≠ .ok (.acquired lock)) → lost result) :
    Attempting won lost (service.inspect attempted) := by
  refine .look trivial fun answer => ?_
  cases answer with
  | error error =>
    cases error with
    | notFound missing => exact .lost (given _ (by simp))
    | _ => exact .lost (given _ (by simp))
  | ok holder =>
    refine .look trivial fun now => ?_
    change Attempting won lost (if holder.isStale service.staleAfter now then _ else _)
    by_cases stale : holder.isStale service.staleAfter now
    · rw [if_pos stale]
      exact .report _ (.lost (given _ (by simp)))
    · rw [if_neg stale]
      exact .lost (given _ (by simp))

/-- Trying to take a lock is an attempt. -/
theorem attempting_tryAcquire {service : LockService} {key : LockKey} {data : JsonObject}
    (won : Lock → Guarded Step Reply (Except LockError LockOutcome) → Prop)
    (lost : Except LockError LockOutcome → Prop)
    (taken : ∀ lock : Lock, lock.id = key.id →
      won lock (.leave (.acquired service.name) (.done (.ok (.acquired lock)))))
    (given : ∀ result, (∀ lock, result ≠ .ok (.acquired lock)) → lost result) :
    Attempting won lost (service.tryAcquire key data) := by
  refine .look trivial fun requestId => .look trivial fun now => ?_
  refine .create (taken _ rfl) fun error => ?_
  cases error with
  | alreadyExists lockId => exact .report _ (attempting_inspect given)
  | _ => exact .lost (given _ (by simp))

/-- Taking a lock is an attempt whose conflicts are errors. -/
theorem attempting_acquire {service : LockService} {key : LockKey} {data : JsonObject} :
    Attempting
      (fun lock rest => lock.id = key.id ∧
        rest = .leave (.acquired service.name) (.done (.ok lock)))
      (fun result => ∃ error, result = .error error)
      (service.acquire key data : Guarded Step Reply (Except LockError Lock)) := by
  refine Attempting.bind (attempting_tryAcquire
    (fun lock rest => lock.id = key.id ∧
      rest = .leave (.acquired service.name) (.done (.ok (.acquired lock))))
    (fun result => ∀ lock, result ≠ .ok (.acquired lock))
    (fun lock same => ⟨same, rfl⟩) fun result other => other) ?_ ?_
  · rintro lock rest ⟨same, rfl⟩
    exact ⟨same, rfl⟩
  · intro result other
    cases result with
    | error error => exact .lost ⟨error, rfl⟩
    | ok outcome =>
      cases outcome with
      | acquired lock => exact absurd rfl (other lock)
      | conflict conflict => exact .lost ⟨_, rfl⟩

end Programs

section Steps

variable {won : Lock → Guarded Step Reply α → Prop} {lost : α → Prop}
  {program : Guarded Step Reply α} {stage : GuardStage ν}

/-- The reports of an attempt change nothing else. -/
theorem Attempting.settle (attempting : Attempting won lost program)
    (run : Step → GuardStage ν → Reply × GuardStage ν) (stage : GuardStage ν) :
    Attempting won lost (program.settle (GuardStage.surroundings run) stage).1 ∧
      stage.Undisturbed (program.settle (GuardStage.surroundings run) stage).2 := by
  induction attempting generalizing stage with
  | lost given => exact ⟨.lost given, .refl stage⟩
  | report event _ ih =>
    have reported := GuardStage.undisturbed_report event stage
    obtain ⟨same, undisturbed⟩ := ih (GuardStage.keep (.event event) stage)
    exact ⟨same, reported.trans undisturbed⟩
  | look looks later _ => exact ⟨.look looks later, .refl stage⟩
  | create taken later _ => exact ⟨.create taken later, .refl stage⟩

/-- Looking around changes nothing on a plain stage. -/
theorem undisturbed_look (run : Step → GuardStage ν → Reply × GuardStage ν) (plain : stage.Plain)
    {request : GuardRequest Step} (looks : request.Looks) :
    stage.Undisturbed (GuardStage.answer run request stage).2 := by
  cases request with
  | get lockId =>
    rw [plain.answer_get]
    exact .refl stage
  | clock => exact ⟨⟨rfl, rfl, rfl, rfl⟩, rfl⟩
  | requestId service => exact .refl stage
  | _ => exact looks.elim

/-- A step of an attempt changes nothing, unless it creates the lock, which was not there. -/
theorem Attempting.step (attempting : Attempting won lost program)
    (run : Step → GuardStage ν → Reply × GuardStage ν) (plain : stage.Plain) :
    (Attempting won lost (program.step (GuardStage.surroundings run) stage).1 ∧
        stage.Undisturbed (program.step (GuardStage.surroundings run) stage).2 ∧
        ∀ call ∈ program.stepExchange (GuardStage.surroundings run) stage,
          call.1.Looks ∨ ∃ lock error, call = (GuardRequest.create lock).gets (.error error)) ∨
      ∃ lock next, program = .ask (.create lock) next ∧ won lock (next (.ok ())) ∧
        stage.table.find? lock.id = none := by
  cases attempting with
  | lost given => exact .inl ⟨.lost given, .refl stage, by simp [Program.stepExchange]⟩
  | report event later =>
    have settled := (Attempting.report event later).settle run stage
    exact .inl ⟨settled.1, settled.2, by simp [Program.stepExchange]⟩
  | @look request next looks later =>
    have answered := undisturbed_look run plain looks
    have settled := (later (GuardStage.answer run request stage).1).settle run
      (GuardStage.answer run request stage).2
    refine .inl ⟨settled.1, answered.trans settled.2, ?_⟩
    simp only [Program.stepExchange, List.mem_singleton, forall_eq]
    exact .inl looks
  | @create lock next taken later =>
    cases found : stage.table.find? lock.id with
    | none => exact .inr ⟨lock, next, rfl, taken, found⟩
    | some holder =>
      have refused : GuardStage.answer run (.create lock) stage =
          (.error (.alreadyExists lock.id), stage) := by
        rw [plain.answer_create, LockTable.create_of_find?_some found]
      have stepped : Program.step (GuardStage.surroundings run) (.ask (.create lock) next) stage =
          (next (.error (.alreadyExists lock.id))).settle (GuardStage.surroundings run) stage :=
        GuardStage.step_ask refused
      have settled := (later (.alreadyExists lock.id)).settle run stage
      rw [← stepped] at settled
      refine .inl ⟨settled.1, settled.2, ?_⟩
      simp only [Program.stepExchange, GuardStage.surroundings, refused, List.mem_singleton,
        forall_eq]
      exact .inr ⟨lock, _, rfl⟩

end Steps

end LockService

end ControlPlane
