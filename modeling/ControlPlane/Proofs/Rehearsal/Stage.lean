import ControlPlane.Proofs.Lock.Course
import ControlPlane.Rehearsal.Guard

/-!
# A stage without faults

A plain stage keeps its locks in memory, and no call of its table is written down to fail. There the
table answers by itself, so a call that creates or deletes a lock changes the table and nothing else
on the stage, and marks change only what the services know and what is reported.
-/
namespace ControlPlane.Rehearsal.GuardStage

variable {ν Step Reply : Type}

/-- The table of the stage is in memory and does not fail. -/
structure Plain (stage : GuardStage ν) : Prop where
  /-- There is no remote table. -/
  inMemory : stage.remote = none
  /-- No call of the table is written down to fail. -/
  faultless : ∀ call, stage.faults.take call = (none, stage.faults)

/-- Faults that are not written down do not happen. -/
theorem Plain.of_empty {stage : GuardStage ν} (inMemory : stage.remote = none)
    (faultless : stage.faults = Dictionary.empty) : stage.Plain := by
  refine ⟨inMemory, fun call => ?_⟩
  rw [faultless]
  rfl

/-- A stage with the same table calls and faults is plain too. -/
theorem Plain.congr {stage other : GuardStage ν} (plain : stage.Plain)
    (remote : other.remote = stage.remote) (faults : other.faults = stage.faults) :
    other.Plain := by
  refine ⟨remote.trans plain.inMemory, fun call => ?_⟩
  rw [faults]
  exact plain.faultless call

/-- A call that is not written down to fail goes through. -/
theorem Plain.attempt {α : Type} {stage : GuardStage ν} (plain : stage.Plain) (name : String)
    (call : GuardStage ν → Except LockTableError α × GuardStage ν) :
    stage.attempt name call = call stage := by
  unfold GuardStage.attempt
  rw [plain.faultless name]

section Answers

variable {run : Step → GuardStage ν → Reply × GuardStage ν} {stage : GuardStage ν}

/-- A step answers the request and keeps the marks after it. -/
theorem step_ask {α : Type} {request : GuardRequest Step}
    {next : request.Answer Reply → Guarded Step Reply α} {answer : request.Answer Reply}
    {after : GuardStage ν} (answered : GuardStage.answer run request stage = (answer, after)) :
    Program.step (surroundings run) (.ask request next) stage =
      (next answer).settle (surroundings run) after := by
  simp only [Program.step, surroundings, answered]

/-- A request is exchanged for its answer. -/
theorem stepExchange_ask {α : Type} {request : GuardRequest Step}
    {next : request.Answer Reply → Guarded Step Reply α} {answer : request.Answer Reply}
    {after : GuardStage ν} (answered : GuardStage.answer run request stage = (answer, after)) :
    Program.stepExchange (surroundings run) (.ask request next) stage = [request.gets answer] := by
  simp only [Program.stepExchange, surroundings, answered]

/-- A lock is created by the table alone. -/
theorem Plain.answer_create (plain : stage.Plain) (lock : Lock) :
    GuardStage.answer run (.create lock) stage =
      ((stage.table.create lock).1, { stage with table := (stage.table.create lock).2 }) := by
  refine (plain.attempt "create" (create lock)).trans ?_
  unfold create
  rw [plain.inMemory]

/-- A lock is looked up in the table alone. -/
theorem Plain.answer_get (plain : stage.Plain) (lockId : String) :
    GuardStage.answer run (.get lockId) stage = (stage.table.get lockId, stage) := by
  refine (plain.attempt "get" (get lockId)).trans ?_
  unfold get
  rw [plain.inMemory]

/-- A lock is deleted by the table alone. -/
theorem Plain.answer_delete (plain : stage.Plain) (lockId : String) :
    GuardStage.answer run (.delete lockId) stage =
      ((stage.table.delete lockId).1, { stage with table := (stage.table.delete lockId).2 }) := by
  refine (plain.attempt "delete" (delete lockId)).trans ?_
  unfold delete
  rw [plain.inMemory]

end Answers

/-- Two stages have the same locks and policies. -/
structure SameStores (before after : GuardStage ν) : Prop where
  /-- The locks in memory are the same. -/
  table : after.table = before.table
  /-- The remote table is the same. -/
  remote : after.remote = before.remote
  /-- The table fails in the same way. -/
  faults : after.faults = before.faults
  /-- The policies are the same. -/
  shelves : after.shelves = before.shelves

/-- A stage has the same stores as itself. -/
theorem SameStores.refl (stage : GuardStage ν) : SameStores stage stage := ⟨rfl, rfl, rfl, rfl⟩

/-- Stores that are the same twice are the same as at first. -/
theorem SameStores.trans {first second third : GuardStage ν} (before : SameStores first second)
    (after : SameStores second third) : SameStores first third :=
  ⟨after.table.trans before.table, after.remote.trans before.remote,
    after.faults.trans before.faults, after.shelves.trans before.shelves⟩

/-- With the same stores a plain stage stays plain. -/
theorem SameStores.plain {before after : GuardStage ν} (same : SameStores before after)
    (plain : before.Plain) : after.Plain := plain.congr same.remote same.faults

/-- Nothing but the clock and the reports differ on two stages. -/
structure Undisturbed (before after : GuardStage ν) : Prop extends SameStores before after where
  /-- The services have the same duties. -/
  duties : after.duties = before.duties

/-- A stage does not differ from itself. -/
theorem Undisturbed.refl (stage : GuardStage ν) : Undisturbed stage stage :=
  ⟨SameStores.refl stage, rfl⟩

/-- What is undisturbed twice is undisturbed since the beginning. -/
theorem Undisturbed.trans {first second third : GuardStage ν} (before : Undisturbed first second)
    (after : Undisturbed second third) : Undisturbed first third :=
  ⟨before.toSameStores.trans after.toSameStores, after.duties.trans before.duties⟩

/-- A policy store holds a policy, and its calls are not written down to fail. -/
def HoldsPolicy (stage : GuardStage ν) (store : String) (policy : Option PolicyDocument) : Prop :=
  ∃ shelf, stage.shelves.find? store = some shelf ∧ shelf.policy = policy ∧
    ∀ call, shelf.faults.take call = (none, shelf.faults)

/-- What a store holds is seen on its shelf alone. -/
theorem HoldsPolicy.congr {stage other : GuardStage ν} {store : String}
    {policy : Option PolicyDocument} (holds : stage.HoldsPolicy store policy)
    (same : other.shelves.find? store = stage.shelves.find? store) :
    other.HoldsPolicy store policy := by
  unfold HoldsPolicy
  rwa [same]

/-- The policy that a store holds is fetched, and stays. -/
theorem HoldsPolicy.answer_fetch {stage : GuardStage ν} {store : String}
    {policy : Option PolicyDocument} (holds : stage.HoldsPolicy store policy)
    (run : Step → GuardStage ν → Reply × GuardStage ν) :
    ∃ after, GuardStage.answer run (.fetch store) stage = (.ok policy, after) ∧
      after.HoldsPolicy store policy ∧ after.table = stage.table ∧ after.remote = stage.remote ∧
      after.faults = stage.faults := by
  obtain ⟨shelf, found, rfl, quiet⟩ := holds
  refine ⟨{ stage with shelves := stage.shelves.insert store shelf }, ?_, ?_, rfl, rfl, rfl⟩
  · change GuardStage.fetch store stage = _
    unfold GuardStage.fetch
    rw [found]
    simp only [quiet "fetch"]
  · refine ⟨shelf, ?_, rfl, quiet⟩
    rw [Dictionary.find?_insert, if_pos rfl]

/-- A policy that is put into a store is held from then on. -/
theorem HoldsPolicy.answer_put {stage : GuardStage ν} {store : String}
    {held : Option PolicyDocument} (holds : stage.HoldsPolicy store held)
    (run : Step → GuardStage ν → Reply × GuardStage ν) (policy : Option PolicyDocument) :
    ∃ after, GuardStage.answer run (.put store policy) stage = (.ok (), after) ∧
      after.HoldsPolicy store policy ∧ after.table = stage.table ∧ after.remote = stage.remote ∧
      after.faults = stage.faults := by
  obtain ⟨shelf, found, -, quiet⟩ := holds
  refine ⟨{ stage with shelves :=
    stage.shelves.insert store ⟨policy, shelf.writes + 1, shelf.faults⟩ }, ?_, ?_, rfl, rfl, rfl⟩
  · change GuardStage.put store policy stage = _
    unfold GuardStage.put
    rw [found]
    simp only [quiet "put"]
  · refine ⟨⟨policy, shelf.writes + 1, shelf.faults⟩, ?_, rfl, quiet⟩
    rw [Dictionary.find?_insert, if_pos rfl]

/-- A duty is changed for one service only, and in nothing but what the change is for. -/
theorem duties_changeDuty (stage : GuardStage ν) (service wanted : String) (change : Duty → Duty) :
    (stage.changeDuty service change).duties.find? wanted =
      if service = wanted then (stage.duties.find? wanted).map change
      else stage.duties.find? wanted := by
  unfold changeDuty
  split
  · next duty found =>
    rw [Dictionary.find?_insert]
    split
    · next same => rw [← same, found]; rfl
    · rfl
  · next absent =>
    split
    · next same => rw [← same, absent]; rfl
    · rfl

/-- A change of a duty leaves the locks in memory. -/
@[simp] theorem table_changeDuty (stage : GuardStage ν) (service : String) (change : Duty → Duty) :
    (stage.changeDuty service change).table = stage.table := by
  unfold changeDuty
  split <;> rfl

/-- A change of a duty leaves the remote table. -/
@[simp] theorem remote_changeDuty (stage : GuardStage ν) (service : String) (change : Duty → Duty) :
    (stage.changeDuty service change).remote = stage.remote := by
  unfold changeDuty
  split <;> rfl

/-- A change of a duty leaves the failures that are written down. -/
@[simp] theorem faults_changeDuty (stage : GuardStage ν) (service : String) (change : Duty → Duty) :
    (stage.changeDuty service change).faults = stage.faults := by
  unfold changeDuty
  split <;> rfl

/-- A change of a duty leaves the policies. -/
@[simp] theorem shelves_changeDuty (stage : GuardStage ν) (service : String)
    (change : Duty → Duty) : (stage.changeDuty service change).shelves = stage.shelves := by
  unfold changeDuty
  split <;> rfl

/-- No mark changes the table. -/
@[simp] theorem table_keep (mark : GuardMark) (stage : GuardStage ν) :
    (keep mark stage).table = stage.table := by
  cases mark <;> simp [keep]

/-- A mark leaves the remote table. -/
@[simp] theorem remote_keep (mark : GuardMark) (stage : GuardStage ν) :
    (keep mark stage).remote = stage.remote := by
  cases mark <;> simp [keep]

/-- A mark leaves the failures that are written down. -/
@[simp] theorem faults_keep (mark : GuardMark) (stage : GuardStage ν) :
    (keep mark stage).faults = stage.faults := by
  cases mark <;> simp [keep]

/-- No mark changes a policy store. -/
@[simp] theorem shelves_keep (mark : GuardMark) (stage : GuardStage ν) :
    (keep mark stage).shelves = stage.shelves := by
  cases mark <;> simp [keep]

/-- A report is kept among the events. -/
theorem undisturbed_report (event : Event) (stage : GuardStage ν) :
    Undisturbed stage (keep (.event event) stage) := ⟨⟨rfl, rfl, rfl, rfl⟩, rfl⟩

/-- Marks have no part in locks and policies. -/
theorem sameStores_keep (mark : GuardMark) (stage : GuardStage ν) :
    SameStores stage (keep mark stage) :=
  ⟨table_keep mark stage, remote_keep mark stage, faults_keep mark stage, shelves_keep mark stage⟩

/-- How many locks a service has is part of its duty. -/
theorem lockCount_congr {stage other : GuardStage ν} {service : String}
    (same : other.duties.find? service = stage.duties.find? service) :
    other.lockCount service = stage.lockCount service := by
  unfold lockCount
  rw [same]

/-- A stage on which nothing has happened yet. -/
def bare : GuardStage Unit where
  table := Dictionary.empty
  remote := none
  script := []
  calls := []
  faults := Dictionary.empty
  shelves := Dictionary.empty
  duties := Dictionary.empty
  start := .epoch
  looks := 0
  events := []
  notes := ()

end ControlPlane.Rehearsal.GuardStage
