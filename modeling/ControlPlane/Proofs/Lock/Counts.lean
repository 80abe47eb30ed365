import ControlPlane.Proofs.Lock.Release
import ControlPlane.Proofs.Lock.Serving

/-!
# Counts of locks

Each service counts its locks by itself, so nothing that a table answers, and no call of another
service, has a part in a count (`KeepsCounts`). The count is the number of acquisitions of the
service less the number of its releases since it got its request, and the count of a careful service
is the number of locks it holds. On a table in memory the counts add up to the rows that have been
added (`counts_exact`).
-/
namespace ControlPlane.Rehearsal

variable {ν Step Reply : Type}

/-- The stage counts, and who answers the requests about locks leaves the counts alone. -/
structure KeepsCounts (surroundings : Surroundings (guardInterface Step Reply) (GuardStage ν)) :
    Prop where
  /-- The stage counts, and keeps the other marks. -/
  keep : surroundings.keep = GuardStage.keep
  /-- Looking around changes no count. -/
  observed : ∀ {request : GuardRequest Step}, request.Observes → ∀ stage,
    (surroundings.answer request stage).2.duties = stage.duties
  /-- Creating a lock changes no count, whatever the answer is. -/
  created : ∀ {lock stage result after},
    surroundings.answer (.create lock) stage = (result, after) → after.duties = stage.duties
  /-- Deleting a lock changes no count, whatever the answer is. -/
  deleted : ∀ {lockId stage result after},
    surroundings.answer (.delete lockId) stage = (result, after) → after.duties = stage.duties
  /-- A service that asks for its count gets the one of the stage. -/
  counted : ∀ service stage,
    (surroundings.answer (.lockCount service) stage).1 = stage.lockCount service

/-- What looks around, reports or fails leaves the counts alone. -/
theorem KeepsCounts.harmless
    {surroundings : Surroundings (guardInterface Step Reply) (GuardStage ν)}
    (counting : KeepsCounts surroundings) :
    Harmless surroundings fun before after => after.duties = before.duties where
  refl _ := rfl
  trans before after := after.trans before
  reported event stage := by
    rw [counting.keep]
    rfl
  observed observes stage := counting.observed observes stage
  uncreated := counting.created
  undeleted := counting.deleted

section Tables

/-- The store has no part in the counts. -/
theorem duties_callStore (call : ItemCall) (stage : GuardStage ν) :
    (GuardStage.callStore call stage).2.duties = stage.duties := by
  unfold GuardStage.callStore
  split <;> rfl

/-- A page of a listing leaves the counts alone. -/
theorem duties_of_answered {call : ItemCall} {stage after : GuardStage ν}
    {result : Except ServiceFailure ItemReply}
    (answered : GuardStage.store.call call stage = (result, after)) :
    after.duties = stage.duties := by
  have same := duties_callStore call stage
  rwa [show GuardStage.callStore call stage = (result, after) from answered] at same

/-- So does a listing, however many pages it takes. -/
theorem duties_listFrom (table : RemoteTable) (start : Option Item) (stage : GuardStage ν)
    (ends : GuardStage.store.ScanEnds table.name start stage) :
    (table.listFrom GuardStage.store start stage ends).2.duties = stage.duties := by
  fun_induction RemoteTable.listFrom table GuardStage.store start stage ends with
  | case1 start stage ends failure after answered => exact duties_of_answered answered
  | case2 start stage ends reply after answered error read => exact duties_of_answered answered
  | case3 start stage ends reply after answered locks read ended =>
    exact duties_of_answered answered
  | case4 start stage ends reply after answered locks read key next others last rest ih =>
    rw [rest] at ih
    exact ih.trans (duties_of_answered answered)

/-- A call of the table that leaves the counts alone does so if it is written down to fail. -/
theorem duties_attempt {α : Type} (name : String)
    {call : GuardStage ν → Except LockTableError α × GuardStage ν}
    (same : ∀ stage, (call stage).2.duties = stage.duties) (stage : GuardStage ν) :
    (stage.attempt name call).2.duties = stage.duties := by
  unfold GuardStage.attempt
  rcases stage.faults.take name with ⟨_ | fault, faults⟩
  · exact same _
  · by_cases effect : fault.takesEffect
    · simp only [if_pos effect]
      exact same _
    · simp only [if_neg effect]

/-- The table of a stage leaves the counts alone, be it in memory or in a store, and however it
fails. -/
theorem keepsCounts_surroundings (run : Step → GuardStage ν → Reply × GuardStage ν) :
    KeepsCounts (GuardStage.surroundings run) where
  keep := rfl
  observed := by
    intro request observes stage
    cases request with
    | get lockId =>
      refine duties_attempt "get" (fun stage => ?_) stage
      unfold GuardStage.get
      split
      · exact duties_callStore _ _
      · rfl
    | list =>
      refine duties_attempt "list" (fun stage => ?_) stage
      unfold GuardStage.list
      split
      · exact duties_listFrom _ _ _ _
      · rfl
    | clock => rfl
    | requestId service => rfl
    | lockCount service => rfl
    | _ => exact observes.elim
  created := by
    intro lock stage result after answered
    refine (congrArg (·.2.duties) answered).symm.trans (duties_attempt "create" (fun stage => ?_) _)
    unfold GuardStage.create
    split
    · exact duties_callStore _ _
    · rfl
  deleted := by
    intro lockId stage result after answered
    refine (congrArg (·.2.duties) answered).symm.trans (duties_attempt "delete" (fun stage => ?_) _)
    unfold GuardStage.delete
    split
    · exact duties_callStore _ _
    · rfl
  counted _ _ := rfl

end Tables

section Count

variable {stage before after : GuardStage ν} {name service : String} {count : Int}

/-- The stage counts for a service, and has come to a number. -/
def HasCount (stage : GuardStage ν) (name : String) (count : Int) : Prop :=
  ∃ duty, stage.duties.find? name = some duty ∧ duty.count = count

/-- The count of the stage is the number it has come to. -/
theorem HasCount.lockCount (counted : HasCount stage name count) :
    stage.lockCount name = count := by
  obtain ⟨duty, found, rfl⟩ := counted
  unfold GuardStage.lockCount
  rw [found]

/-- What leaves the duties alone leaves the count. -/
theorem HasCount.congr (counted : HasCount before name count)
    (same : after.duties = before.duties) : HasCount after name count := by
  unfold HasCount
  rwa [same]

/-- A change of a duty changes the count of its service, and no other. -/
theorem HasCount.changeDuty (counted : HasCount stage name count) (service : String)
    {change : Duty → Duty} {tally : Int → Int}
    (tallied : ∀ duty, (change duty).count = tally duty.count) :
    HasCount (stage.changeDuty service change) name
      (if service = name then tally count else count) := by
  obtain ⟨duty, found, rfl⟩ := counted
  by_cases own : service = name
  · refine ⟨change duty, ?_, ?_⟩
    · rw [GuardStage.duties_changeDuty, if_pos own, found, Option.map_some]
    · rw [if_pos own, tallied]
  · refine ⟨duty, ?_, ?_⟩
    · rw [GuardStage.duties_changeDuty, if_neg own, found]
    · rw [if_neg own]

variable {surroundings : Surroundings (guardInterface Step Reply) (GuardStage ν)}
  {may : LockChange → Prop} {history given : List LockChange}

/-- A count stays that of the changes. -/
theorem HasCount.step (counting : KeepsCounts surroundings)
    (step : ServiceStep surroundings may (fun before after => after.duties = before.duties)
      before after given)
    (counted : HasCount before name (countOf name history)) :
    HasCount after name (countOf name (history ++ given)) := by
  cases step with
  | quiet same =>
    rw [List.append_nil]
    exact counted.congr same
  | @acquired lock service middle own created =>
    rw [countOf_append, counting.keep]
    exact (counted.congr (counting.created created)).changeDuty service fun _ => rfl
  | @released lockId service middle own deleted =>
    rw [countOf_append, counting.keep]
    exact (counted.congr (counting.deleted deleted)).changeDuty service fun _ => rfl
  | @bound service requestId own =>
    rw [countOf_append, counting.keep]
    exact counted.changeDuty service fun _ => rfl

/-- What is done for one service leaves the counts of the others. -/
theorem lockCount_changeDuty_of_ne (other : service ≠ name) (stage : GuardStage ν)
    (change : Duty → Duty) :
    (stage.changeDuty service change).lockCount name = stage.lockCount name :=
  GuardStage.lockCount_congr (by rw [GuardStage.duties_changeDuty, if_neg other])

/-- A step that changes no count of a service leaves it. -/
theorem lockCount_step (counting : KeepsCounts surroundings)
    (step : ServiceStep surroundings may (fun before after => after.duties = before.duties)
      before after given)
    (others : ∀ change ∈ given, change.service ≠ name) :
    after.lockCount name = before.lockCount name := by
  cases step with
  | quiet same => exact GuardStage.lockCount_congr (by rw [same])
  | @acquired lock service middle own created =>
    have same : middle.lockCount name = before.lockCount name :=
      GuardStage.lockCount_congr (by rw [counting.created created])
    rw [counting.keep, GuardStage.keep, ← same]
    exact lockCount_changeDuty_of_ne (others _ List.mem_cons_self) middle _
  | @released lockId service middle own deleted =>
    have same : middle.lockCount name = before.lockCount name :=
      GuardStage.lockCount_congr (by rw [counting.deleted deleted])
    rw [counting.keep, GuardStage.keep, ← same]
    exact lockCount_changeDuty_of_ne (others _ List.mem_cons_self) middle _
  | bound own =>
    rw [counting.keep, GuardStage.keep]
    exact lockCount_changeDuty_of_ne (others _ List.mem_cons_self) before _

/-- The end of a request gives the count. -/
theorem run_finish (counting : KeepsCounts surroundings) (service : LockService)
    (stage : GuardStage ν) :
    ((service.finish : Guarded Step Reply Int).run surroundings stage).1 =
      stage.lockCount service.name := by
  rcases answered : surroundings.answer (.lockCount service.name) stage with ⟨count, looked⟩
  rcases named : surroundings.answer (.requestId service.name) looked with ⟨requestId, middle⟩
  have counted : count = stage.lockCount service.name := by
    rw [← counting.counted, answered]
  have ran : (service.finish : Guarded Step Reply Int).run surroundings stage =
      Program.run surroundings (if (count : Int) ≠ 0 then
        Guarded.report (LockService.leakReport requestId count) >>= fun _ => pure count
      else pure count) middle :=
    (Program.run_ask answered).trans (Program.run_ask named)
  rw [ran, ← counted]
  by_cases left : (count : Int) ≠ 0
  · rw [if_pos left]
    rfl
  · rw [if_neg left]
    rfl

end Count

section Rows

variable {stage before after : GuardStage ν} {run : Step → GuardStage ν → Reply × GuardStage ν}
  {known : String → Prop} {initial : LockTable} {history given : List LockChange}

/-- A list of locks in memory leaves them there. -/
theorem answer_list (plain : stage.Plain) (run : Step → GuardStage ν → Reply × GuardStage ν) :
    GuardStage.answer run .list stage = (.ok stage.table.list, stage) := by
  refine (plain.attempt "list" GuardStage.list).trans ?_
  unfold GuardStage.list
  rw [plain.inMemory]

/-- A lock is created exactly if there is none of its id, and is in the table then. -/
theorem created_iff (plain : stage.Plain) (run : Step → GuardStage ν → Reply × GuardStage ν)
    {lock : Lock} {result : Except LockTableError Unit}
    (answered : GuardStage.answer run (.create lock) stage = (result, after)) :
    (result = .ok () ∧ stage.table.find? lock.id = none ∧
        after = { stage with table := stage.table.insert lock.id lock }) ∨
      ((∃ error, result = .error error) ∧ after = stage) := by
  rw [plain.answer_create] at answered
  cases found : stage.table.find? lock.id with
  | none =>
    rw [LockTable.create_of_find?_none found] at answered
    cases answered
    exact .inl ⟨rfl, rfl, rfl⟩
  | some holder =>
    rw [LockTable.create_of_find?_some found] at answered
    cases answered
    exact .inr ⟨⟨_, rfl⟩, rfl⟩

/-- A lock is deleted exactly if there is one of the id, and is not in the table then. -/
theorem deleted_iff (plain : stage.Plain) (run : Step → GuardStage ν → Reply × GuardStage ν)
    {lockId : String} {result : Except LockTableError Unit}
    (answered : GuardStage.answer run (.delete lockId) stage = (result, after)) :
    (result = .ok () ∧ (∃ holder, stage.table.find? lockId = some holder) ∧
        after = { stage with table := stage.table.erase lockId }) ∨
      ((∃ error, result = .error error) ∧ after = stage) := by
  rw [plain.answer_delete] at answered
  cases found : stage.table.find? lockId with
  | none =>
    rw [LockTable.delete_of_find?_none found] at answered
    cases answered
    exact .inr ⟨⟨_, rfl⟩, rfl⟩
  | some holder =>
    rw [LockTable.delete_of_find?_some found] at answered
    cases answered
    exact .inl ⟨rfl, ⟨holder, rfl⟩, rfl⟩

/-- On a plain stage what looks around, reports or fails changes neither a row nor a count. -/
theorem harmless_plain (run : Step → GuardStage ν → Reply × GuardStage ν) :
    Harmless (GuardStage.surroundings run) fun before after =>
      before.Plain → before.Undisturbed after where
  refl stage _ := .refl stage
  trans before after plain := (before plain).trans (after ((before plain).plain plain))
  reported event stage _ := GuardStage.undisturbed_report event stage
  observed := by
    intro request observes stage plain
    cases request with
    | get lockId => exact LockService.undisturbed_look run plain trivial
    | list =>
      have listed : ((GuardStage.surroundings run).answer .list stage).2 = stage :=
        congrArg Prod.snd (answer_list plain run)
      rw [listed]
      exact .refl stage
    | clock => exact LockService.undisturbed_look run plain trivial
    | requestId service => exact .refl stage
    | lockCount service => exact .refl stage
    | _ => exact observes.elim
  uncreated := by
    intro lock error stage after answered plain
    obtain ⟨ok, -⟩ | ⟨-, rfl⟩ := created_iff plain run answered
    · cases ok
    · exact .refl _
  undeleted := by
    intro lockId error stage after answered plain
    obtain ⟨ok, -⟩ | ⟨-, rfl⟩ := deleted_iff plain run answered
    · cases ok
    · exact .refl _

/-- The counts of all services. -/
def totalCount (stage : GuardStage ν) : Int := stage.duties.total Duty.count

/-- A change of the duty of one service changes the sum of the counts. -/
theorem totalCount_changeDuty {service : String} {change : Duty → Duty} {step : Int}
    (counted : (stage.duties.find? service).isSome)
    (stepped : ∀ duty, (change duty).count = duty.count + step) :
    totalCount (stage.changeDuty service change) = totalCount stage + step := by
  obtain ⟨duty, found⟩ := Option.isSome_iff_exists.mp counted
  unfold totalCount GuardStage.changeDuty
  simp only [found, Dictionary.total_insert, Option.map_some, Option.getD_some, stepped]
  omega

/-- The services that have a duty keep it. -/
theorem isSome_changeDuty (stage : GuardStage ν) (service name : String) (change : Duty → Duty) :
    ((stage.changeDuty service change).duties.find? name).isSome =
      (stage.duties.find? name).isSome := by
  rw [GuardStage.duties_changeDuty]
  split
  · exact Option.isSome_map
  · rfl

/-- A table in memory has the rows of the beginning and those that the services count. -/
structure AddsUp (known : String → Prop) (initial : LockTable) (stage : GuardStage ν)
    (history : List LockChange) : Prop where
  /-- The table is in memory and does not fail. -/
  plain : stage.Plain
  /-- The known services have duties. -/
  duties : ∀ name, known name → (stage.duties.find? name).isSome
  /-- If no service begins anew, the counts make up for all rows that have been added. -/
  rows : (∀ service, .bound service ∉ history) →
    (stage.table.size : Int) = initial.size + totalCount stage
  /-- If all services are careful, the rows are those that are held. -/
  held : (∀ name, Careful name history) → HoldsRows initial stage.table history

/-- A row that comes or goes is counted. -/
theorem AddsUp.counted (addsUp : AddsUp known initial stage history) {table : LockTable}
    {service : String} {change : Duty → Duty} {difference : Int} {last : LockChange}
    (own : known service) (stepped : ∀ duty, (change duty).count = duty.count + difference)
    (sized : (table.size : Int) = stage.table.size + difference)
    (held : (∀ name, Careful name (history ++ [last])) → HoldsRows initial table (history ++ [last])) :
    AddsUp known initial (({ stage with table } : GuardStage ν).changeDuty service change)
      (history ++ [last]) := by
  refine ⟨addsUp.plain.congr (GuardStage.remote_changeDuty _ _ _) (GuardStage.faults_changeDuty _ _ _),
    fun name counted => ?_, fun unbound => ?_, fun careful => ?_⟩
  · rw [isSome_changeDuty]
    exact addsUp.duties name counted
  · have rows := addsUp.rows fun other bound => unbound other (List.mem_append_left _ bound)
    have duties : (({ stage with table } : GuardStage ν).duties.find? service).isSome :=
      addsUp.duties service own
    rw [GuardStage.table_changeDuty, totalCount_changeDuty duties stepped]
    change (table.size : Int) = initial.size + (totalCount stage + difference)
    rw [sized, rows, Int.add_assoc]
  · rw [GuardStage.table_changeDuty]
    exact held careful

/-- What has added up adds up after every step. -/
theorem AddsUp.step (addsUp : AddsUp known initial before history)
    (step : ServiceStep (GuardStage.surroundings run) (fun change => known change.service)
      (fun before after => before.Plain → before.Undisturbed after) before after given) :
    AddsUp known initial after (history ++ given) := by
  cases step with
  | quiet same =>
    have undisturbed := same addsUp.plain
    rw [List.append_nil]
    refine ⟨undisturbed.plain addsUp.plain, fun name counted => ?_, fun unbound => ?_,
      fun careful => ?_⟩
    · rw [undisturbed.duties]
      exact addsUp.duties name counted
    · rw [undisturbed.table, totalCount, undisturbed.duties]
      exact addsUp.rows unbound
    · rw [undisturbed.table]
      exact addsUp.held careful
  | @acquired lock service middle own created =>
    obtain ⟨-, free, rfl⟩ | ⟨⟨error, failed⟩, -⟩ := created_iff addsUp.plain run created
    · exact addsUp.counted own (fun _ => rfl) (Dictionary.size_insert free lock) fun careful =>
        (addsUp.held fun name => (careful name).last.1).acquire free service
    · cases failed
  | @released lockId service middle own deleted =>
    obtain ⟨-, ⟨holder, present⟩, rfl⟩ | ⟨⟨error, failed⟩, -⟩ := deleted_iff addsUp.plain run deleted
    · refine addsUp.counted own (fun _ => rfl) (Dictionary.size_erase present) fun careful => ?_
      have mine : lockId ∈ heldIds service history := (careful service).last.2 rfl
      exact (addsUp.held fun name => (careful name).last.1).release mine
    · cases failed
  | @bound service requestId own =>
    refine ⟨addsUp.plain.congr (GuardStage.remote_keep _ _) (GuardStage.faults_keep _ _),
      fun name counted => ?_, fun unbound => ?_, fun careful => ?_⟩
    · exact (isSome_changeDuty _ service name _).trans (addsUp.duties name counted)
    · exact (unbound service (List.mem_append_right _ List.mem_cons_self)).elim
    · have held := (addsUp.held fun name => (careful name).last.1).bind service
      rwa [show (GuardStage.surroundings run).keep (.bound service requestId) before =
        GuardStage.keep (.bound service requestId) before from rfl, GuardStage.table_keep]

end Rows

/-- What the count of a service says after some calls. -/
structure CountedExactly (surroundings : Surroundings (guardInterface Step Reply) (GuardStage ν))
    (name : String) (crew : Crew ν Step Reply ServiceReturn) : Prop where
  /-- It is the number of acquisitions less that of releases, since the service got its request. -/
  count : crew.stage.lockCount name = countOf name (changes crew.results)
  /-- A turn in which the service neither acquires nor releases a lock nor gets a request leaves the
  count, whatever else happens or fails in it. -/
  unchanged : ∀ place given, (crew.workIn surroundings place).results = crew.results ++ given →
    (∀ change ∈ changes given, change.service ≠ name) →
      (crew.workIn surroundings place).stage.lockCount name = crew.stage.lockCount name
  /-- The end of a request gives the count. -/
  finished : ∀ service : LockService, service.name = name →
    ((service.finish : Guarded Step Reply Int).run surroundings crew.stage).1 =
      crew.stage.lockCount name
  /-- A careful service has as many locks as it counts, and none exactly if that is what the end of
  a request gives. -/
  held : Careful name (changes crew.results) →
    crew.stage.lockCount name = (heldIds name (changes crew.results)).length ∧
      ∀ service : LockService, service.name = name →
        (((service.finish : Guarded Step Reply Int).run surroundings crew.stage).1 = 0 ↔
          heldIds name (changes crew.results) = [])

/-- What the counts of all services say about a table in memory. -/
structure RowsCounted (initial : LockTable) (crew : Crew ν Step Reply ServiceReturn) : Prop where
  /-- Without new requests, the counts add up to the rows that have been added. -/
  rows : (∀ service, .bound service ∉ changes crew.results) →
    (crew.stage.table.size : Int) = initial.size + crew.stage.duties.total Duty.count
  /-- If all services are careful, the rows that have been added are the locks they hold. -/
  held : (∀ name, Careful name (changes crew.results)) →
    HoldsRows initial crew.stage.table (changes crew.results)

section Runs

variable {surroundings : Surroundings (guardInterface Step Reply) (GuardStage ν)} {name : String}
  {crew : Crew ν Step Reply ServiceReturn}

/-- A count that is that of the changes is exact. -/
theorem HasCount.exact (counting : KeepsCounts surroundings) (remain : AllRemain (fun _ => True) crew)
    (counted : HasCount crew.stage name (countOf name (changes crew.results))) :
    CountedExactly surroundings name crew := by
  have finished : ∀ service : LockService, service.name = name →
      ((service.finish : Guarded Step Reply Int).run surroundings crew.stage).1 =
        crew.stage.lockCount name := by
    rintro service rfl
    exact run_finish counting service crew.stage
  refine ⟨counted.lockCount, fun place given results others => ?_, finished, fun careful => ?_⟩
  · cases waiting : crew.rest[place]? with
    | none => rw [Crew.workIn_of_none waiting]
    | some program =>
      obtain ⟨made, same, step, -⟩ := remain.work counting.harmless waiting
      obtain rfl : made = given := List.append_cancel_left (same.symm.trans results)
      exact lockCount_step counting step others
  · have held : crew.stage.lockCount name = (heldIds name (changes crew.results)).length :=
      counted.lockCount.trans careful.count_eq
    refine ⟨held, fun service own => ?_⟩
    rw [finished service own, held, Int.natCast_eq_zero, List.length_eq_zero_iff]

/-- Whatever answers some calls, the counts of their services are exact. -/
theorem countedExactly_after (counting : KeepsCounts surroundings) (calls : List ServiceCall)
    {stage : GuardStage ν} (fresh : HasCount stage name 0) (schedule : List Turn) :
    CountedExactly surroundings name ((Crew.start stage (calls.map fun call =>
      (call.program : Guarded Step Reply ServiceReturn))).afterIn surroundings schedule) := by
  have run := serviceStep_induction counting.harmless
    (fun stage history => HasCount stage name (countOf name history)) calls fresh
    (fun _ _ _ _ => trivial) (fun counted step => counted.step counting step)
    (fun _ counted => counted) schedule
  exact run.2.exact counting run.1

/-- On a plain stage the counts of some calls are those of the rows. -/
theorem rowsCounted_after (run : Step → GuardStage ν → Reply × GuardStage ν)
    (calls : List ServiceCall) {stage : GuardStage ν} (plain : stage.Plain)
    (fresh : ∀ duty ∈ stage.duties.values, duty.count = 0)
    (known : ∀ call, .lock call ∈ calls → (stage.duties.find? call.service.name).isSome)
    (schedule : List Turn) :
    RowsCounted stage.table ((Crew.start stage (calls.map fun call =>
      (call.program : Guarded Step Reply ServiceReturn))).after run schedule) := by
  let counted : String → Prop := fun name => (stage.duties.find? name).isSome
  have start : AddsUp counted stage.table stage [] := by
    refine ⟨plain, fun name counted => counted, fun _ => ?_, fun _ => .start stage.table⟩
    rw [totalCount, Dictionary.total_eq_zero fresh, Int.add_zero]
  have own : ∀ call, .lock call ∈ calls → ∀ change : LockChange,
      change.service = call.service.name → counted change.service := by
    intro call member change same
    rw [same]
    exact known call member
  obtain ⟨-, addsUp⟩ := serviceStep_induction (harmless_plain run) (AddsUp counted stage.table)
    calls start own (fun addsUp step => addsUp.step step)
    (fun now addsUp => ⟨addsUp.plain.congr rfl rfl, addsUp.duties, addsUp.rows, addsUp.held⟩)
    schedule
  exact ⟨addsUp.rows, addsUp.held⟩

end Runs

/-- Counts are exact. Whatever answers the calls of some services, in whatever order they make their
requests, each counts its own acquisitions and releases. On a table in memory the counts are those of
the rows. -/
theorem counts_exact (calls : List ServiceCall) (stage : GuardStage ν) (schedule : List Turn) :
    let crew := Crew.start stage
      (calls.map fun call => (call.program : Guarded Step Reply ServiceReturn))
    (∀ surroundings, KeepsCounts surroundings → ∀ name, HasCount stage name 0 →
      CountedExactly surroundings name (crew.afterIn surroundings schedule)) ∧
    ∀ run, stage.Plain → (∀ duty ∈ stage.duties.values, duty.count = 0) →
      (∀ call, .lock call ∈ calls → (stage.duties.find? call.service.name).isSome) →
        RowsCounted stage.table (crew.after run schedule) := by
  intro crew
  constructor
  · intro surroundings counting name fresh
    exact countedExactly_after counting calls fresh schedule
  · intro run plain fresh known
    exact rowsCounted_after run calls plain fresh known schedule

/-- Two services want the same lock: the one that gets it counts it, and the other one does not. -/
theorem counts_exact_conflict :
    let calls : List ServiceCall := [.lock (.acquire firstService sharedKey JsonObject.empty),
      .lock (.tryAcquire secondService sharedKey JsonObject.empty)]
    let schedule : List Turn := [.work 0, .work 1, .work 0, .work 1, .work 0, .work 1, .work 1,
      .work 1]
    let idle := fun (_ : Unit) (stage : GuardStage Unit) => ((), stage)
    let crew := (Crew.start sharedStage (calls.map fun call =>
      (call.program : Guarded Unit Unit ServiceReturn))).after idle schedule
    KeepsCounts (GuardStage.surroundings idle) ∧ sharedStage.Plain ∧
      HasCount sharedStage "first" 0 ∧ HasCount sharedStage "second" 0 ∧
      changes crew.results = [.acquired "first" sharedKey.id] ∧ crew.results.length = 2 ∧
      CountedExactly (GuardStage.surroundings idle) "first" crew ∧
      CountedExactly (GuardStage.surroundings idle) "second" crew ∧
      RowsCounted sharedStage.table crew := by
  intro calls schedule idle crew
  have counting : KeepsCounts (GuardStage.surroundings idle) := keepsCounts_surroundings idle
  have plain : sharedStage.Plain := .of_empty rfl rfl
  have first : HasCount sharedStage "first" 0 := ⟨_, rfl, rfl⟩
  have second : HasCount sharedStage "second" 0 := ⟨_, rfl, rfl⟩
  have known : ∀ call, .lock call ∈ calls →
      (sharedStage.duties.find? call.service.name).isSome := by
    intro call member
    obtain rfl | rfl : call = .acquire firstService sharedKey JsonObject.empty ∨
        call = .tryAcquire secondService sharedKey JsonObject.empty := by simpa [calls] using member
    · rfl
    · rfl
  have counted := @counts_exact Unit Unit Unit calls sharedStage schedule
  exact ⟨counting, plain, first, second, by decide +kernel, by decide +kernel,
    counted.1 _ counting "first" first, counted.1 _ counting "second" second,
    counted.2 idle plain (by decide +kernel) known⟩

end ControlPlane.Rehearsal
