import ControlPlane.Proofs.Policy.Critical
import ControlPlane.Proofs.Rehearsal.Crew
import Mathlib.Data.List.Nodup

/-!
# Updates under contention

Any number of updates of one store under one lock, in any order of their requests, act as if those
that succeed had been made one after another, in the order in which they have acquired the lock
(`no_lost_update`). The invariant (`Contended`) says how far they have come: either nobody has the
lock, and the store holds the edited policy, or one update is in its critical section, which leads
to what the store is to hold; all others are outside theirs.
-/
namespace ControlPlane.Protection

open Rehearsal

variable {ν Step Reply α ε : Type}

/-- An update of the protection in a store, but for the store and the key of its lock. -/
structure UpdateCall (Step Reply α ε : Type) where
  /-- The service that takes the lock. -/
  service : LockService
  /-- Whom the guard keeps from deleting. -/
  principal : String
  /-- How the guarded resources are to change. -/
  edit : Edit
  /-- How an error of the update becomes the error of the operation. -/
  lift : UpdateError → ε
  /-- How an error of the operation is worded in reports. -/
  describe : ε → String
  /-- What is done while the policy is changed. -/
  body : Guarded Step Reply (Except ε α)

/-- Do the update. -/
def UpdateCall.program (call : UpdateCall Step Reply α ε) (store : String) (key : LockKey) :
    Guarded Step Reply (Except ε α) :=
  update call.service store key call.principal call.edit call.lift call.describe call.body

/-- The operation of a place has ended without an error. -/
def succeeded (rest : List (Guarded Step Reply (Except ε α))) (place : Nat) : Bool :=
  match rest[place]? with
  | some (.done (.ok _)) => true
  | _ => false

/-- What a policy has become by the edits of the updates of some places, one after another, with
none in the place of a policy that has no statements left. -/
inductive Edited (updates : List (UpdateCall Step Reply α ε)) (before : Option PolicyDocument) :
    List Nat → Option PolicyDocument → Prop where
  /-- Before any update it is the policy of the beginning. -/
  | start : Edited updates before [] before
  /-- One more update edits it, and leaves it alone if it is as it should be already. -/
  | next {places : List Nat} {place : Nat} {call : UpdateCall Step Reply α ε}
      {held : Option PolicyDocument} {changed : Option PolicyDocument}
      (earlier : Edited updates before places held) (called : updates[place]? = some call)
      (edited : call.edit.applyToStored held call.principal = .ok changed) :
      Edited updates before (places ++ [place]) (changed.elim held storable)

/-- An exchange that puts nothing into a store and is not a step of a body. -/
def Aside (store : String) (exchange : GuardExchange Step Reply) : Prop :=
  written? store exchange = none ∧ ∀ step, exchange.1 ≠ .step step

/-- Exchanges and a result of an update: those of its body in between, or an error without it. -/
def Concludes (store : String) (body : Guarded Step Reply (Except ε α))
    (exchanges : List (GuardExchange Step Reply)) (result : Except ε α) : Prop :=
  (∃ front work back, exchanges = front ++ work ++ back ∧
      Program.Path body work (.done result)) ∨
    (∃ error, result = .error error) ∧ ∀ exchange ∈ exchanges, Aside store exchange

section Rest

variable {rest : List (Guarded Step Reply (Except ε α))} {place : Nat}
  {left : Guarded Step Reply (Except ε α)}

/-- Another operation's step does not decide whether one has succeeded. -/
theorem succeeded_set_of_ne {other : Nat} (different : place ≠ other) :
    succeeded (rest.set place left) other = succeeded rest other := by
  unfold succeeded
  rw [List.getElem?_set_ne different]

/-- A step of an operation without a round of its own leaves those that have succeeded in theirs. -/
theorem filter_succeeded_set (rest : List (Guarded Step Reply (Except ε α)))
    (left : Guarded Step Reply (Except ε α)) {past : List Nat} (fresh : place ∉ past) :
    past.filter (succeeded (rest.set place left)) = past.filter (succeeded rest) := by
  refine List.filter_congr fun other member => succeeded_set_of_ne ?_
  rintro rfl
  exact fresh member

end Rest

section Invariant

variable (run : Step → GuardStage ν → Reply × GuardStage ν)
  (updates : List (UpdateCall Step Reply α ε)) (store : String) (key : LockKey)
  (before : Option PolicyDocument)

/-- What is left of an update outside its critical section. -/
def Outside (call : UpdateCall Step Reply α ε) (program : Guarded Step Reply (Except ε α)) : Prop :=
  LockService.Attempting (Enters (GuardRequest.Spares run key.id store) call.service.name key.id
    store call.principal call.edit) Fails program ∨ ∃ result, program = .done result

/-- All updates are outside their critical sections, except for that of one place. -/
def AllOutside (inside : Option Nat) (rest : List (Guarded Step Reply (Except ε α))) : Prop :=
  ∀ (place : Nat) (call : UpdateCall Step Reply α ε) (program : Guarded Step Reply (Except ε α)),
    some place ≠ inside → updates[place]? = some call → rest[place]? = some program →
      Outside run store key call program

/-- Either nobody has the lock, or one update is in its critical section. -/
inductive Phase (past : List Nat) (crew : Crew ν Step Reply (Except ε α)) : Prop where
  /-- Nobody has the lock, and the policy is the one that the updates have made. -/
  | free {policy : Option PolicyDocument} (row : crew.stage.table.find? key.id = none)
      (holds : crew.stage.HoldsPolicy store policy)
      (edited : Edited updates before (past.filter (succeeded crew.rest)) policy)
      (changes : lockChanges key.id crew.calls = rounds past)
      (outside : AllOutside run updates store key none crew.rest) : Phase past crew
  /-- One update has the lock, and began with the policy that those before it have made. -/
  | taken {holder : Nat} {call : UpdateCall Step Reply α ε}
      {program : Guarded Step Reply (Except ε α)} {found held : Option PolicyDocument} {lock : Lock}
      (row : crew.stage.table.find? key.id = some lock)
      (holds : crew.stage.HoldsPolicy store held)
      (edited : Edited updates before (past.filter (succeeded crew.rest)) found)
      (changes : lockChanges key.id crew.calls = rounds past ++ [(holder, true)])
      (called : updates[holder]? = some call) (waiting : crew.rest[holder]? = some program)
      (critical : Critical (GuardRequest.Spares run key.id store) call.service.name key.id store
        (Settles call.principal call.edit found) held program)
      (outside : AllOutside run updates store key (some holder) crew.rest) : Phase past crew

/-- Updates of one store under one lock, as far as they have come. -/
structure Contended (past : List Nat) (crew : Crew ν Step Reply (Except ε α)) : Prop where
  /-- The table is in memory and does not fail. -/
  plain : crew.stage.Plain
  /-- Each update has its place. -/
  length : crew.rest.length = updates.length
  /-- No access of the store and no deletion of the lock has failed. -/
  smooth : ∀ call ∈ crew.calls, Smooth key.id store call.2
  /-- No update has been in its critical section twice. -/
  nodup : past.Nodup
  /-- The updates that have left their critical sections are done. -/
  finished : ∀ place ∈ past, ∃ result, crew.rest[place]? = some (.done result)
  /-- An update that has succeeded has been in its critical section. -/
  listed : ∀ place, succeeded crew.rest place = true → place ∈ past
  /-- Nobody has the lock, or one update is in its critical section. -/
  phase : Phase run updates store key before past crew

end Invariant

section Steps

variable {run : Step → GuardStage ν → Reply × GuardStage ν}
  {updates : List (UpdateCall Step Reply α ε)} {store : String} {key : LockKey}
  {before : Option PolicyDocument} {past : List Nat} {crew : Crew ν Step Reply (Except ε α)}
  {place : Nat} {program left : Guarded Step Reply (Except ε α)}

/-- All but one are outside after a step of one that is, or of that one. -/
theorem AllOutside.set {inside later : Option Nat}
    {rest : List (Guarded Step Reply (Except ε α))}
    (outside : AllOutside run updates store key inside rest)
    (others : ∀ other, other ≠ place → some other ≠ later → some other ≠ inside)
    (here : some place ≠ later → ∀ call, updates[place]? = some call →
      Outside run store key call left) :
    AllOutside run updates store key later (rest.set place left) := by
  intro other call current apart called found
  by_cases same : place = other
  · subst same
    obtain ⟨within, -⟩ := List.getElem?_eq_some_iff.mp found
    rw [List.length_set] at within
    obtain rfl := Option.some.inj ((List.getElem?_set_self within).symm.trans found)
    exact here apart call called
  · rw [List.getElem?_set_ne same] at found
    exact outside other call current (others other (Ne.symm same) apart) called found

/-- An update that goes on has not had its round. -/
theorem Contended.fresh (contended : Contended run updates store key before past crew)
    (waiting : crew.rest[place]? = some program) (going : ∀ result, program ≠ .done result) :
    place ∉ past := by
  intro member
  obtain ⟨result, ended⟩ := contended.finished place member
  exact going result (Option.some.inj (waiting.symm.trans ended))

/-- What does not depend on the phase is kept by a step that meets no refusal. -/
theorem Contended.next (contended : Contended run updates store key before past crew)
    (waiting : crew.rest[place]? = some program) {after : GuardStage ν}
    {made : List (GuardExchange Step Reply)} {results : List (Except ε α)} {later : List Nat}
    (going : ∀ result, program ≠ .done result) (plain : after.Plain)
    (smooth : ∀ call ∈ made, Smooth key.id store call) (nodup : later.Nodup)
    (sub : ∀ other ∈ past, other ∈ later)
    (finished : ∀ other ∈ later, other ∈ past ∨ other = place ∧ ∃ result, left = .done result)
    (listed : (∃ value, left = .done (.ok value)) → place ∈ later)
    (phase : Phase run updates store key before later ⟨after, crew.rest.set place left,
      crew.calls ++ made.map fun call => (place, call), results⟩) :
    Contended run updates store key before later ⟨after, crew.rest.set place left,
      crew.calls ++ made.map fun call => (place, call), results⟩ := by
  have fresh := contended.fresh waiting going
  obtain ⟨within, -⟩ := List.getElem?_eq_some_iff.mp waiting
  refine ⟨plain, by simpa using contended.length, ?_, nodup, ?_, ?_, phase⟩
  · intro call member
    rcases List.mem_append.mp member with earlier | new
    · exact contended.smooth call earlier
    · obtain ⟨exchange, made, rfl⟩ := List.mem_map.mp new
      exact smooth exchange made
  · intro other member
    rcases finished other member with earlier | ⟨rfl, result, rfl⟩
    · have different : place ≠ other := fun same => fresh (same ▸ earlier)
      change ∃ result, (crew.rest.set place left)[other]? = some (.done result)
      rw [List.getElem?_set_ne different]
      exact contended.finished other earlier
    · exact ⟨result, List.getElem?_set_self within⟩
  · intro other success
    by_cases same : place = other
    · subst same
      refine listed ?_
      change succeeded (crew.rest.set place left) place = true at success
      unfold succeeded at success
      rw [List.getElem?_set_self within] at success
      split at success
      · next value ended => exact ⟨value, Option.some.inj ended⟩
      · cases success
    · change succeeded (crew.rest.set place left) other = true at success
      rw [succeeded_set_of_ne same] at success
      exact sub other (contended.listed other success)

/-- An update does not succeed without its lock. -/
theorem not_attempting_ok {won : Lock → Guarded Step Reply (Except ε α) → Prop} {value : α}
    (attempting : LockService.Attempting won Fails (.done (.ok value))) : False := by
  cases attempting with
  | lost fails =>
    obtain ⟨error, same⟩ := fails
    cases same

/-- An update that looks around leaves everything as it is. -/
theorem Contended.look (contended : Contended run updates store key before past crew)
    {call : UpdateCall Step Reply α ε} (called : updates[place]? = some call)
    (waiting : crew.rest[place]? = some program) (going : ∀ result, program ≠ .done result)
    (later : LockService.Attempting (Enters (GuardRequest.Spares run key.id store) call.service.name
      key.id store call.principal call.edit) Fails left)
    {after : GuardStage ν} {made : List (GuardExchange Step Reply)} {results : List (Except ε α)}
    (undisturbed : crew.stage.Undisturbed after)
    (looking : ∀ call ∈ made, call.1.Looks ∨
      ∃ lock error, call = (GuardRequest.create lock).gets (.error error))
    (elsewhere : ∀ holder, lockChanges key.id crew.calls = rounds past ++ [(holder, true)] →
      place ≠ holder) :
    Contended run updates store key before past ⟨after, crew.rest.set place left,
      crew.calls ++ made.map fun call => (place, call), results⟩ := by
  have fresh := contended.fresh waiting going
  have quiet : lockChanges key.id (crew.calls ++ made.map fun call => (place, call)) =
      lockChanges key.id crew.calls := lockChanges_append_quiet (lockChange?_eq_none looking)
  have unchanged := filter_succeeded_set crew.rest left fresh
  have sameRow : after.table.find? key.id = crew.stage.table.find? key.id := by
    rw [undisturbed.table]
  refine contended.next waiting going (undisturbed.plain contended.plain) ?_ contended.nodup
    (fun _ member => member) (fun _ member => .inl member) ?_ ?_
  · intro exchange member
    obtain looks | ⟨lock, error, rfl⟩ := looking exchange member
    · exact smooth_of_looks looks
    · trivial
  · rintro ⟨value, rfl⟩
    exact (not_attempting_ok later).elim
  · cases contended.phase with
    | @free policy row holds edited changes outside =>
      have kept : after.HoldsPolicy store policy := holds.congr (by rw [undisturbed.shelves])
      have others : AllOutside run updates store key none (crew.rest.set place left) := by
        refine outside.set (fun _ _ apart => apart) fun _ other otherCalled => ?_
        obtain rfl := Option.some.inj (called.symm.trans otherCalled)
        exact .inl later
      exact .free (sameRow.trans row) kept (unchanged ▸ edited) (quiet.trans changes) others
    | @taken holder inner inside found held lock row holds edited changes innerCalled entered
        critical outside =>
      have different := elsewhere holder changes
      have kept : after.HoldsPolicy store held := holds.congr (by rw [undisturbed.shelves])
      have others : AllOutside run updates store key (some holder) (crew.rest.set place left) := by
        refine outside.set (fun _ _ apart => apart) fun _ other otherCalled => ?_
        obtain rfl := Option.some.inj (called.symm.trans otherCalled)
        exact .inl later
      have stays : (crew.rest.set place left)[holder]? = some inside :=
        (List.getElem?_set_ne different).trans entered
      exact .taken (sameRow.trans row) kept (unchanged ▸ edited) (quiet.trans changes) innerCalled
        stays critical others

/-- A critical section has not ended. -/
theorem Critical.ne_done {spared : GuardRequest Step → Prop} {service lockId : String}
    {settles : Except ε α → Option PolicyDocument → Prop} {held : Option PolicyDocument}
    (critical : Critical spared service lockId store settles held program) (result : Except ε α) :
    program ≠ .done result := by
  rintro rfl
  cases critical

/-- An update that creates the lock enters its critical section, with the policy as it is. -/
theorem Contended.enter (contended : Contended run updates store key before past crew)
    {call : UpdateCall Step Reply α ε} (called : updates[place]? = some call) {lock : Lock}
    {next : Except LockTableError Unit → Guarded Step Reply (Except ε α)}
    (waiting : crew.rest[place]? = some (.ask (.create lock) next))
    (enters : Enters (GuardRequest.Spares run key.id store) call.service.name key.id store
      call.principal call.edit lock (next (.ok ())))
    (vacant : crew.stage.table.find? lock.id = none) :
    Contended run updates store key before past (crew.work run place) := by
  obtain ⟨same, critical⟩ := enters
  have fresh := contended.fresh waiting (by simp)
  have answered : GuardStage.answer run (.create lock) crew.stage =
      (.ok (), { crew.stage with table := crew.stage.table.insert lock.id lock }) := by
    rw [contended.plain.answer_create, LockTable.create_of_find?_none vacant]
  rw [Crew.work, Crew.workIn_of_some waiting, GuardStage.step_ask answered,
    GuardStage.stepExchange_ask answered]
  cases contended.phase with
  | @free policy row holds edited changes outside =>
    -- The critical section begins with whatever policy the store holds when the lock is created.
    have settled := (critical policy).settle run
      { crew.stage with table := crew.stage.table.insert lock.id lock }
    generalize (next (.ok ())).settle (GuardStage.surroundings run)
      { crew.stage with table := crew.stage.table.insert lock.id lock } = after at settled ⊢
    obtain ⟨left, stage⟩ := after
    obtain ⟨inside, unchanged⟩ := settled
    refine contended.next waiting (by simp) ?_ ?_ contended.nodup (fun _ member => member)
      (fun _ member => .inl member) ?_ ?_
    · exact unchanged.plain (contended.plain.congr rfl rfl)
    · intro exchange member
      rw [List.mem_singleton.mp member]
      trivial
    · rintro ⟨value, ended⟩
      exact absurd ended (inside.ne_done _)
    · have created : stage.table.find? key.id = some lock := by
        rw [unchanged.table, Dictionary.find?_insert, if_pos same]
      have kept : stage.HoldsPolicy store policy := holds.congr (by rw [unchanged.shelves])
      have taken : lockChange? key.id ((GuardRequest.create lock).gets (.ok ()) :
          GuardExchange Step Reply) = some true := if_pos same
      obtain ⟨within, -⟩ := List.getElem?_eq_some_iff.mp waiting
      refine .taken created kept (filter_succeeded_set crew.rest left fresh ▸ edited) ?_ called
        (List.getElem?_set_self within) inside ?_
      · exact (lockChanges_append_change taken).trans (by rw [changes])
      · exact outside.set (fun _ _ _ => by simp) fun apart => absurd rfl apart
  | taken row =>
    -- While somebody has the lock its row is in the table, and no other can be created.
    rw [same, row] at vacant
    cases vacant

/-- The end of a critical section adds the edit of the update, if it has succeeded. -/
theorem Edited.release {call : UpdateCall Step Reply α ε}
    {rest : List (Guarded Step Reply (Except ε α))} {found held : Option PolicyDocument}
    {result : Except ε α} (edited : Edited updates before (past.filter (succeeded rest)) found)
    (called : updates[place]? = some call) (waiting : rest[place]? = some program)
    (fresh : place ∉ past) (settled : Settles call.principal call.edit found result held) :
    Edited updates before
      ((past ++ [place]).filter (succeeded (rest.set place (.done result)))) held := by
  obtain ⟨within, -⟩ := List.getElem?_eq_some_iff.mp waiting
  have ended : (rest.set place (.done result))[place]? = some (.done result) :=
    List.getElem?_set_self within
  rw [List.filter_append, filter_succeeded_set rest (.done result) fresh]
  cases result with
  | ok value =>
    obtain ⟨changed, applied, rfl⟩ := settled
    have success : [place].filter (succeeded (rest.set place (.done (.ok value)))) = [place] := by
      simp [succeeded, ended]
    rw [success]
    exact edited.next called applied
  | error error =>
    obtain rfl : held = found := settled
    have failure : [place].filter (succeeded (rest.set place (.done (.error error)))) = [] := by
      simp [succeeded, ended]
    rw [failure, List.append_nil]
    exact edited

/-- The update that has the lock goes on in its critical section, or ends and releases the lock. -/
theorem Contended.leave (contended : Contended run updates store key before past crew)
    {call : UpdateCall Step Reply α ε} {found held : Option PolicyDocument} {lock : Lock}
    (row : crew.stage.table.find? key.id = some lock) (holds : crew.stage.HoldsPolicy store held)
    (edited : Edited updates before (past.filter (succeeded crew.rest)) found)
    (changes : lockChanges key.id crew.calls = rounds past ++ [(place, true)])
    (called : updates[place]? = some call) (waiting : crew.rest[place]? = some program)
    (critical : Critical (GuardRequest.Spares run key.id store) call.service.name key.id store
      (Settles call.principal call.edit found) held program)
    (outside : AllOutside run updates store key (some place) crew.rest) :
    ∃ later, Contended run updates store key before later (crew.work run place) := by
  have fresh := contended.fresh waiting critical.ne_done
  obtain ⟨within, -⟩ := List.getElem?_eq_some_iff.mp waiting
  have smooth := smooth_step run program contended.plain row holds
  obtain ⟨stepped, plain⟩ := critical.step contended.plain row holds
  rw [Crew.work, Crew.workIn_of_some waiting]
  generalize program.step (GuardStage.surroundings run) crew.stage = after at stepped plain ⊢
  generalize program.stepExchange (GuardStage.surroundings run) crew.stage = made
    at stepped smooth ⊢
  obtain ⟨left, stage⟩ := after
  cases stepped with
  | @within policy inside rowKept kept quiet =>
    refine ⟨past, contended.next waiting critical.ne_done plain smooth contended.nodup
      (fun _ member => member) (fun _ member => .inl member) ?_ ?_⟩
    · rintro ⟨value, ended⟩
      exact absurd ended (inside.ne_done _)
    · refine .taken rowKept kept (filter_succeeded_set crew.rest left fresh ▸ edited)
        ((lockChanges_append_quiet quiet).trans changes) called (List.getElem?_set_self within)
        inside ?_
      exact outside.set (fun _ _ apart => apart) fun apart => absurd rfl apart
  | @released result ended settled rowFree kept freed =>
    obtain rfl : left = .done result := ended
    obtain rfl := freed
    have last : place ∈ past ++ [place] := List.mem_append_right past (List.mem_singleton.mpr rfl)
    have nodup : (past ++ [place]).Nodup :=
      List.nodup_append_comm.mpr (List.nodup_cons.mpr ⟨fresh, contended.nodup⟩)
    -- The release ends the round: the update joins those that have had the lock.
    refine ⟨past ++ [place], contended.next waiting critical.ne_done plain smooth nodup
      (fun _ member => List.mem_append_left _ member) ?_ (fun _ => last) ?_⟩
    · intro other member
      rcases List.mem_append.mp member with earlier | final
      · exact .inl earlier
      · exact .inr ⟨List.mem_singleton.mp final, result, rfl⟩
    · refine .free rowFree kept (edited.release called waiting fresh settled) ?_ ?_
      · have freed : lockChange? key.id ((GuardRequest.delete key.id).gets (.ok ()) :
            GuardExchange Step Reply) = some false := if_pos rfl
        exact (lockChanges_append_change freed).trans (by rw [changes, rounds_append])
      · exact outside.set (fun _ different _ => by simpa using different)
          fun _ _ _ => .inr ⟨result, rfl⟩

/-- A step outside the critical section keeps the invariant. -/
theorem Contended.step (contended : Contended run updates store key before past crew)
    {call : UpdateCall Step Reply α ε} (called : updates[place]? = some call)
    (waiting : crew.rest[place]? = some program) (going : ∀ result, program ≠ .done result)
    (outside : Outside run store key call program)
    (elsewhere : ∀ holder, lockChanges key.id crew.calls = rounds past ++ [(holder, true)] →
      place ≠ holder) :
    Contended run updates store key before past (crew.work run place) := by
  obtain attempting | ⟨result, rfl⟩ := outside
  · obtain ⟨later, undisturbed, looking⟩ | ⟨lock, next, rfl, enters, vacant⟩ :=
      attempting.step run contended.plain
    · rw [Crew.work, Crew.workIn_of_some waiting]
      exact contended.look called waiting going later undisturbed looking elsewhere
    · exact contended.enter called waiting enters vacant
  · exact absurd rfl (going result)

/-- A step of an update keeps the invariant. -/
theorem Contended.work (contended : Contended run updates store key before past crew)
    (waiting : crew.rest[place]? = some program) :
    ∃ later, Contended run updates store key before later (crew.work run place) := by
  by_cases ended : ∃ result, program = .done result
  · obtain ⟨result, rfl⟩ := ended
    rw [Crew.work, Crew.workIn_of_done waiting]
    exact ⟨past, contended⟩
  · have going : ∀ result, program ≠ .done result := fun result same => ended ⟨result, same⟩
    obtain ⟨within, -⟩ := List.getElem?_eq_some_iff.mp waiting
    rw [contended.length] at within
    have called : updates[place]? = some updates[place] := List.getElem?_eq_getElem within
    cases contended.phase with
    | free row holds edited changes outside =>
      have here := outside place _ program (by simp) called waiting
      refine ⟨past, contended.step called waiting going here fun holder same => ?_⟩
      rw [changes] at same
      simp at same
    | @taken holder inner inside found held lock row holds edited changes innerCalled entered
        critical outside =>
      by_cases same : place = holder
      · subst same
        obtain rfl := Option.some.inj (entered.symm.trans waiting)
        exact contended.leave row holds edited changes innerCalled entered critical outside
      · have here := outside place _ program (by simpa using same) called waiting
        refine ⟨past, contended.step called waiting going here fun other equal => ?_⟩
        rw [changes] at equal
        have last : holder = other := by simpa using equal
        exact last ▸ same

/-- If the store refuses nothing, a course gives the result of its body, or an error without it. -/
theorem EditCourse.concludes {principal lockId : String} {edit : Edit} {lift : UpdateError → ε}
    {body : Guarded Step Reply (Except ε α)} {inner : List (GuardExchange Step Reply)}
    {outcome : Except ε α} (course : EditCourse store principal edit lift body inner outcome)
    (smooth : ∀ exchange ∈ inner, Smooth lockId store exchange) :
    Concludes store body inner outcome := by
  cases course with
  | unfetched failure =>
    have refused := smooth ((GuardRequest.fetch store).gets (.error failure)) (by simp)
    exact absurd rfl refused
  | refused edited => exact .inr ⟨⟨_, rfl⟩, by simp [Aside]⟩
  | @kept stored work _ edited worked =>
    exact .inl ⟨[(GuardRequest.fetch store).gets (.ok stored)], work, [], by simp, worked⟩
  | @unwritten stored document edited failure =>
    have refused := smooth ((GuardRequest.put store (storable document)).gets (.error failure))
      (by simp)
    exact absurd rfl refused
  | @written stored document work value edited worked =>
    exact .inl ⟨[(GuardRequest.fetch store).gets (.ok stored),
      (GuardRequest.put store (storable document)).gets (.ok ())], work, [], by simp, worked⟩
  | @undone stored document work error edited worked answer =>
    exact .inl ⟨[(GuardRequest.fetch store).gets (.ok stored),
      (GuardRequest.put store (storable document)).gets (.ok ())], work,
      [(GuardRequest.put store stored).gets answer], by simp, worked⟩

/-- An update that has ended gives the result of its body, or an error without it. -/
theorem Contended.concludes (contended : Contended run updates store key before past crew)
    {call : UpdateCall Step Reply α ε} {result : Except ε α}
    (path : Program.Path (call.program store key) (crew.view place) (.done result)) :
    Concludes store call.body (crew.view place) result := by
  have smooth : ∀ exchange ∈ crew.view place, Smooth key.id store exchange :=
    fun exchange member => contended.smooth _ (Crew.mem_view.mp member)
  generalize crew.view place = view at path smooth ⊢
  obtain ⟨requestId, now, ⟨outcome, error, attempt, given, rfl⟩ |
    ⟨inner, outcome, answer, holding, rfl, rfl⟩⟩ := LockService.path_withLock path
  · refine .inr ⟨⟨_, rfl⟩, ?_⟩
    cases attempt <;> simp [LockService.creation, Aside, written?]
  · -- Neither the release nor a request to the store is refused, so the result is that of the body.
    have released : answer = .ok () := by
      have last := smooth ((GuardRequest.delete key.id).gets answer)
        (List.mem_append_right _ (List.mem_singleton.mpr rfl))
      cases answer with
      | ok deleted => rfl
      | error error => exact absurd rfl last
    have within : ∀ exchange ∈ inner, Smooth key.id store exchange := by
      intro exchange member
      exact smooth exchange (by simp [member])
    rw [released, LockService.concluded_ok]
    obtain ⟨front, work, back, rfl, worked⟩ | ⟨failed, quiet⟩ :=
      (path_editStored holding).concludes within
    · let lock := Lock.ofKey key requestId JsonObject.empty now
      refine .inl ⟨call.service.creation lock (.ok ()) ++ front, work,
        back ++ [(GuardRequest.delete lock.id).gets (.ok ())], ?_, worked⟩
      simp only [List.append_assoc, lock]
    · refine .inr ⟨failed, ?_⟩
      simp only [List.forall_mem_append]
      exact ⟨⟨by simp [LockService.creation, Aside, written?], quiet⟩, by simp [Aside, written?]⟩

end Steps

end ControlPlane.Protection
