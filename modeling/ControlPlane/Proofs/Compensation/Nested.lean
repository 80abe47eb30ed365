import ControlPlane.Compensation
import ControlPlane.Proofs.Exchange
import Mathlib.Data.List.Forall2
import Mathlib.Logic.Function.Basic

/-!
# Nested compensation

Changes of resources are made one within the other around a body, and undone from the inside out if
the body or a further change fails. The resources are known by their places, and a place may occur
several times: then the state that is put back is the one that the change within has found.

One change that is made is undone at most once, after everything within it (`levelRun_withState`).
So the whole either keeps all changes or undoes all that were made (`nested_all_or_nothing`). Of the
surroundings it is only assumed that a resource keeps what is written to it (`KeepsStates`); reads
and writes may fail at any time, and the body may do anything, also to the resources.
-/
namespace ControlPlane.Compensation

/-- What nested operations ask for. Resources are known by their places. -/
inductive PlaceRequest {κ : Type} (State : κ → Type) (Step : Type) where
  /-- The state of a place. -/
  | read (place : κ)
  /-- Give a place a state. -/
  | write (place : κ) (state : State place)
  /-- Something else. -/
  | step (step : Step)

/-- The type of the answer to a request. -/
abbrev PlaceRequest.Answer {κ : Type} {State : κ → Type} {Step : Type} (Failure : κ → Type)
    (Reply : Type) : PlaceRequest State Step → Type
  | read place => Except (Failure place) (State place)
  | write place _ => Except (Failure place) Unit
  | step _ => Reply

/-- The requests, answers and marks of operations on several resources. -/
abbrev placeInterface {κ : Type} (State Failure : κ → Type) (Step Reply Mark : Type) : Interface :=
  ⟨PlaceRequest State Step, PlaceRequest.Answer Failure Reply, Mark⟩

/-- An operation on several resources. -/
abbrev Placed {κ : Type} (State Failure : κ → Type) (Step Reply Mark α : Type) : Type :=
  Program (placeInterface State Failure Step Reply Mark) α

/-- A request of an operation on several resources, with its answer. -/
abbrev PlaceExchange {κ : Type} (State Failure : κ → Type) (Step Reply Mark : Type) : Type :=
  Exchange (placeInterface State Failure Step Reply Mark)

/-- A new state for the resource of a place, and how failures of its accesses are passed on. -/
structure Change {κ : Type} (State Failure : κ → Type) (ε : Type) where
  /-- The place of the resource. -/
  place : κ
  /-- The state that it is to get. -/
  state : State place
  /-- The name of the resource, for reports. -/
  name : String
  /-- How a failure of an access becomes the error of the change. -/
  lift : Failure place → ε
  /-- How a failure of an access is worded in reports. -/
  describe : Failure place → String

variable {κ : Type} {State Failure : κ → Type} {Step Reply Mark α ε σ : Type}

namespace Placed

/-- Read the resource of a place, and go on with the answer. -/
abbrev read (place : κ)
    (next : Except (Failure place) (State place) → Placed State Failure Step Reply Mark α) :
    Placed State Failure Step Reply Mark α :=
  @Program.ask (placeInterface State Failure Step Reply Mark) α (.read place) next

/-- Write the resource of a place, and go on with the answer. -/
abbrev write (place : κ) (state : State place)
    (next : Except (Failure place) Unit → Placed State Failure Step Reply Mark α) :
    Placed State Failure Step Reply Mark α :=
  @Program.ask (placeInterface State Failure Step Reply Mark) α (.write place state) next

end Placed

namespace PlaceExchange

/-- The resource of a place has been read. -/
abbrev reads (place : κ) (answer : Except (Failure place) (State place)) :
    PlaceExchange State Failure Step Reply Mark := ⟨.read place, answer⟩

/-- The resource of a place has been written. -/
abbrev writes (place : κ) (state : State place) (answer : Except (Failure place) Unit) :
    PlaceExchange State Failure Step Reply Mark := ⟨.write place state, answer⟩

end PlaceExchange

/-- The accessor of the resource that is changed. -/
def Change.accessor (change : Change State Failure ε) :
    Accessor (placeInterface State Failure Step Reply Mark) (State change.place)
      (Failure change.place) where
  name := change.name
  read := Placed.read change.place .done
  write state := Placed.write change.place state .done

/-- Make changes one within the other around a body. -/
def nested (note : Event → Mark) (describe : ε → String)
    (body : Placed State Failure Step Reply Mark (Except ε α)) :
    List (Change State Failure ε) → Placed State Failure Step Reply Mark (Except ε α)
  | [] => body
  | change :: within =>
    withState note change.accessor change.lift describe change.describe change.state
      (nested note describe body within)

/-- The surroundings keep the states of resources: a state is what is read, and it changes when
another one is written, unless the write fails. -/
structure KeepsStates [DecidableEq κ]
    (surroundings : Surroundings (placeInterface State Failure Step Reply Mark) σ)
    (held : σ → ∀ place, State place) : Prop where
  /-- What is read is the state. -/
  read : ∀ {place state value}, (surroundings.answer (.read place) state).1 = .ok value →
    value = held state place
  /-- Reading changes no state. -/
  unchanged : ∀ {place state}, held (surroundings.answer (.read place) state).2 = held state
  /-- A write that succeeds changes the state of its place, and no other. -/
  written : ∀ {place value state}, (surroundings.answer (.write place value) state).1 = .ok () →
    held (surroundings.answer (.write place value) state).2 =
      Function.update (held state) place value
  /-- A write that fails changes no state. -/
  refused : ∀ {place value state failure},
    (surroundings.answer (.write place value) state).1 = .error failure →
      held (surroundings.answer (.write place value) state).2 = held state
  /-- Marks change no state. -/
  mark : ∀ {mark state}, held (surroundings.keep mark state) = held state

/-- A change that was made, with the state that it found. -/
structure Made {κ : Type} (State Failure : κ → Type) (ε : Type) where
  /-- The change. -/
  change : Change State Failure ε
  /-- The state that the change found. -/
  prior : State change.place

/-- The exchanges that make a change. -/
def Made.making (made : Made State Failure ε) : List (PlaceExchange State Failure Step Reply Mark) :=
  [.reads made.change.place (.ok made.prior),
    .writes made.change.place made.change.state (.ok ())]

/-- The exchange that undoes a change, with its answer. -/
def Made.undoing (made : Made State Failure ε) (answer : Except (Failure made.change.place) Unit) :
    PlaceExchange State Failure Step Reply Mark :=
  .writes made.change.place made.prior answer

section Level

/-- Changing a resource around a body, request by request. -/
theorem withState_eq (note : Event → Mark) (change : Change State Failure ε)
    (describe : ε → String) (body : Placed State Failure Step Reply Mark (Except ε α)) :
    withState note change.accessor change.lift describe change.describe change.state body =
      Placed.read change.place fun
        | .error failure => .done (.error (change.lift failure))
        | .ok prior => Placed.write change.place change.state fun
          | .error failure => .done (.error (change.lift failure))
          | .ok () => body.bind fun
            | .ok value => .done (.ok value)
            | .error error => rollBack note change.name (change.accessor.write prior) describe
              change.describe error := by
  refine congrArg (Placed.read change.place) (funext fun answer => ?_)
  cases answer with
  | error failure => rfl
  | ok prior =>
    refine congrArg (Placed.write change.place change.state) (funext fun answer => ?_)
    cases answer with
    | error failure => rfl
    | ok written =>
      refine congrArg (Program.bind body) (funext fun outcome => ?_)
      cases outcome <;> rfl

/-- Undoing a change, request by request. -/
theorem rollBack_eq (note : Event → Mark) (change : Change State Failure ε)
    (prior : State change.place) (describe : ε → String) (error : ε) :
    (rollBack note change.name (change.accessor.write prior) describe change.describe error :
        Placed State Failure Step Reply Mark (Except ε α)) =
      .leave (note (rollbackWarning change.name (describe error)))
        (Placed.write change.place prior fun
          | .ok () => .done (.error error)
          | .error failure =>
            .leave (note (rollbackReport change.name (change.describe failure)))
              (.done (.error error))) := by
  refine congrArg (fun next => Program.leave _ (Placed.write change.place prior next))
    (funext fun answer => ?_)
  cases answer <;> rfl

variable [DecidableEq κ]
  {surroundings : Surroundings (placeInterface State Failure Step Reply Mark) σ}
  {held : σ → ∀ place, State place}

/-- Undoing a change writes the state that it found, once, and gives the error that it was begun
for. -/
theorem undoing_rollBack (keeps : KeepsStates surroundings held) (note : Event → Mark)
    (describe : ε → String) (made : Made State Failure ε) (error : ε) (failed : σ) :
    let undoing : Placed State Failure Step Reply Mark (Except ε α) :=
      rollBack note made.change.name (made.change.accessor.write made.prior) describe
        made.change.describe error
    ∃ answer, undoing.exchanges surroundings failed = [made.undoing answer] ∧
      (undoing.run surroundings failed).1 = .error error ∧
      (answer = .ok () → held (undoing.run surroundings failed).2 =
        Function.update (held failed) made.change.place made.prior) := by
  intro undoing
  rw [show undoing = _ from rollBack_eq note made.change made.prior describe error,
    Program.exchanges, Program.run]
  cases writing : surroundings.answer (.write made.change.place made.prior)
    (surroundings.keep (note (rollbackWarning made.change.name (describe error))) failed) with
  | mk answer after =>
    refine ⟨answer, ?_⟩
    rw [Program.run_ask writing, Program.exchanges_ask writing]
    cases answer with
    | ok done =>
      refine ⟨rfl, rfl, fun _ => ?_⟩
      have back := keeps.written (congrArg Prod.fst writing)
      rwa [writing, keeps.mark] at back
    | error failure => exact ⟨rfl, rfl, fun same => by cases same⟩

/-- What changing a resource around a body does: the state after it, its exchanges, its result. -/
inductive LevelRun (surroundings : Surroundings (placeInterface State Failure Step Reply Mark) σ)
    (held : σ → ∀ place, State place) (change : Change State Failure ε)
    (body : Placed State Failure Step Reply Mark (Except ε α)) (before : σ) :
    σ → List (PlaceExchange State Failure Step Reply Mark) → Except ε α → Prop where
  /-- The resource cannot be read, and nothing changes. -/
  | unread {after : σ} (failure : Failure change.place) (same : held after = held before) :
      LevelRun surroundings held change body before after
        [.reads change.place (.error failure)] (.error (change.lift failure))
  /-- The resource cannot be written, and nothing changes. -/
  | unwritten {after : σ} (failure : Failure change.place) (same : held after = held before) :
      LevelRun surroundings held change body before after
        [.reads change.place (.ok (held before change.place)),
          .writes change.place change.state (.error failure)] (.error (change.lift failure))
  /-- The body succeeds, and the new state is kept. -/
  | kept {entered after : σ} {value : α}
      (new : held entered = Function.update (held before) change.place change.state)
      (worked : body.run surroundings entered = (.ok value, after)) :
      LevelRun surroundings held change body before after
        ((Made.mk change (held before change.place)).making ++
          body.exchanges surroundings entered) (.ok value)
  /-- The body fails, and the state that was found is written back. -/
  | undone {entered failed after : σ} {error : ε} (answer : Except (Failure change.place) Unit)
      (new : held entered = Function.update (held before) change.place change.state)
      (worked : body.run surroundings entered = (.error error, failed))
      (restored : answer = .ok () →
        held after = Function.update (held failed) change.place (held before change.place)) :
      LevelRun surroundings held change body before after
        ((Made.mk change (held before change.place)).making ++
          body.exchanges surroundings entered ++
            [(Made.mk change (held before change.place)).undoing answer]) (.error error)

/-- Changing a resource around a body does nothing else. -/
theorem levelRun_withState (keeps : KeepsStates surroundings held) (note : Event → Mark)
    (describe : ε → String) (change : Change State Failure ε)
    (body : Placed State Failure Step Reply Mark (Except ε α)) (before : σ) :
    let operation :=
      withState note change.accessor change.lift describe change.describe change.state body
    LevelRun surroundings held change body before (operation.run surroundings before).2
      (operation.exchanges surroundings before) (operation.run surroundings before).1 := by
  intro operation
  rw [show operation = _ from withState_eq note change describe body]
  have unchanged := @keeps.unchanged change.place before
  cases reading : surroundings.answer (.read change.place) before with
  | mk answer afterRead =>
    rw [reading] at unchanged
    rw [Program.run_ask reading, Program.exchanges_ask reading]
    cases answer with
    | error failure => exact .unread failure unchanged
    | ok prior =>
      obtain rfl := keeps.read (congrArg Prod.fst reading)
      cases writing : surroundings.answer (.write change.place change.state) afterRead with
      | mk answer entered =>
        rw [Program.run_ask writing, Program.exchanges_ask writing]
        cases answer with
        | error failure =>
          have same := keeps.refused (congrArg Prod.fst writing)
          rw [writing] at same
          exact .unwritten failure (same.trans unchanged)
        | ok written =>
          have new := keeps.written (congrArg Prod.fst writing)
          rw [writing, unchanged] at new
          simp only [Program.run_bind, Program.exchanges_bind]
          cases worked : body.run surroundings entered with
          | mk outcome after =>
            cases outcome with
            | ok value =>
              simpa [Made.making, Program.exchanges, Program.run] using LevelRun.kept new worked
            | error error =>
              obtain ⟨answer, calls, result, restored⟩ := undoing_rollBack (α := α) keeps note
                describe (Made.mk change (held before change.place)) error after
              simpa [Made.making, calls, result] using
                LevelRun.undone answer new worked restored

/-- The states of the resources after a change. -/
def Change.applied (states : ∀ place, State place) (change : Change State Failure ε) :
    ∀ place, State place :=
  Function.update states change.place change.state

/-- The states of the resources after changes. -/
def changed (states : ∀ place, State place) (changes : List (Change State Failure ε)) :
    ∀ place, State place :=
  changes.foldl Change.applied states

/-- Changes with the states that they find when they are made one after another. -/
def madeFrom (states : ∀ place, State place) :
    List (Change State Failure ε) → List (Made State Failure ε)
  | [] => []
  | change :: rest => ⟨change, states change.place⟩ :: madeFrom (change.applied states) rest

/-- A resource that no change is about has its state after them. -/
theorem changed_of_forall_ne {states : ∀ place, State place}
    {changes : List (Change State Failure ε)} {place : κ}
    (others : ∀ change ∈ changes, change.place ≠ place) : changed states changes place =
      states place := by
  induction changes generalizing states with
  | nil => rfl
  | cons change rest ih =>
    have first := others change (List.mem_cons_self ..)
    rw [changed, List.foldl_cons]
    exact (ih fun change member => others change (List.mem_cons_of_mem _ member)).trans
      (Function.update_of_ne (Ne.symm first) _ _)

/-- The last change of a resource gives its state. -/
theorem changed_last {states : ∀ place, State place} {front rest : List (Change State Failure ε)}
    {change : Change State Failure ε} (last : ∀ later ∈ rest, later.place ≠ change.place) :
    changed states (front ++ change :: rest) change.place = change.state := by
  rw [changed, List.foldl_append, List.foldl_cons]
  exact (changed_of_forall_ne last).trans (Function.update_self ..)

/-- Where nested changes come to an end from a state: one cannot be read or written, and neither
what is within it nor its undoing begins, or all are made and the body has its result. -/
inductive Stops (surroundings : Surroundings (placeInterface State Failure Step Reply Mark) σ)
    (held : σ → ∀ place, State place)
    (body : Placed State Failure Step Reply Mark (Except ε α)) (entered : σ) :
    List (Change State Failure ε) → List (PlaceExchange State Failure Step Reply Mark) →
      Except ε α → Prop where
  /-- The next resource cannot be read. -/
  | unread (change : Change State Failure ε) (rest : List (Change State Failure ε))
      (failure : Failure change.place) :
      Stops surroundings held body entered (change :: rest)
        [.reads change.place (.error failure)] (.error (change.lift failure))
  /-- The next resource is read, but cannot be written. -/
  | unwritten (change : Change State Failure ε) (rest : List (Change State Failure ε))
      (failure : Failure change.place) :
      Stops surroundings held body entered (change :: rest)
        [.reads change.place (.ok (held entered change.place)),
          .writes change.place change.state (.error failure)] (.error (change.lift failure))
  /-- All changes are made, and the body runs. -/
  | body : Stops surroundings held body entered [] (body.exchanges surroundings entered)
      (body.run surroundings entered).1

/-- What nested changes do: those that are made, in order, then what stops them, and after an error
the undoing of all that were made, the last one first. -/
structure NestedRun
    (surroundings : Surroundings (placeInterface State Failure Step Reply Mark) σ)
    (held : σ → ∀ place, State place)
    (body : Placed State Failure Step Reply Mark (Except ε α))
    (changes : List (Change State Failure ε)) (before after : σ)
    (calls : List (PlaceExchange State Failure Step Reply Mark)) (result : Except ε α)
    (taken remaining : List (Change State Failure ε)) (entered : σ)
    (inner back : List (PlaceExchange State Failure Step Reply Mark)) : Prop where
  /-- The changes are those that are made and those that are left. -/
  parts : changes = taken ++ remaining
  /-- These are all exchanges, so what is within a change that is not made does not begin. -/
  course : calls = (madeFrom (held before) taken).flatMap Made.making ++ inner ++ back
  /-- What comes after these changes finds the states that they made. -/
  found : held entered = changed (held before) taken
  /-- What happens after the last change that is made. -/
  stops : Stops surroundings held body entered remaining inner result
  /-- After a success nothing is undone, and nothing happens after the body. -/
  kept : ∀ value, result = .ok value →
    remaining = [] ∧ back = [] ∧ after = (body.run surroundings entered).2
  /-- After an error every change that was made is undone once, whatever the answers are. -/
  undone : ∀ error, result = .error error →
    List.Forall₂ (fun made call => ∃ answer, call = made.undoing answer)
      (madeFrom (held before) taken).reverse back
  /-- If all of them can be undone, the resources are as they were. -/
  restored : ∀ error, result = .error error →
    (∀ place state failure, PlaceExchange.writes place state (.error failure) ∉ back) →
      ∀ change ∈ changes, held after change.place = held before change.place

section NestedRun

variable {body within : Placed State Failure Step Reply Mark (Except ε α)}
  {change : Change State Failure ε} {changes : List (Change State Failure ε)} {before after : σ}
  {calls inner : List (PlaceExchange State Failure Step Reply Mark)} {result : Except ε α}

/-- What stops nested changes before the first is made is all that happens. -/
theorem NestedRun.of_stops {error : ε} (same : held after = held before)
    (stops : Stops surroundings held body before (change :: changes) inner (.error error)) :
    NestedRun surroundings held body (change :: changes) before after inner (.error error)
      [] (change :: changes) before inner [] where
  parts := rfl
  course := by simp [madeFrom]
  found := rfl
  stops := stops
  kept := nofun
  undone _ _ := .nil
  restored _ _ _ other _ := congrFun same other.place

/-- The body alone is all that happens without changes. -/
theorem NestedRun.of_body :
    NestedRun surroundings held body [] before (body.run surroundings before).2
      (body.exchanges surroundings before) (body.run surroundings before).1
      [] [] before (body.exchanges surroundings before) [] where
  parts := rfl
  course := by simp [madeFrom]
  found := rfl
  stops := .body
  kept _ _ := ⟨rfl, rfl, rfl⟩
  undone _ _ := .nil
  restored := nofun

/-- A change around nested ones that all are kept is kept. -/
theorem NestedRun.keep {taken remaining : List (Change State Failure ε)} {inside entered : σ}
    {back : List (PlaceExchange State Failure Step Reply Mark)} {value : α}
    (new : held inside = Function.update (held before) change.place change.state)
    (run : NestedRun surroundings held body changes inside after calls (.ok value)
      taken remaining entered inner back) :
    NestedRun surroundings held body (change :: changes) before after
      ((Made.mk change (held before change.place)).making ++ calls) (.ok value)
      (change :: taken) remaining entered inner back where
  parts := congrArg (List.cons change) run.parts
  course := by simp [run.course, madeFrom, Change.applied, new]
  found := by rw [run.found, new]; rfl
  stops := run.stops
  kept := run.kept
  undone := nofun
  restored := nofun

/-- A change around nested ones that are undone is undone after them. If the others are as they
were when it had been made, all are as they were before it. -/
theorem NestedRun.undo {taken remaining : List (Change State Failure ε)} {inside entered failed : σ}
    {back : List (PlaceExchange State Failure Step Reply Mark)} {error : ε}
    (answer : Except (Failure change.place) Unit)
    (new : held inside = Function.update (held before) change.place change.state)
    (run : NestedRun surroundings held body changes inside failed calls (.error error)
      taken remaining entered inner back)
    (restored : answer = .ok () →
      held after = Function.update (held failed) change.place (held before change.place)) :
    NestedRun surroundings held body (change :: changes) before after
      ((Made.mk change (held before change.place)).making ++ calls ++
        [(Made.mk change (held before change.place)).undoing answer]) (.error error)
      (change :: taken) remaining entered inner
      (back ++ [(Made.mk change (held before change.place)).undoing answer]) where
  parts := congrArg (List.cons change) run.parts
  course := by simp [run.course, madeFrom, Change.applied, new]
  found := by rw [run.found, new]; rfl
  stops := run.stops
  kept := nofun
  undone error same := by
    rw [madeFrom, List.reverse_cons, show change.applied (held before) = _ from new.symm]
    exact List.rel_append (run.undone error same) (.cons ⟨answer, rfl⟩ .nil)
  restored error same succeeded other member := by
    have put : answer = .ok () := by
      cases answer with
      | ok done => rfl
      | error failure =>
        exact absurd (List.mem_append_right _ (List.mem_singleton_self _)) (succeeded _ _ failure)
    rw [restored put]
    -- The same resource may be changed again within; what is put back last is what counts.
    by_cases place : other.place = change.place
    · rw [place, Function.update_self]
    · rw [Function.update_of_ne place]
      have later : other ∈ changes :=
        (List.mem_cons.mp member).resolve_left fun first => place (congrArg Change.place first)
      have back := run.restored error same
        (fun place state failure call => succeeded _ _ _ (List.mem_append_left _ call)) other later
      rw [back, new, Function.update_of_ne place]

/-- One more change around nested ones. -/
theorem NestedRun.around
    (level : LevelRun surroundings held change within before after calls result)
    (nested : ∀ state, ∃ taken remaining entered inner back,
      NestedRun surroundings held body changes state (within.run surroundings state).2
        (within.exchanges surroundings state) (within.run surroundings state).1
        taken remaining entered inner back) :
    ∃ taken remaining entered inner back,
      NestedRun surroundings held body (change :: changes) before after calls result
        taken remaining entered inner back := by
  cases level with
  | unread failure same =>
    exact ⟨[], _, before, _, [], .of_stops same (.unread change changes failure)⟩
  | unwritten failure same =>
    exact ⟨[], _, before, _, [], .of_stops same (.unwritten change changes failure)⟩
  | @kept inside _ value new worked =>
    obtain ⟨taken, remaining, entered, inner, back, run⟩ := nested inside
    rw [worked] at run
    exact ⟨change :: taken, remaining, entered, inner, back, run.keep new⟩
  | @undone inside failed _ error answer new worked restored =>
    obtain ⟨taken, remaining, entered, inner, back, run⟩ := nested inside
    rw [worked] at run
    exact ⟨change :: taken, remaining, entered, inner, _, run.undo answer new restored⟩

/-- Changes are made one within the other around a body, and undone if it comes to an error. -/
theorem nestedRun (keeps : KeepsStates surroundings held) (note : Event → Mark)
    (describe : ε → String) (body : Placed State Failure Step Reply Mark (Except ε α))
    (changes : List (Change State Failure ε)) (before : σ) :
    let operation := nested note describe body changes
    ∃ taken remaining entered inner back,
      NestedRun surroundings held body changes before (operation.run surroundings before).2
        (operation.exchanges surroundings before) (operation.run surroundings before).1
        taken remaining entered inner back := by
  induction changes generalizing before with
  | nil => exact ⟨[], [], before, _, [], .of_body⟩
  | cons change rest ih =>
    exact NestedRun.around (levelRun_withState keeps note describe change _ before) ih

/-- If the body leaves the resources alone, the last change of each gives its state. -/
theorem NestedRun.last {taken remaining : List (Change State Failure ε)} {entered : σ}
    {back : List (PlaceExchange State Failure Step Reply Mark)} {value : α}
    (run : NestedRun surroundings held body changes before after calls (.ok value)
      taken remaining entered inner back)
    (alone : ∀ state, ∀ change ∈ changes,
      held (body.run surroundings state).2 change.place = held state change.place)
    {front rest : List (Change State Failure ε)} (parts : changes = front ++ change :: rest)
    (last : ∀ later ∈ rest, later.place ≠ change.place) :
    held after change.place = change.state := by
  obtain ⟨rfl, -, rfl⟩ := run.kept value rfl
  have all : changes = taken := by rw [run.parts, List.append_nil]
  have member : change ∈ changes := by simp [parts]
  calc held (body.run surroundings entered).2 change.place
      = held entered change.place := alone entered change member
    _ = changed (held before) (front ++ change :: rest) change.place := by
      rw [run.found, ← all, parts]
    _ = change.state := changed_last last

end NestedRun

/-- What nested changes do, and what is left of it. -/
structure AllOrNothing
    (surroundings : Surroundings (placeInterface State Failure Step Reply Mark) σ)
    (held : σ → ∀ place, State place)
    (body : Placed State Failure Step Reply Mark (Except ε α))
    (changes : List (Change State Failure ε)) (before after : σ)
    (calls : List (PlaceExchange State Failure Step Reply Mark)) (result : Except ε α)
    (taken remaining : List (Change State Failure ε)) (entered : σ)
    (inner back : List (PlaceExchange State Failure Step Reply Mark)) : Prop extends
    NestedRun surroundings held body changes before after calls result taken remaining entered
      inner back where
  /-- After a success the last change of each resource gives its state, unless the body touches
  the resources itself. -/
  last : ∀ value, result = .ok value →
    (∀ state, ∀ change ∈ changes,
      held (body.run surroundings state).2 change.place = held state change.place) →
    ∀ front change rest, changes = front ++ change :: rest →
      (∀ later ∈ rest, later.place ≠ change.place) → held after change.place = change.state

/-- Nested changes are all kept, or all that were made are undone. -/
theorem nested_all_or_nothing (keeps : KeepsStates surroundings held) (note : Event → Mark)
    (describe : ε → String) (body : Placed State Failure Step Reply Mark (Except ε α))
    (changes : List (Change State Failure ε)) (before : σ) :
    let operation := nested note describe body changes
    ∃ taken remaining entered inner back,
      AllOrNothing surroundings held body changes before (operation.run surroundings before).2
        (operation.exchanges surroundings before) (operation.run surroundings before).1
        taken remaining entered inner back := by
  intro operation
  obtain ⟨taken, remaining, entered, inner, back, run⟩ :=
    nestedRun keeps note describe body changes before
  refine ⟨taken, remaining, entered, inner, back, run, ?_⟩
  intro value succeeded alone front change rest parts last
  rw [show (nested note describe body changes).run surroundings before =
    (.ok value, _) from Prod.ext succeeded rfl] at run
  exact run.last alone parts last

/-- Two resources in memory that refuse numbers above nine. -/
def shelf : Surroundings (placeInterface (fun _ : Bool => Nat) (fun _ => String) Unit Unit Unit)
    (Bool → Nat) where
  answer
    | .read place, numbers => (.ok (numbers place), numbers)
    | .write place number, numbers =>
      if number ≤ 9 then (.ok (), Function.update numbers place number)
      else (.error "too large", numbers)
    | .step _, numbers => ((), numbers)
  keep _ numbers := numbers

/-- A shelf keeps the states that are written to it. -/
theorem shelf_keepsStates : KeepsStates shelf id where
  read := by rintro place state value ⟨⟩; rfl
  unchanged := rfl
  written {place number numbers} succeeded := by
    by_cases small : number ≤ 9
    · simp [shelf, small]
    · simp [shelf, small] at succeeded
  refused {place number numbers failure} failed := by
    by_cases small : number ≤ 9
    · simp [shelf, small] at failed
    · simp [shelf, small]
  mark := rfl

/-- A number for one of the resources in memory. -/
def numberChange (place : Bool) (number : Nat) :
    Change (fun _ : Bool => Nat) (fun _ => String) String :=
  ⟨place, number, "shelf", id, id⟩

/-- A resource is changed twice, another one between, and the body changes the first once more. When
the body fails, both are as they were. -/
theorem nested_all_or_nothing_twice :
    let body : Placed (fun _ : Bool => Nat) (fun _ => String) Unit Unit Unit (Except String Unit) :=
      Placed.write true 7 fun _ => .done (.error "broken")
    let changes := [numberChange true 1, numberChange false 2, numberChange true 3]
    let operation := nested (fun _ => ()) id body changes
    KeepsStates shelf id ∧
      (∃ taken remaining entered inner back,
        AllOrNothing shelf id body changes (fun _ => 0) (operation.run shelf fun _ => 0).2
          (operation.exchanges shelf fun _ => 0) (operation.run shelf fun _ => 0).1
          taken remaining entered inner back) ∧
      (operation.run shelf fun _ => 0).1 = .error "broken" ∧
      ∀ place, (operation.run shelf fun _ => 0).2 place = 0 := by
  intro body changes operation
  exact ⟨shelf_keepsStates,
    nested_all_or_nothing shelf_keepsStates (fun _ => ()) id body changes fun _ => 0,
    by decide, by decide⟩

end Level
end ControlPlane.Compensation
