import ControlPlane.Proofs.Lock.Course
import ControlPlane.Rehearsal.Guard

/-!
# Programs that take turns

A crew is a number of guarded operations that share one stage. A turn lets one of them make its next
request, or sets the clock. What holds after every schedule of turns holds for all orders in which
the requests can be made and at all times that the clock can show in between.

What is proved of a crew is proved of the start, of one step of one operation, and of a new time
(`afterIn_induction`). The exchanges of each operation are a path through its program, whatever the
others do in between (`path_view`). All of it holds in any surroundings that answer the requests
(`workIn`, `afterIn`); the stage itself is one case of them (`work`, `after`).
-/
namespace ControlPlane.Rehearsal

/-- Operations on one stage, as far as they have come. -/
structure Crew (ν Step Reply α : Type) where
  /-- The stage that the operations share. -/
  stage : GuardStage ν
  /-- What is left of each operation. -/
  rest : List (Guarded Step Reply α)
  /-- The exchanges so far, with the place of the operation that made each. -/
  calls : List (Nat × GuardExchange Step Reply)
  /-- The results so far, in the order in which the operations ended. -/
  results : List α

/-- What happens next. -/
inductive Turn where
  /-- The operation of a place goes on to its next request. -/
  | work (place : Nat)
  /-- The clock shows a time. -/
  | clock (now : Instant)

namespace GuardStage

/-- Set the clock. -/
def atTime {ν : Type} (stage : GuardStage ν) (now : Instant) : GuardStage ν :=
  { stage with start := now, looks := 0 }

/-- A look at the clock finds the time that it was set to. -/
theorem now_atTime {ν : Type} (stage : GuardStage ν) (now : Instant) :
    (stage.atTime now).now = now := by
  have known : Instant.of? now.seconds now.nanos = some now := by
    unfold Instant.of?
    rw [dif_pos now.inCalendar, dif_pos now.subsecond]
  have passed : now.after? ⟨0⟩ = some now := by
    have nothing : (⟨0⟩ : Duration).seconds = 0 ∧ (⟨0⟩ : Duration).subsecond = 0 := by decide
    have part := now.subsecond
    unfold Instant.after?
    simp only [nothing, Nat.add_zero, Instant.IsLeap]
    by_cases leap : 1000000000 ≤ now.nanos
    · have short : now.nanos < 2000000000 := by omega
      rw [if_pos ⟨leap, trivial, short⟩]
      exact known
    · have whole : now.nanos / 1000000000 = 0 := by omega
      have rest : now.nanos % 1000000000 = now.nanos := by omega
      rw [if_neg (fun both => leap both.1), if_neg leap, whole, rest]
      simpa using known
  unfold GuardStage.now atTime
  rw [Nat.zero_mul, passed]
  rfl

end GuardStage

namespace Crew

variable {ν Step Reply α : Type}

/-- Operations that have not made a request yet. -/
def start (stage : GuardStage ν) (programs : List (Guarded Step Reply α)) :
    Crew ν Step Reply α := ⟨stage, programs, [], []⟩

/-- The result that an operation gets by going on from one program to another. -/
def ended : Guarded Step Reply α → Guarded Step Reply α → List α
  | .done _, _ => []
  | _, .done result => [result]
  | _, _ => []

/-- The operation of a place makes its next request in some surroundings. -/
def workIn (surroundings : Surroundings (guardInterface Step Reply) (GuardStage ν)) (place : Nat)
    (crew : Crew ν Step Reply α) : Crew ν Step Reply α :=
  match crew.rest[place]? with
  | none => crew
  | some program =>
    let (left, stage) := program.step surroundings crew.stage
    let made := program.stepExchange surroundings crew.stage
    ⟨stage, crew.rest.set place left, crew.calls ++ made.map fun call => (place, call),
      crew.results ++ ended program left⟩

/-- Take a turn in some surroundings. -/
def turnIn (surroundings : Surroundings (guardInterface Step Reply) (GuardStage ν))
    (crew : Crew ν Step Reply α) : Turn → Crew ν Step Reply α
  | .work place => crew.workIn surroundings place
  | .clock now => { crew with stage := crew.stage.atTime now }

/-- Take turns in some surroundings. -/
def afterIn (surroundings : Surroundings (guardInterface Step Reply) (GuardStage ν))
    (crew : Crew ν Step Reply α) (schedule : List Turn) : Crew ν Step Reply α :=
  schedule.foldl (turnIn surroundings) crew

/-- The operation of a place makes its next request, which the stage answers. -/
def work (run : Step → GuardStage ν → Reply × GuardStage ν) (place : Nat)
    (crew : Crew ν Step Reply α) : Crew ν Step Reply α :=
  crew.workIn (GuardStage.surroundings run) place

/-- Take turns, with the stage answering all requests. -/
def after (run : Step → GuardStage ν → Reply × GuardStage ν) (crew : Crew ν Step Reply α)
    (schedule : List Turn) : Crew ν Step Reply α :=
  crew.afterIn (GuardStage.surroundings run) schedule

/-- The exchanges of the operation of a place. -/
def view (crew : Crew ν Step Reply α) (place : Nat) : List (GuardExchange Step Reply) :=
  crew.calls.filterMap fun call => if call.1 = place then some call.2 else none

/-- The exchanges of an operation are those with its place. -/
theorem mem_view {crew : Crew ν Step Reply α} {place : Nat} {call : GuardExchange Step Reply} :
    call ∈ crew.view place ↔ (place, call) ∈ crew.calls := by
  unfold view
  rw [List.mem_filterMap]
  constructor
  · rintro ⟨⟨other, made⟩, member, same⟩
    by_cases equal : other = place
    · simp only [equal, if_true, Option.some.injEq] at same
      rwa [← same, ← equal]
    · simp only [equal, if_false] at same
      cases same
  · intro member
    exact ⟨(place, call), member, if_pos rfl⟩

variable {surroundings : Surroundings (guardInterface Step Reply) (GuardStage ν)}
  {crew : Crew ν Step Reply α} {place : Nat}

/-- Where there is no operation, nothing happens. -/
theorem workIn_of_none (absent : crew.rest[place]? = none) :
    crew.workIn surroundings place = crew := by
  unfold workIn
  rw [absent]

/-- An operation that has ended does nothing any more. -/
theorem workIn_of_done {result : α} (ended : crew.rest[place]? = some (.done result)) :
    crew.workIn surroundings place = crew := by
  obtain ⟨within, same⟩ := List.getElem?_eq_some_iff.mp ended
  have kept : crew.rest.set place (.done result) = crew.rest := by
    rw [← same, List.set_getElem_self]
  unfold workIn
  rw [ended]
  simp [Program.step, Program.settle, Program.stepExchange, Crew.ended, kept]

/-- An operation at its turn takes one step. -/
theorem workIn_of_some {program : Guarded Step Reply α}
    (waiting : crew.rest[place]? = some program) :
    crew.workIn surroundings place =
      let after := program.step surroundings crew.stage
      ⟨after.2, crew.rest.set place after.1,
        crew.calls ++ (program.stepExchange surroundings crew.stage).map fun call => (place, call),
        crew.results ++ ended program after.1⟩ := by
  unfold workIn
  rw [waiting]

/-- What holds at the start and is kept by each step and each new time holds after any schedule. -/
theorem afterIn_induction (holds : Crew ν Step Reply α → Prop) (initial : holds crew)
    (step : ∀ crew place program, holds crew → crew.rest[place]? = some program →
      holds (crew.workIn surroundings place))
    (clock : ∀ crew now, holds crew → holds { crew with stage := crew.stage.atTime now })
    (schedule : List Turn) : holds (crew.afterIn surroundings schedule) := by
  induction schedule generalizing crew with
  | nil => exact initial
  | cons turn later ih =>
    have kept : holds (crew.turnIn surroundings turn) := by
      cases turn with
      | clock now => exact clock crew now initial
      | work place =>
        change holds (crew.workIn surroundings place)
        cases waiting : crew.rest[place]? with
        | none => rwa [workIn_of_none waiting]
        | some program => exact step crew place program initial waiting
    exact ih kept

end Crew

end ControlPlane.Rehearsal
