import ControlPlane.Program

/-!
# Requests with their answers

What a program does is seen in its exchanges: the requests that it makes, each with the answer that
it gets. A path leads from a program over exchanges to what is left of it then, whoever answers.
The exchanges of a run are a path to its result (`path_run`), and so are those of a single step
(`path_step`). A path to the result of one program after another is made up of a path to the result
of each (`path_bind_done`), so what a composed operation can do is found by taking it apart.
-/
namespace ControlPlane

/-- A request with its answer. -/
abbrev Exchange (interface : Interface) : Type := Sigma interface.Answer

namespace Program

variable {interface : Interface} {α β σ : Type}

/-- What is left of a program after some exchanges. -/
inductive Path : Program interface α → List (Exchange interface) → Program interface α → Prop where
  /-- Without exchanges the program itself is left. -/
  | here (program : Program interface α) : Path program [] program
  /-- Marks are no exchanges. -/
  | leave {mark : interface.Mark} {rest last : Program interface α}
      {exchanges : List (Exchange interface)} (path : Path rest exchanges last) :
      Path (leave mark rest) exchanges last
  /-- A program gets some answer to its request, and goes on with it. -/
  | ask {request : interface.Request} {next : interface.Answer request → Program interface α}
      {last : Program interface α} {exchanges : List (Exchange interface)}
      (answer : interface.Answer request) (path : Path (next answer) exchanges last) :
      Path (ask request next) (⟨request, answer⟩ :: exchanges) last

/-- The exchanges of a run. -/
def exchanges (surroundings : Surroundings interface σ) :
    Program interface α → σ → List (Exchange interface)
  | done _, _ => []
  | leave mark rest, state => exchanges surroundings rest (surroundings.keep mark state)
  | ask request next, state =>
    let (answer, after) := surroundings.answer request state
    ⟨request, answer⟩ :: exchanges surroundings (next answer) after

/-- The exchange of a step: one, unless the program has its result. -/
def stepExchange (surroundings : Surroundings interface σ) :
    Program interface α → σ → List (Exchange interface)
  | ask request _, state => [⟨request, (surroundings.answer request state).1⟩]
  | _, _ => []

/-- A program makes allowed requests only, whatever the answers are. -/
def Asks (allowed : interface.Request → Prop) : Program interface α → Prop
  | done _ => True
  | leave _ rest => rest.Asks allowed
  | ask request next => allowed request ∧ ∀ answer, (next answer).Asks allowed

/-- Programs after one another can be grouped in either way. -/
theorem bind_assoc {γ : Type} (program : Program interface α) (next : α → Program interface β)
    (finish : β → Program interface γ) :
    (program >>= next) >>= finish = program >>= fun result => next result >>= finish := by
  induction program with
  | done result => rfl
  | leave mark rest ih => exact congrArg (leave mark) ih
  | ask request resume ih => exact congrArg (ask request) (funext ih)

/-- Only the result itself is left of a result. -/
@[simp] theorem path_done {result : α} {exchanges : List (Exchange interface)}
    {last : Program interface α} :
    Path (done result) exchanges last ↔ exchanges = [] ∧ last = done result := by
  constructor
  · intro path
    cases path
    exact ⟨rfl, rfl⟩
  · rintro ⟨rfl, rfl⟩
    exact .here _

/-- Marks play no part on the way to a result. -/
@[simp] theorem path_leave_done {mark : interface.Mark} {rest : Program interface α}
    {exchanges : List (Exchange interface)} {result : α} :
    Path (leave mark rest) exchanges (done result) ↔ Path rest exchanges (done result) := by
  constructor
  · intro path
    cases path with
    | leave path => exact path
  · exact .leave

/-- A request on the way to a result is answered, and the path goes on from there. -/
@[simp] theorem path_ask_done {request : interface.Request}
    {next : interface.Answer request → Program interface α}
    {exchanges : List (Exchange interface)} {result : α} :
    Path (ask request next) exchanges (done result) ↔
      ∃ answer rest, exchanges = ⟨request, answer⟩ :: rest ∧
        Path (next answer) rest (done result) := by
  constructor
  · intro path
    cases path with
    | ask answer path => exact ⟨answer, _, rfl, path⟩
  · rintro ⟨answer, rest, rfl, path⟩
    exact .ask answer path

/-- A path goes on where another one ends. -/
theorem Path.append {first middle last : Program interface α}
    {front back : List (Exchange interface)} (before : Path first front middle)
    (after : Path middle back last) : Path first (front ++ back) last := by
  induction before with
  | here => exact after
  | leave _ ih => exact .leave (ih after)
  | ask answer _ ih => exact .ask answer (ih after)

/-- A path to the result of one program after another leads to the result of the first, and from
there to the result of the second. -/
theorem path_bind_done {program : Program interface α} {next : α → Program interface β}
    {exchanges : List (Exchange interface)} {result : β} :
    Path (program >>= next) exchanges (done result) ↔
      ∃ value front back, Path program front (done value) ∧
        Path (next value) back (done result) ∧ exchanges = front ++ back := by
  induction program generalizing exchanges with
  | done value =>
    rw [done_bind]
    constructor
    · intro path
      exact ⟨value, [], exchanges, .here _, path, rfl⟩
    · rintro ⟨other, front, back, first, second, rfl⟩
      obtain ⟨rfl, same⟩ := path_done.mp first
      cases same
      exact second
  | leave mark rest ih => rw [leave_bind, path_leave_done, ih]; simp only [path_leave_done]
  | ask request resume ih =>
    rw [ask_bind, path_ask_done]
    constructor
    · rintro ⟨answer, rest, rfl, path⟩
      obtain ⟨value, front, back, first, second, rfl⟩ := (ih answer).mp path
      exact ⟨value, ⟨request, answer⟩ :: front, back, .ask answer first, second, rfl⟩
    · rintro ⟨value, front, back, first, second, rfl⟩
      obtain ⟨answer, rest, rfl, path⟩ := path_ask_done.mp first
      exact ⟨answer, rest ++ back, rfl, (ih answer).mpr ⟨value, rest, back, path, second, rfl⟩⟩

/-- After a request a program goes on with the answer. -/
theorem path_request_bind {request : interface.Request}
    {next : interface.Answer request → Program interface β}
    {exchanges : List (Exchange interface)} {result : β} :
    Path (Program.request request >>= next) exchanges (done result) ↔
      ∃ answer rest, exchanges = ⟨request, answer⟩ :: rest ∧
        Path (next answer) rest (done result) :=
  path_ask_done

/-- A mark comes between two parts of a program without an exchange. -/
theorem path_mark_bind {mark : interface.Mark} {next : Unit → Program interface β}
    {exchanges : List (Exchange interface)} {result : β} :
    Path (Program.mark mark >>= next) exchanges (done result) ↔
      Path (next ()) exchanges (done result) :=
  path_leave_done

/-- A result that is given without more ado makes no exchanges. -/
theorem path_pure {value result : α} {exchanges : List (Exchange interface)} :
    Path (pure value : Program interface α) exchanges (done result) ↔
      exchanges = [] ∧ result = value := by
  rw [pure_eq_done, path_done]
  simp

/-- A list of marks makes no exchanges. -/
@[simp] theorem path_marks_done {marks : List interface.Mark}
    {exchanges : List (Exchange interface)} {result : Unit} :
    Path (Program.marks marks) exchanges (done result) ↔ exchanges = [] := by
  induction marks with
  | nil => simp [Program.marks]
  | cons mark rest ih => rw [Program.marks, path_leave_done, ih]

/-- On a path only allowed requests are made. -/
theorem Asks.of_path {allowed : interface.Request → Prop} {program last : Program interface α}
    {exchanges : List (Exchange interface)} (asks : program.Asks allowed)
    (path : Path program exchanges last) : ∀ exchange ∈ exchanges, allowed exchange.1 := by
  induction path with
  | here => simp
  | leave _ ih => exact ih asks
  | ask answer _ ih =>
    intro exchange member
    cases member with
    | head => exact asks.1
    | tail _ later => exact ih (asks.2 answer) exchange later

/-- The exchanges of a run lead to its result. -/
theorem path_run (surroundings : Surroundings interface σ) (program : Program interface α)
    (state : σ) :
    Path program (program.exchanges surroundings state)
      (done (program.run surroundings state).1) := by
  induction program generalizing state with
  | done result => exact .here _
  | leave mark rest ih => exact .leave (ih _)
  | ask request next ih => exact .ask _ (ih _ _)

/-- A request is answered, and the run goes on with the answer. -/
theorem run_ask {surroundings : Surroundings interface σ} {request : interface.Request}
    {next : interface.Answer request → Program interface α} {state after : σ}
    {answer : interface.Answer request}
    (answered : surroundings.answer request state = (answer, after)) :
    (ask request next).run surroundings state = (next answer).run surroundings after := by
  simp only [run, answered]

/-- The first exchange of a request is the request with its answer. -/
theorem exchanges_ask {surroundings : Surroundings interface σ} {request : interface.Request}
    {next : interface.Answer request → Program interface α} {state after : σ}
    {answer : interface.Answer request}
    (answered : surroundings.answer request state = (answer, after)) :
    (ask request next).exchanges surroundings state =
      ⟨request, answer⟩ :: (next answer).exchanges surroundings after := by
  simp only [exchanges, answered]

/-- The exchanges of one program after another are those of the first, then those of the second. -/
theorem exchanges_bind (surroundings : Surroundings interface σ) (program : Program interface α)
    (next : α → Program interface β) (state : σ) :
    (program.bind next).exchanges surroundings state =
      program.exchanges surroundings state ++
        (next (program.run surroundings state).1).exchanges surroundings
          (program.run surroundings state).2 := by
  induction program generalizing state with
  | done result => rfl
  | leave mark rest ih => exact ih _
  | ask request resume ih => exact congrArg (List.cons _) (ih _ _)

end Program

end ControlPlane
