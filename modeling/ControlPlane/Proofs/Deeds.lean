import ControlPlane.Program

/-!
# Deeds

What a program does, marks included: it makes requests, which are answered, and it leaves marks. The
deeds of a run are its log (`Program.log`). What a program can do, whoever answers, is told by
`Program.Does`; the log of a run is a case of it (`does_log`), and the deeds of one program after
another are those of the first, then those of the second (`does_bind`).
-/
namespace ControlPlane

/-- Something that a program does. -/
inductive Deed (interface : Interface) where
  /-- It makes a request and gets an answer. -/
  | asked (request : interface.Request) (answer : interface.Answer request)
  /-- It leaves a mark. -/
  | left (mark : interface.Mark)

/-- A deed among some deeds and a last one is the last one, or is among those before it. -/
theorem Deed.cases_of_concat {interface : Interface} {deeds front rest : List (Deed interface)}
    {last deed : Deed interface} (split : deeds ++ [last] = front ++ deed :: rest) :
    (front = deeds ∧ last = deed) ∨ ∃ between, deeds = front ++ deed :: between := by
  rcases List.eq_nil_or_concat rest with rfl | ⟨between, other, rfl⟩
  · obtain ⟨same, single⟩ := List.append_inj' split rfl
    exact .inl ⟨same.symm, List.head_eq_of_cons_eq single⟩
  · rw [List.concat_eq_append, ← List.cons_append, ← List.append_assoc] at split
    exact .inr ⟨between, (List.append_inj' split rfl).1⟩

namespace Program

variable {interface : Interface} {α β σ : Type}

/-- The deeds of a run. -/
def log (surroundings : Surroundings interface σ) : Program interface α → σ → List (Deed interface)
  | done _, _ => []
  | leave mark rest, state => .left mark :: log surroundings rest (surroundings.keep mark state)
  | ask request next, state =>
    let (answer, after) := surroundings.answer request state
    .asked request answer :: log surroundings (next answer) after

/-- A program can come to a result through some deeds. -/
inductive Does : Program interface α → List (Deed interface) → α → Prop where
  /-- A program that is done does nothing. -/
  | done (result : α) : Does (done result) [] result
  /-- A program leaves its mark, and goes on. -/
  | leave {mark : interface.Mark} {rest : Program interface α} {deeds : List (Deed interface)}
      {result : α} (does : Does rest deeds result) :
      Does (leave mark rest) (.left mark :: deeds) result
  /-- A program gets some answer to its request, and goes on with it. -/
  | ask {request : interface.Request} {next : interface.Answer request → Program interface α}
      {deeds : List (Deed interface)} {result : α} (answer : interface.Answer request)
      (does : Does (next answer) deeds result) :
      Does (ask request next) (.asked request answer :: deeds) result

/-- A result is come to at once. -/
@[simp] theorem does_done {value result : α} {deeds : List (Deed interface)} :
    Does (done value) deeds result ↔ deeds = [] ∧ result = value := by
  constructor
  · intro does
    cases does
    exact ⟨rfl, rfl⟩
  · rintro ⟨rfl, rfl⟩
    exact .done _

/-- A mark is left before the rest. -/
@[simp] theorem does_leave {mark : interface.Mark} {rest : Program interface α}
    {deeds : List (Deed interface)} {result : α} :
    Does (leave mark rest) deeds result ↔
      ∃ later, deeds = .left mark :: later ∧ Does rest later result := by
  constructor
  · intro does
    cases does with
    | leave does => exact ⟨_, rfl, does⟩
  · rintro ⟨later, rfl, does⟩
    exact .leave does

/-- A request is answered before the rest. -/
@[simp] theorem does_ask {request : interface.Request}
    {next : interface.Answer request → Program interface α} {deeds : List (Deed interface)}
    {result : α} :
    Does (ask request next) deeds result ↔
      ∃ answer later, deeds = .asked request answer :: later ∧
        Does (next answer) later result := by
  constructor
  · intro does
    cases does with
    | ask answer does => exact ⟨answer, _, rfl, does⟩
  · rintro ⟨answer, later, rfl, does⟩
    exact .ask answer does

/-- What one program after another does. -/
theorem does_bind {program : Program interface α} {next : α → Program interface β}
    {deeds : List (Deed interface)} {result : β} :
    Does (program >>= next) deeds result ↔
      ∃ value front back, Does program front value ∧ Does (next value) back result ∧
        deeds = front ++ back := by
  induction program generalizing deeds with
  | done value =>
    rw [done_bind]
    constructor
    · intro does
      exact ⟨value, [], deeds, .done value, does, rfl⟩
    · rintro ⟨other, front, back, first, second, rfl⟩
      obtain ⟨rfl, rfl⟩ := does_done.mp first
      exact second
  | leave mark rest ih =>
    rw [leave_bind, does_leave]
    constructor
    · rintro ⟨later, rfl, does⟩
      obtain ⟨value, front, back, first, second, rfl⟩ := ih.mp does
      exact ⟨value, .left mark :: front, back, .leave first, second, rfl⟩
    · rintro ⟨value, front, back, first, second, rfl⟩
      obtain ⟨later, rfl, does⟩ := does_leave.mp first
      exact ⟨later ++ back, rfl, ih.mpr ⟨value, later, back, does, second, rfl⟩⟩
  | ask request resume ih =>
    rw [ask_bind, does_ask]
    constructor
    · rintro ⟨answer, later, rfl, does⟩
      obtain ⟨value, front, back, first, second, rfl⟩ := (ih answer).mp does
      exact ⟨value, .asked request answer :: front, back, .ask answer first, second, rfl⟩
    · rintro ⟨value, front, back, first, second, rfl⟩
      obtain ⟨answer, later, rfl, does⟩ := does_ask.mp first
      exact ⟨answer, later ++ back, rfl, (ih answer).mpr ⟨value, later, back, does, second, rfl⟩⟩

/-- A request comes to its answer. -/
theorem does_request {request : interface.Request} {deeds : List (Deed interface)}
    {answer : interface.Answer request} :
    Does (Program.request request) deeds answer ↔ deeds = [.asked request answer] := by
  constructor
  · intro does
    obtain ⟨other, later, rfl, rest⟩ := does_ask.mp does
    obtain ⟨rfl, rfl⟩ := does_done.mp rest
    rfl
  · rintro rfl
    exact .ask answer (.done answer)

/-- After a request a program goes on with the answer. -/
theorem does_request_bind {request : interface.Request}
    {next : interface.Answer request → Program interface β} {deeds : List (Deed interface)}
    {result : β} :
    Does (Program.request request >>= next) deeds result ↔
      ∃ answer later, deeds = .asked request answer :: later ∧ Does (next answer) later result :=
  does_ask

/-- After a mark a program goes on. -/
theorem does_mark_bind {mark : interface.Mark} {next : Unit → Program interface β}
    {deeds : List (Deed interface)} {result : β} :
    Does (Program.mark mark >>= next) deeds result ↔
      ∃ later, deeds = .left mark :: later ∧ Does (next ()) later result :=
  does_leave

/-- The log of a request begins with its answer. -/
theorem log_ask {surroundings : Surroundings interface σ} {request : interface.Request}
    {next : interface.Answer request → Program interface α} {state after : σ}
    {answer : interface.Answer request}
    (answered : surroundings.answer request state = (answer, after)) :
    (ask request next).log surroundings state =
      .asked request answer :: (next answer).log surroundings after := by
  simp only [log, answered]

/-- The log of one program after another is that of the first, then that of the second. -/
theorem log_bind (surroundings : Surroundings interface σ) (program : Program interface α)
    (next : α → Program interface β) (state : σ) :
    (program >>= next).log surroundings state = program.log surroundings state ++
      (next (program.run surroundings state).1).log surroundings
        (program.run surroundings state).2 := by
  induction program generalizing state with
  | done result => rfl
  | leave mark rest ih => exact congrArg (List.cons _) (ih _)
  | ask request resume ih => exact congrArg (List.cons _) (ih _ _)

/-- The log of a run tells what its program does. -/
theorem does_log (surroundings : Surroundings interface σ) (program : Program interface α)
    (state : σ) :
    Does program (program.log surroundings state) (program.run surroundings state).1 := by
  induction program generalizing state with
  | done result => exact .done result
  | leave mark rest ih => exact .leave (ih _)
  | ask request next ih => exact .ask _ (ih _ _)

/-- Each answer in the log of a run was given in some state. -/
theorem exists_answer_of_mem_log {surroundings : Surroundings interface σ}
    {program : Program interface α} {state : σ} {request : interface.Request}
    {answer : interface.Answer request}
    (member : .asked request answer ∈ program.log surroundings state) :
    ∃ before, (surroundings.answer request before).1 = answer := by
  induction program generalizing state with
  | done result => cases member
  | leave mark rest ih =>
    rcases List.mem_cons.mp member with same | member
    · cases same
    · exact ih member
  | ask first next ih =>
    rcases List.mem_cons.mp member with same | member
    · cases same
      exact ⟨state, rfl⟩
    · exact ih _ member

/-- What every deed keeps up holds after a run, of the state and the deeds so far. -/
theorem log_induction {surroundings : Surroundings interface σ}
    {holds : σ → List (Deed interface) → Prop}
    (asked : ∀ request state deeds, holds state deeds →
      holds (surroundings.answer request state).2
        (deeds ++ [.asked request (surroundings.answer request state).1]))
    (left : ∀ mark state deeds, holds state deeds →
      holds (surroundings.keep mark state) (deeds ++ [.left mark]))
    (program : Program interface α) {state : σ} {deeds : List (Deed interface)}
    (start : holds state deeds) :
    holds (program.run surroundings state).2 (deeds ++ program.log surroundings state) := by
  induction program generalizing state deeds with
  | done result =>
    rw [log, List.append_nil]
    exact start
  | leave mark rest ih =>
    have later := ih (left mark state deeds start)
    rwa [List.append_assoc] at later
  | ask request next ih =>
    have later := ih (surroundings.answer request state).1 (asked request state deeds start)
    rwa [List.append_assoc] at later

/-- A run without deeds leaves the surroundings as they are. -/
theorem run_of_log_eq_nil {surroundings : Surroundings interface σ} {program : Program interface α}
    {state : σ} (idle : program.log surroundings state = []) :
    (program.run surroundings state).2 = state := by
  cases program with
  | done result => rfl
  | leave mark rest => cases idle
  | ask request next => cases idle

end Program

end ControlPlane
