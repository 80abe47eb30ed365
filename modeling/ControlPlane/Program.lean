/-!
# Programs

A program is what an operation does, one request at a time: it asks its surroundings for
something, goes on with the answer, and leaves marks, such as events, behind. A program does not
say how requests are answered. `Program.run` answers them from a state; the same program can be
run against a table in memory, against scripted failures, or one request at a time between the
requests of other programs (`Program.step`).
-/
namespace ControlPlane

/-- The requests of programs, the type of the answer to each, and the marks they leave. -/
structure Interface where
  /-- The requests that programs make. -/
  Request : Type
  /-- The type of the answer to a request. -/
  Answer : Request → Type
  /-- The marks that programs leave. -/
  Mark : Type

/-- What an operation does up to its result. -/
inductive Program (interface : Interface) (α : Type) : Type where
  /-- The operation has its result. -/
  | done (result : α)
  /-- The operation leaves a mark and goes on. -/
  | leave (mark : interface.Mark) (rest : Program interface α)
  /-- The operation makes a request and goes on with the answer. -/
  | ask (request : interface.Request) (next : interface.Answer request → Program interface α)

/-- The surroundings of programs, with a state. -/
structure Surroundings (interface : Interface) (σ : Type) where
  /-- Answer a request. -/
  answer : (request : interface.Request) → σ → interface.Answer request × σ
  /-- Keep a mark. -/
  keep : interface.Mark → σ → σ

namespace Program

variable {interface : Interface} {α β σ : Type}

/-- Go on with the result of a program. -/
def bind : Program interface α → (α → Program interface β) → Program interface β
  | done result, next => next result
  | leave mark rest, next => leave mark (bind rest next)
  | ask request resume, next => ask request fun answer => bind (resume answer) next

/-- Programs go on with the results of others. -/
instance : Monad (Program interface) where
  pure := done
  bind := bind

/-- A program that only has a result is done. -/
@[simp] theorem pure_eq_done (result : α) : (pure result : Program interface α) = done result := rfl

/-- A program that is done goes on at once. -/
@[simp] theorem done_bind (result : α) (next : α → Program interface β) :
    (done result >>= next) = next result := rfl

/-- What comes after a program comes after its marks. -/
@[simp] theorem leave_bind (mark : interface.Mark) (rest : Program interface α)
    (next : α → Program interface β) : (leave mark rest >>= next) = leave mark (rest >>= next) :=
  rfl

/-- What comes after a program comes after its requests. -/
@[simp] theorem ask_bind (request : interface.Request)
    (resume : interface.Answer request → Program interface α)
    (next : α → Program interface β) :
    (ask request resume >>= next) = ask request fun answer => resume answer >>= next := rfl

/-- Make a request and give its answer. -/
def request (request : interface.Request) : Program interface (interface.Answer request) :=
  ask request done

/-- Leave a mark. -/
def mark (mark : interface.Mark) : Program interface Unit := leave mark (done ())

/-- Leave marks one after another. -/
def marks : List interface.Mark → Program interface Unit
  | [] => done ()
  | first :: rest => leave first (marks rest)

/-- Go on with the value of a program that succeeds, and stop with the error of one that fails. -/
def andThen {ε : Type} (program : Program interface (Except ε α))
    (next : α → Program interface (Except ε β)) : Program interface (Except ε β) :=
  program.bind fun
    | .ok value => next value
    | .error error => done (.error error)

/-- Run a program to its end. -/
def run (surroundings : Surroundings interface σ) : Program interface α → σ → α × σ
  | done result, state => (result, state)
  | leave mark rest, state => run surroundings rest (surroundings.keep mark state)
  | ask request next, state =>
    let (answer, after) := surroundings.answer request state
    run surroundings (next answer) after

/-- Keep the marks at the front of a program. -/
def settle (surroundings : Surroundings interface σ) :
    Program interface α → σ → Program interface α × σ
  | leave mark rest, state => settle surroundings rest (surroundings.keep mark state)
  | program, state => (program, state)

/-- Answer one request and keep the marks up to the next. -/
def step (surroundings : Surroundings interface σ) :
    Program interface α → σ → Program interface α × σ
  | ask request next, state =>
    let (answer, after) := surroundings.answer request state
    settle surroundings (next answer) after
  | program, state => settle surroundings program state

/-- Two programs one after the other run one after the other. -/
theorem run_bind (surroundings : Surroundings interface σ) (program : Program interface α)
    (next : α → Program interface β) (state : σ) :
    (program.bind next).run surroundings state =
      let (result, after) := program.run surroundings state
      (next result).run surroundings after := by
  induction program generalizing state with
  | done result => rfl
  | leave mark rest ih => exact ih _
  | ask request resume ih => exact ih _ _

/-- Marks do not change what a program does with them kept first. -/
theorem run_settle (surroundings : Surroundings interface σ) (program : Program interface α)
    (state : σ) :
    (program.settle surroundings state).1.run surroundings (program.settle surroundings state).2 =
      program.run surroundings state := by
  induction program generalizing state with
  | done result => rfl
  | leave mark rest ih => exact ih _
  | ask request resume ih => rfl

/-- A step and the rest of the run make up the run. -/
theorem run_step (surroundings : Surroundings interface σ) (program : Program interface α)
    (state : σ) :
    (program.step surroundings state).1.run surroundings (program.step surroundings state).2 =
      program.run surroundings state := by
  cases program with
  | done result => rfl
  | leave mark rest => exact run_settle surroundings (leave mark rest) state
  | ask request resume => exact run_settle surroundings _ _

end Program

end ControlPlane
