import ControlPlane.Proofs.Session.Provenance

/-!
# Caches as exact maps

Surroundings whose caches lose nothing: a session is found under a key just if it was kept under it
and not dropped since (`Keeping.exactly`). Everything else, such as the clock, the accounts and the
credentials, is answered by any other surroundings, with a state of their own.

What is found is thereby a fold over the deeds (`Exact`), for the sessions of targets and for those
of control-plane accounts. A session that nothing asks for can be taken out of the cache, and
everything goes on as before (`turns_without`).
-/
namespace ControlPlane

/-- Kept sessions, and the state of everything else. -/
structure Keeping (τ : Type) where
  /-- The sessions of targets. -/
  sessions : SessionStore SessionKey
  /-- The sessions of control-plane accounts. -/
  controlSessions : SessionStore ControlPlaneKey
  /-- The state of everything else. -/
  outside : τ

namespace Keeping

variable {τ α : Type} {outside : Surroundings brokerInterface τ} {key : SessionKey}

/-- Surroundings whose caches are exact maps. Everything else is answered outside. -/
def exactly (outside : Surroundings brokerInterface τ) :
    Surroundings brokerInterface (Keeping τ) where
  answer
    | .session key, state => (state.sessions.find? key, state)
    | .controlSession key, state => (state.controlSessions.find? key, state)
    | request, state =>
      let (answer, after) := outside.answer request state.outside
      (answer, { state with outside := after })
  keep
    | .event event, state =>
      { state with outside := outside.keep (.event event) state.outside }
    | .keep session, state =>
      { state with sessions := state.sessions.keep session.key session }
    | .drop key, state => { state with sessions := state.sessions.drop key }
    | .keepControl key session, state =>
      { state with controlSessions := state.controlSessions.keep key session }
    | .dropControl key, state => { state with controlSessions := state.controlSessions.drop key }
    | .dropAll, state => { state with sessions := .empty, controlSessions := .empty }

/-- The same with one session taken out of the cache. -/
def without (key : SessionKey) (state : Keeping τ) : Keeping τ :=
  { state with sessions := state.sessions.drop key }

end Keeping

/-- A fold whose steps leave a state as it is does so, too. -/
theorem foldl_eq_self {σ α : Type} {step : σ → α → σ} {items : List α}
    (leave : ∀ item ∈ items, ∀ state, step state item = state) (state : σ) :
    items.foldl step state = state := by
  induction items with
  | nil => rfl
  | cons item rest ih =>
    obtain ⟨first, others⟩ := List.forall_mem_cons.mp leave
    rw [List.foldl_cons, first state]
    exact ih others

/-- A request is answered by what was done before. -/
def AnswersBy (request : BrokerRequest) (answered : List BrokerDeed → request.Answer)
    (deeds : List BrokerDeed) : Prop :=
  ∀ front answer rest, deeds = front ++ .asked request answer :: rest → answer = answered front

/-- One more deed. -/
theorem AnswersBy.concat {request : BrokerRequest} {answered : List BrokerDeed → request.Answer}
    {deeds : List BrokerDeed} {deed : BrokerDeed} (earlier : AnswersBy request answered deeds)
    (last : ∀ answer, deed = .asked request answer → answer = answered deeds) :
    AnswersBy request answered (deeds ++ [deed]) := by
  intro front answer rest split
  rcases Deed.cases_of_concat split with ⟨rfl, same⟩ | ⟨between, same⟩
  · exact last answer same
  · exact earlier front answer between same

/-- The caches are exact maps during some deeds. -/
structure Exact {τ : Type} (before after : Keeping τ) (deeds : List BrokerDeed) : Prop where
  /-- A session of a target is there if it was kept and not dropped since. -/
  sessions : ∀ key : SessionKey,
    after.sessions.find? key = deeds.foldl key.keptAfter (before.sessions.find? key)
  /-- So is a session of a control-plane account. -/
  controlSessions : ∀ key : ControlPlaneKey,
    after.controlSessions.find? key = deeds.foldl key.keptAfter (before.controlSessions.find? key)
  /-- What is found for a target is the session that is kept by then. -/
  found : ∀ key : SessionKey, AnswersBy (.session key)
    (fun front => front.foldl key.keptAfter (before.sessions.find? key)) deeds
  /-- So is what is found for a control-plane account. -/
  foundControl : ∀ key : ControlPlaneKey, AnswersBy (.controlSession key)
    (fun front => front.foldl key.keptAfter (before.controlSessions.find? key)) deeds

namespace Exact

open Keeping

variable {τ α : Type} {outside : Surroundings brokerInterface τ} {before after : Keeping τ}
  {deeds : List BrokerDeed}

/-- A request is answered from the caches, and leaves them as they are. -/
theorem asked (exact : Exact before after deeds) (request : BrokerRequest) :
    Exact before ((exactly outside).answer request after).2
      (deeds ++ [.asked request ((exactly outside).answer request after).1]) := by
  have still : ((exactly outside).answer request after).2.sessions = after.sessions ∧
      ((exactly outside).answer request after).2.controlSessions = after.controlSessions := by
    cases request <;> exact ⟨rfl, rfl⟩
  constructor
  case sessions =>
    intro key
    rw [still.1, exact.sessions, List.foldl_append]
    rfl
  case controlSessions =>
    intro key
    rw [still.2, exact.controlSessions, List.foldl_append]
    rfl
  case found =>
    refine fun key => (exact.found key).concat fun answer same => ?_
    obtain ⟨rfl, given⟩ := Deed.asked.inj same
    exact (eq_of_heq given).symm.trans (exact.sessions key)
  case foundControl =>
    refine fun key => (exact.foundControl key).concat fun answer same => ?_
    obtain ⟨rfl, given⟩ := Deed.asked.inj same
    exact (eq_of_heq given).symm.trans (exact.controlSessions key)

/-- A mark changes the caches as it says. -/
theorem left (exact : Exact before after deeds) (mark : BrokerMark) :
    Exact before ((exactly outside).keep mark after) (deeds ++ [.left mark]) := by
  constructor
  case sessions =>
    intro key
    rw [List.foldl_append, ← exact.sessions key]
    cases mark with
    | keep session =>
      simp only [exactly, SessionStore.find?_keep, List.foldl_cons, List.foldl_nil,
        SessionKey.keptAfter, eq_comm]
    | drop dropped =>
      simp only [exactly, SessionStore.find?_drop, List.foldl_cons, List.foldl_nil,
        SessionKey.keptAfter, eq_comm]
    | _ => rfl
  case controlSessions =>
    intro key
    rw [List.foldl_append, ← exact.controlSessions key]
    cases mark with
    | keepControl other session =>
      simp only [exactly, SessionStore.find?_keep, List.foldl_cons, List.foldl_nil,
        ControlPlaneKey.keptAfter, eq_comm]
    | dropControl dropped =>
      simp only [exactly, SessionStore.find?_drop, List.foldl_cons, List.foldl_nil,
        ControlPlaneKey.keptAfter, eq_comm]
    | _ => rfl
  case found =>
    refine fun key => (exact.found key).concat fun answer same => ?_
    cases same
  case foundControl =>
    refine fun key => (exact.foundControl key).concat fun answer same => ?_
    cases same

/-- Without deeds nothing changes. -/
theorem refl (state : Keeping τ) : Exact state state [] where
  sessions _ := rfl
  controlSessions _ := rfl
  found _ front _ _ split := by simp at split
  foundControl _ front _ _ split := by simp at split

end Exact

namespace Program

open Keeping

variable {τ α : Type} {outside : Surroundings brokerInterface τ} {key : SessionKey}

/-- The caches are exact maps during a run. -/
theorem exact_log (program : Brokered α) (state : Keeping τ) :
    Exact state (program.run (exactly outside) state).2 (program.log (exactly outside) state) :=
  @log_induction brokerInterface α (Keeping τ) (exactly outside) (Exact state)
    (fun request _ _ exact => exact.asked request) (fun mark _ _ exact => exact.left mark)
    program state [] (.refl state)

end Program

namespace Keeping

variable {τ α : Type} {outside : Surroundings brokerInterface τ} {key : SessionKey}

/-- A deed has nothing to do with a kept session of a target: it is not looked for, and none is kept
in its place. -/
def Spares (key : SessionKey) (deed : BrokerDeed) : Prop :=
  (∀ answer, deed ≠ .asked (.session key) answer) ∧
    ∀ session, deed = .left (.keep session) → session.key ≠ key

/-- Sessions of two keys are dropped in either order. -/
theorem drop_comm (store : SessionStore SessionKey) (first second : SessionKey) :
    (store.drop first).drop second = (store.drop second).drop first := by
  simp only [SessionStore.drop, List.filter_filter, Bool.and_comm]

/-- A session is dropped before another one is kept, or after it. -/
theorem drop_keep (store : SessionStore SessionKey) {session : Session}
    (other : session.key ≠ key) :
    (store.keep session.key session).drop key = (store.drop key).keep session.key session := by
  simp only [SessionStore.keep, drop_comm store key session.key]
  simp [SessionStore.drop, other]

/-- A mark of a deed that spares a session is kept with it or without it. -/
theorem keep_without {mark : BrokerMark} (spares : Spares key (.left mark)) (state : Keeping τ) :
    (exactly outside).keep mark (state.without key) =
      ((exactly outside).keep mark state).without key := by
  cases mark with
  | keep session =>
    have other : session.key ≠ key := spares.2 session rfl
    simp only [exactly, without, drop_keep state.sessions other]
  | drop dropped => simp only [exactly, without, drop_comm state.sessions key dropped]
  | dropAll => rfl
  | _ => rfl

/-- A request that spares a session is answered with it or without it. -/
theorem answer_without {request : BrokerRequest} {state : Keeping τ}
    (spares : Spares key (.asked request ((exactly outside).answer request state).1)) :
    (exactly outside).answer request (state.without key) =
      (((exactly outside).answer request state).1,
        ((exactly outside).answer request state).2.without key) := by
  cases request with
  | session wanted =>
    have other : wanted ≠ key := fun same => by
      subst same
      exact spares.1 _ rfl
    simp only [exactly, without, SessionStore.find?_drop, if_neg other]
  | _ => rfl

/-- A program that spares a session does the same without it. -/
theorem run_without (program : Brokered α) (state : Keeping τ)
    (spares : ∀ deed ∈ program.log (exactly outside) state, Spares key deed) :
    program.log (exactly outside) (state.without key) = program.log (exactly outside) state ∧
      program.run (exactly outside) (state.without key) =
        ((program.run (exactly outside) state).1,
          (program.run (exactly outside) state).2.without key) := by
  induction program generalizing state with
  | done result => exact ⟨rfl, rfl⟩
  | leave mark rest ih =>
    have kept : (exactly outside).keep mark (state.without key) = _ :=
      keep_without (spares _ List.mem_cons_self) state
    have later := ih ((exactly outside).keep mark state)
      fun deed member => spares deed (List.mem_cons_of_mem _ member)
    simp only [Program.log, Program.run, kept]
    exact ⟨congrArg (List.cons _) later.1, later.2⟩
  | ask request next ih =>
    have answered := answer_without (spares _ List.mem_cons_self)
    have later := ih ((exactly outside).answer request state).1
      ((exactly outside).answer request state).2
      fun deed member => spares deed (List.mem_cons_of_mem _ member)
    simp only [Program.log, Program.run, answered]
    exact ⟨congrArg (List.cons _) later.1, later.2⟩

end Keeping

/-- The same turn among surroundings with other states. -/
def Turn.mapState {σ : Type} (change : σ → σ) (turn : Turn σ) : Turn σ :=
  { turn with before := change turn.before, after := change turn.after }

namespace Broker

variable {σ τ : Type} {broker : Broker} {surroundings : Surroundings brokerInterface σ}
  {outside : Surroundings brokerInterface τ} {calls : List BrokerCall} {key : SessionKey}

/-- The state that calls lead to one after another. -/
def reached (broker : Broker) (surroundings : Surroundings brokerInterface σ)
    (calls : List BrokerCall) (state : σ) : σ :=
  calls.foldl (fun state call => (broker.turn surroundings call state).after) state

/-- There is a turn for each call. -/
theorem map_call_turns (calls : List BrokerCall) (state : σ) :
    (broker.turns surroundings calls state).map (·.call) = calls := by
  induction calls generalizing state with
  | nil => rfl
  | cons call rest ih => exact congrArg (List.cons call) (ih _)

/-- Calls after others go on where these lead to. -/
theorem turns_append (front back : List BrokerCall) (state : σ) :
    broker.turns surroundings (front ++ back) state = broker.turns surroundings front state ++
      broker.turns surroundings back (broker.reached surroundings front state) := by
  induction front generalizing state with
  | nil => rfl
  | cons call rest ih => exact congrArg (List.cons _) (ih _)

/-- The turns of calls that come after some others are those of calls that come after some. -/
theorem exists_of_turns_eq_append {past later : List (Turn σ)} {state : σ}
    (turns : broker.turns surroundings calls state = past ++ later) :
    ∃ front back, calls = front ++ back ∧ past = broker.turns surroundings front state ∧
      later = broker.turns surroundings back (broker.reached surroundings front state) := by
  induction past generalizing calls state with
  | nil => exact ⟨[], calls, rfl, rfl, turns.symm⟩
  | cons turn past ih =>
    cases calls with
    | nil => cases turns
    | cons call rest =>
      obtain ⟨rfl, others⟩ := List.cons.inj turns
      obtain ⟨front, back, rfl, rfl, rfl⟩ := ih others
      exact ⟨call :: front, back, rfl, rfl, rfl⟩

/-- A turn that comes after some others is that of a call in the state that these lead to. -/
theorem exists_of_turns_eq_cons {past later : List (Turn σ)} {turn : Turn σ} {state : σ}
    (turns : broker.turns surroundings calls state = past ++ turn :: later) :
    ∃ front call back, calls = front ++ call :: back ∧
      past = broker.turns surroundings front state ∧
      turn = broker.turn surroundings call (broker.reached surroundings front state) ∧
      later = broker.turns surroundings back turn.after := by
  obtain ⟨front, back, rfl, rfl, rest⟩ := exists_of_turns_eq_append turns
  cases back with
  | nil => cases rest
  | cons call back =>
    obtain ⟨rfl, rfl⟩ := List.cons.inj rest
    exact ⟨front, call, back, rfl, rfl, rfl, rfl⟩

/-- What holds at first and is kept up by some turns holds before the next one. -/
theorem holds_before (holds : σ → Prop) {between later : List (Turn σ)} {next : Turn σ} {state : σ}
    (turns : broker.turns surroundings calls state = between ++ next :: later)
    (start : holds state) (step : ∀ other ∈ between, holds other.before → holds other.after) :
    holds next.before := by
  induction between generalizing calls state with
  | nil =>
    cases calls with
    | nil => cases turns
    | cons call rest =>
      obtain ⟨rfl, -⟩ := List.cons.inj turns
      exact start
  | cons other between ih =>
    cases calls with
    | nil => cases turns
    | cons call rest =>
      obtain ⟨rfl, others⟩ := List.cons.inj turns
      have kept : holds (broker.turn surroundings call state).after :=
        step _ List.mem_cons_self start
      exact ih others kept fun other member => step other (List.mem_cons_of_mem _ member)

/-- What holds after a turn and is kept up by those that follow holds before the next one. -/
theorem holds_before_next (holds : σ → Prop) {past between later : List (Turn σ)}
    {turn next : Turn σ} {state : σ}
    (turns : broker.turns surroundings calls state = past ++ turn :: (between ++ next :: later))
    (start : holds turn.after) (step : ∀ other ∈ between, holds other.before → holds other.after) :
    holds next.before := by
  obtain ⟨-, -, back, -, -, -, rest⟩ := exists_of_turns_eq_cons turns
  exact holds_before holds rest.symm start step

/-- Calls that spare a session do the same without it. -/
theorem turns_without {state : Keeping τ}
    (spare : ∀ turn ∈ broker.turns (Keeping.exactly outside) calls state, ∀ deed ∈ turn.deeds,
      Keeping.Spares key deed) :
    broker.turns (Keeping.exactly outside) calls (state.without key) =
      (broker.turns (Keeping.exactly outside) calls state).map
        (Turn.mapState (Keeping.without key)) := by
  induction calls generalizing state with
  | nil => rfl
  | cons call rest ih =>
    obtain ⟨log, run⟩ := Keeping.run_without (broker.perform call) state
      (spare _ List.mem_cons_self)
    have first : broker.turn (Keeping.exactly outside) call (state.without key) =
        (broker.turn (Keeping.exactly outside) call state).mapState (Keeping.without key) := by
      simp only [turn, Turn.mapState, log, run]
    have others := ih fun turn member => spare turn (List.mem_cons_of_mem _ member)
    simp only [turns, List.map_cons, first]
    exact congrArg (List.cons _) others

/-- The caches are exact maps during a turn. -/
theorem exact_of_mem_turns {turn : Turn (Keeping τ)} {state : Keeping τ}
    (member : turn ∈ broker.turns (Keeping.exactly outside) calls state) :
    Exact turn.before turn.after turn.deeds := by
  obtain ⟨call, before, rfl⟩ := exists_of_mem_turns member
  exact Program.exact_log (broker.perform call) before

end Broker
end ControlPlane
