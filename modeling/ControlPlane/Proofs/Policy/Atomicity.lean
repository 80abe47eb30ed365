import ControlPlane.Proofs.Policy.Course

/-!
# One update of a protection

An update either changes a stored policy for good or leaves it as it was, whatever fails on the
way: the lock table may answer anything, and the store may refuse to be read or written. The one
exception lies in the failures after the fact: a rollback that the store refuses, and a release that
the table refuses after the body has succeeded, leave the edited policy where it is
(`AtomicUpdate.failed`).

The table is not constrained at all. Of the store it is only assumed that it keeps what is put into
it (`KeepsPolicy`), and of the body that it leaves the locks and the store alone
(`GuardRequest.Apart`).
-/
namespace ControlPlane

variable {Step Reply α ε σ : Type}

/-- A request that deletes no lock and leaves a store alone. -/
def GuardRequest.Apart (store : String) : GuardRequest Step → Prop
  | .delete _ => False
  | .fetch name | .put name _ => name ≠ store
  | .create _ | .get _ | .list | .clock | .requestId _ | .lockCount _ | .step _ => True

namespace Protection

/-- The surroundings keep a policy in a store: it is what is fetched, and it changes when a policy
is put there, unless the put fails. -/
structure KeepsPolicy (surroundings : Surroundings (guardInterface Step Reply) σ) (store : String)
    (held : σ → Option PolicyDocument) : Prop where
  /-- What is fetched is the policy that is held. -/
  fetched : ∀ {state policy}, (surroundings.answer (.fetch store) state).1 = .ok policy →
    policy = held state
  /-- A policy that is put is held afterwards. -/
  put : ∀ {policy state}, (surroundings.answer (.put store policy) state).1 = .ok () →
    held (surroundings.answer (.put store policy) state).2 = policy
  /-- A put that fails changes nothing. -/
  refused : ∀ {policy state failure},
    (surroundings.answer (.put store policy) state).1 = .error failure →
      held (surroundings.answer (.put store policy) state).2 = held state
  /-- No other request changes the policy. -/
  other : ∀ {request state}, (∀ policy, request ≠ .put store policy) →
    held (surroundings.answer request state).2 = held state
  /-- No mark changes the policy. -/
  mark : ∀ {mark state}, held (surroundings.keep mark state) = held state

/-- The policy that an exchange tries to put into a store. -/
def written? (store : String) (call : GuardExchange Step Reply) : Option (Option PolicyDocument) :=
  match call.1 with
  | .put name policy => if name = store then some policy else none
  | _ => none

/-- What a store holds after an exchange. -/
def storedBy (store : String) (held : Option PolicyDocument) :
    GuardExchange Step Reply → Option PolicyDocument
  | ⟨.put name policy, .ok ()⟩ => if name = store then policy else held
  | _ => held

/-- What a store holds after exchanges. -/
def storedAfter (store : String) (held : Option PolicyDocument)
    (calls : List (GuardExchange Step Reply)) : Option PolicyDocument :=
  calls.foldl (storedBy store) held

section Exchanges

variable {store : String} {held policy : Option PolicyDocument}

/-- A put writes its policy. -/
@[simp] theorem written?_put {answer : Except ServiceFailure Unit} :
    written? store ((GuardRequest.put store policy).gets answer : GuardExchange Step Reply) =
      some policy := if_pos rfl

/-- A fetch writes nothing. -/
@[simp] theorem written?_fetch {answer : Except ServiceFailure (Option PolicyDocument)} :
    written? store ((GuardRequest.fetch store).gets answer : GuardExchange Step Reply) = none := rfl

/-- After a put that succeeds its policy is stored. -/
@[simp] theorem storedBy_put_ok {written : Unit} :
    storedBy store held ((GuardRequest.put store policy).gets (.ok written) :
      GuardExchange Step Reply) = policy := if_pos rfl

/-- After a put that fails the same is stored as before. -/
@[simp] theorem storedBy_put_error {failure : ServiceFailure} :
    storedBy store held ((GuardRequest.put store policy).gets (.error failure) :
      GuardExchange Step Reply) = held := rfl

/-- After a fetch the same is stored as before. -/
@[simp] theorem storedBy_fetch {answer : Except ServiceFailure (Option PolicyDocument)} :
    storedBy store held ((GuardRequest.fetch store).gets answer : GuardExchange Step Reply) =
      held := rfl

/-- Without calls the same stays stored. -/
@[simp] theorem storedAfter_nil :
    storedAfter store held ([] : List (GuardExchange Step Reply)) = held := rfl

/-- What is stored after some calls is decided from the first one on. -/
@[simp] theorem storedAfter_cons {call : GuardExchange Step Reply}
    {calls : List (GuardExchange Step Reply)} :
    storedAfter store held (call :: calls) = storedAfter store (storedBy store held call) calls :=
  rfl

/-- What is stored after two series of calls is decided by one after the other. -/
@[simp] theorem storedAfter_append {front back : List (GuardExchange Step Reply)} :
    storedAfter store held (front ++ back) =
      storedAfter store (storedAfter store held front) back :=
  List.foldl_append

end Exchanges

/-- An answer changes what a store holds just as the exchange says. -/
theorem KeepsPolicy.held_answer {surroundings : Surroundings (guardInterface Step Reply) σ}
    {store : String} {held : σ → Option PolicyDocument}
    (keeps : KeepsPolicy surroundings store held) (request : GuardRequest Step) (state : σ) :
    held (surroundings.answer request state).2 =
      storedBy store (held state) ⟨request, (surroundings.answer request state).1⟩ := by
  cases request with
  | put name policy =>
    by_cases same : name = store
    · subst same
      generalize given : (surroundings.answer (.put name policy) state).1 = answer
      cases answer with
      | ok written =>
        rw [keeps.put given]
        exact (if_pos rfl).symm
      | error failure => exact keeps.refused given
    · rw [keeps.other fun other equal => same (GuardRequest.put.inj equal).1]
      generalize (surroundings.answer (.put name policy) state).1 = answer
      cases answer with
      | ok written => exact (if_neg same).symm
      | error failure => rfl
  | _ => exact keeps.other fun other equal => by cases equal

/-- After a run a store holds what the exchanges say. -/
theorem KeepsPolicy.held_run {surroundings : Surroundings (guardInterface Step Reply) σ}
    {store : String} {held : σ → Option PolicyDocument}
    (keeps : KeepsPolicy surroundings store held) (program : Guarded Step Reply α) (state : σ) :
    held (program.run surroundings state).2 =
      storedAfter store (held state) (program.exchanges surroundings state) := by
  induction program generalizing state with
  | done result => rfl
  | leave mark rest ih => exact (ih _).trans (by rw [keeps.mark]; rfl)
  | ask request next ih => exact (ih _ _).trans (by rw [keeps.held_answer]; rfl)

/-- What is fetched in a run is what the exchanges before say. -/
theorem KeepsPolicy.fetched_run {surroundings : Surroundings (guardInterface Step Reply) σ}
    {store : String} {held : σ → Option PolicyDocument}
    (keeps : KeepsPolicy surroundings store held) {program : Guarded Step Reply α} {state : σ}
    {front back : List (GuardExchange Step Reply)} {stored : Option PolicyDocument}
    (calls : program.exchanges surroundings state =
      front ++ (GuardRequest.fetch store).gets (.ok stored) :: back) :
    stored = storedAfter store (held state) front := by
  induction program generalizing state front with
  | done result => simp [Program.exchanges] at calls
  | leave mark rest ih => rw [ih calls, keeps.mark]
  | ask request next ih =>
    cases front with
    | nil =>
      obtain ⟨same, -⟩ := List.cons.inj calls
      obtain ⟨rfl, given⟩ := Sigma.mk.inj same
      exact keeps.fetched (eq_of_heq given)
    | cons first front =>
      obtain ⟨rfl, rest⟩ := List.cons.inj calls
      rw [ih _ rest, keeps.held_answer]
      rfl

/-- The lock of a key has been acquired. -/
def Acquires (key : LockKey) (calls : List (GuardExchange Step Reply)) : Prop :=
  ∃ lock : Lock, lock.id = key.id ∧ (GuardRequest.create lock).gets (.ok ()) ∈ calls

/-- An exchange in which a store refuses to be read or written. -/
def Refuses (store : String) (call : GuardExchange Step Reply) : Prop :=
  (∃ failure, call = (GuardRequest.fetch store).gets (.error failure)) ∨
    ∃ policy failure, call = (GuardRequest.put store policy).gets (.error failure)

/-- A body begins with a step of its own. By such an entry it is seen when a body is begun; any
body can be given one. -/
def Begins (entry : Step) (body : Guarded Step Reply (Except ε α)) : Prop :=
  ∃ rest : Reply → Guarded Step Reply (Except ε α),
    body = .ask (GuardRequest.step entry) rest ∧
      ∀ reply, (rest reply).Asks (· ≠ GuardRequest.step entry)

/-- The order of the exchanges of an update: the body is not begun after it has been begun, nor
after the store has refused something. -/
def BegunOnce (store : String) (entry : Step) (calls : List (GuardExchange Step Reply)) : Prop :=
  calls.Pairwise fun earlier later =>
    later.1 = .step entry → earlier.1 ≠ .step entry ∧ ¬ Refuses store earlier

/-- What an update does to the locks, to a store that holds a policy before and after it, and to its
body. -/
structure AtomicUpdate (store : String) (key : LockKey) (principal : String) (edit : Edit)
    (lift : UpdateError → ε) (body : Guarded Step Reply (Except ε α))
    (before after : Option PolicyDocument) (calls : List (GuardExchange Step Reply))
    (result : Except ε α) : Prop where
  /-- Without the lock nothing is fetched, put, done or deleted. -/
  unlocked : ¬ Acquires key calls →
    (∃ error, result = .error (lift (.lock error))) ∧
      ∀ call ∈ calls, (∀ name, call.1 ≠ .fetch name) ∧ (∀ name policy, call.1 ≠ .put name policy) ∧
        (∀ step, call.1 ≠ .step step) ∧ ∀ lockId, call.1 ≠ .delete lockId
  /-- The lock is released once, at the end. -/
  released : Acquires key calls →
    ∃ front answer, calls = front ++ [(GuardRequest.delete key.id).gets answer] ∧
      ∀ call ∈ front, ∀ lockId, call.1 ≠ .delete lockId
  /-- The body is begun at most once, and not after a refusal of the store. -/
  begun : ∀ entry, Begins entry body → BegunOnce store entry calls
  /-- The body is begun only if the edit has not failed. -/
  edited : ∀ entry, Begins entry body → ∀ call ∈ calls, call.1 = .step entry →
    ∃ changed, edit.applyToStored before principal = .ok changed
  /-- An edit that changes nothing writes nothing. -/
  unwritten : edit.applyToStored before principal = .ok none →
    ∀ call ∈ calls, written? store call = none
  /-- The first policy that is put is the edited one, or none in the place of an empty one. -/
  forward : ∀ policy, calls.findSome? (written? store) = some policy →
    (∃ document, edit.applyToStored before principal = .ok (some document) ∧
        policy = storable document) ∧
      ∀ document, policy = some document → document.statements ≠ []
  /-- A success is one of the body, and after it the store holds the edited policy. -/
  succeeded : ∀ value, result = .ok value →
    (∃ front work back, calls = front ++ work ++ back ∧
        Program.Path body work (.done (.ok value))) ∧
      ((edit.applyToStored before principal = .ok none ∧ after = before) ∨
        ∃ document, edit.applyToStored before principal = .ok (some document) ∧
          after = storable document)
  /-- After an error the store holds what it held before, unless the rollback is refused, or nothing
  but the release has failed. -/
  failed : ∀ error, result = .error error →
    after = before ∨
      ∃ document, edit.applyToStored before principal = .ok (some document) ∧
        after = storable document ∧
        ((∃ failure, List.Sublist [(GuardRequest.put store (storable document)).gets (.ok ()),
            (GuardRequest.put store before).gets (.error failure)] calls) ∨
          ∃ failure releaseError, (GuardRequest.delete key.id).gets (.error failure) ∈ calls ∧
            calls.filterMap (written? store) = [storable document] ∧
            LockService.releaseResult (.error failure) = .error releaseError ∧
            error = lift (.lock releaseError))

/-- What is stored for an edited document has statements. -/
theorem statements_of_storable {edited document : PolicyDocument}
    (stored : storable edited = some document) : document.statements ≠ [] := by
  unfold storable at stored
  split at stored
  · cases stored
  · next filled =>
    cases stored
    intro empty
    rw [empty] at filled
    exact filled rfl

section Apart

variable {store : String} {call : GuardExchange Step Reply}
  {calls : List (GuardExchange Step Reply)}

/-- A request that is apart from the store writes nothing to it. -/
theorem written?_of_apart (apart : call.1.Apart store) : written? store call = none := by
  obtain ⟨request, answer⟩ := call
  cases request with
  | put name policy => exact if_neg apart
  | _ => rfl

/-- A request that is apart from the store leaves what is stored. -/
theorem storedBy_of_apart (apart : call.1.Apart store) (held : Option PolicyDocument) :
    storedBy store held call = held := by
  obtain ⟨request, answer⟩ := call
  cases request with
  | put name policy => cases answer with
    | ok written => exact if_neg apart
    | error failure => rfl
  | _ => rfl

/-- A request that is apart from the store is not one that the store refuses. -/
theorem not_refuses_of_apart (apart : call.1.Apart store) : ¬ Refuses store call := by
  rintro (⟨failure, rfl⟩ | ⟨policy, failure, rfl⟩)
  · exact apart rfl
  · exact apart rfl

/-- A request that is apart from the store deletes no lock. -/
theorem ne_delete_of_apart (apart : call.1.Apart store) (lockId : String) :
    call.1 ≠ .delete lockId := by
  intro same
  rw [same] at apart
  exact apart

/-- Exchanges that leave a store alone write nothing into it. -/
theorem unwritten_of_apart (apart : ∀ call ∈ calls, call.1.Apart store) :
    ∀ call ∈ calls, written? store call = none :=
  fun call member => written?_of_apart (apart call member)

/-- Exchanges that leave a store alone leave it as it is. -/
theorem storedAfter_of_apart (apart : ∀ call ∈ calls, call.1.Apart store)
    (held : Option PolicyDocument) : storedAfter store held calls = held := by
  induction calls with
  | nil => rfl
  | cons first rest ih =>
    rw [List.forall_mem_cons] at apart
    rw [storedAfter_cons, storedBy_of_apart apart.1]
    exact ih apart.2

end Apart

section BegunOnce

variable {store : String} {entry : Step} {calls later : List (GuardExchange Step Reply)}

/-- What does not begin a body may stand after anything. -/
theorem BegunOnce.append (begun : BegunOnce store entry calls)
    (other : ∀ call ∈ later, call.1 ≠ .step entry) : BegunOnce store entry (calls ++ later) := by
  refine List.pairwise_append.mpr ⟨begun, ?_, fun _ _ call member same => ?_⟩
  · refine List.pairwise_of_forall_mem_list fun _ _ call member same => ?_
    exact absurd same (other call member)
  · exact absurd same (other call member)

/-- What does not begin a body may stand before anything, if it leaves the store alone. -/
theorem BegunOnce.prepend (begun : BegunOnce store entry later)
    (other : ∀ call ∈ calls, call.1 ≠ .step entry) (apart : ∀ call ∈ calls, call.1.Apart store) :
    BegunOnce store entry (calls ++ later) := by
  refine List.pairwise_append.mpr ⟨?_, begun, fun call member _ _ _ => ?_⟩
  · refine List.pairwise_of_forall_mem_list fun _ _ call member same => ?_
    exact absurd same (other call member)
  · exact ⟨other call member, not_refuses_of_apart (apart call member)⟩

/-- A body is begun once on every path through it. -/
theorem begunOnce_of_begins {body : Guarded Step Reply (Except ε α)} {outcome : Except ε α}
    (begins : Begins entry body) (worked : Program.Path body calls (.done outcome)) :
    BegunOnce store entry calls := by
  obtain ⟨rest, rfl, others⟩ := begins
  obtain ⟨reply, later, rfl, onward⟩ := Program.path_ask_done.mp worked
  have alone : BegunOnce store entry [(GuardRequest.step entry).gets reply] :=
    List.pairwise_singleton _ _
  exact alone.append ((others reply).of_path onward)

end BegunOnce

section EditCourse

variable {store principal : String} {edit : Edit} {lift : UpdateError → ε} {entry : Step}
  {body : Guarded Step Reply (Except ε α)} {before : Option PolicyDocument}
  {inner : List (GuardExchange Step Reply)} {outcome : Except ε α}

/-- What is fetched first is what the store holds. -/
abbrev Fetches (store : String) (before : Option PolicyDocument)
    (inner : List (GuardExchange Step Reply)) : Prop :=
  ∀ stored rest, inner = (GuardRequest.fetch store).gets (.ok stored) :: rest → stored = before

/-- While the lock is held no lock is deleted. -/
theorem EditCourse.ne_delete (course : EditCourse store principal edit lift body inner outcome)
    (apart : body.Asks (GuardRequest.Apart store)) :
    ∀ call ∈ inner, ∀ lockId, call.1 ≠ .delete lockId := by
  have inside : ∀ {work outcome}, Program.Path body work (.done outcome) →
      ∀ call ∈ work, ∀ lockId, call.1 ≠ .delete lockId :=
    fun worked call member => ne_delete_of_apart (apart.of_path worked call member)
  cases course with
  | unfetched failure => simp
  | refused edited => simp
  | kept edited worked => simpa using inside worked
  | unwritten edited failure => simp
  | written edited worked => simpa using inside worked
  | undone edited worked answer =>
    intro call member
    simp only [List.cons_append, List.mem_cons, List.mem_append, List.not_mem_nil, or_false]
      at member
    obtain rfl | rfl | member | rfl := member
    · simp
    · simp
    · exact inside worked call member
    · simp

/-- The body is begun once, when the fetch, the edit and the first put have gone well. -/
theorem EditCourse.begunOnce (course : EditCourse store principal edit lift body inner outcome)
    (begins : Begins entry body) : BegunOnce store entry inner := by
  cases course with
  | unfetched failure => exact List.pairwise_singleton _ _
  | refused edited => exact List.pairwise_singleton _ _
  | kept edited worked =>
    refine List.pairwise_cons.mpr ⟨fun call member same => ?_, begunOnce_of_begins begins worked⟩
    simp [Refuses]
  | unwritten edited failure =>
    refine List.pairwise_cons.mpr ⟨?_, List.pairwise_singleton _ _⟩
    simp
  | written edited worked =>
    refine List.pairwise_cons.mpr ⟨fun call member same => ?_, ?_⟩
    · simp [Refuses]
    · refine List.pairwise_cons.mpr ⟨fun call member same => ?_, begunOnce_of_begins begins worked⟩
      simp [Refuses]
  | undone edited worked answer =>
    refine List.pairwise_cons.mpr ⟨fun call member same => ?_, ?_⟩
    · simp [Refuses]
    · refine List.pairwise_cons.mpr ⟨fun call member same => ?_, ?_⟩
      · simp [Refuses]
      · exact (begunOnce_of_begins begins worked).append (by simp)

/-- The body is begun only if the edit has not failed. -/
theorem EditCourse.edited (course : EditCourse store principal edit lift body inner outcome)
    (fetches : Fetches store before inner) :
    ∀ call ∈ inner, call.1 = .step entry →
      ∃ changed, edit.applyToStored before principal = .ok changed := by
  cases course with
  | unfetched failure => simp
  | refused edited => simp
  | kept edited worked =>
    obtain rfl := fetches _ _ rfl
    exact fun _ _ _ => ⟨_, edited⟩
  | unwritten edited failure => simp
  | written edited worked =>
    obtain rfl := fetches _ _ rfl
    exact fun _ _ _ => ⟨_, edited⟩
  | undone edited worked answer =>
    obtain rfl := fetches _ _ rfl
    exact fun _ _ _ => ⟨_, edited⟩

/-- An edit that changes nothing puts nothing. -/
theorem EditCourse.written?_eq_none
    (course : EditCourse store principal edit lift body inner outcome)
    (apart : body.Asks (GuardRequest.Apart store)) (fetches : Fetches store before inner)
    (unchanged : edit.applyToStored before principal = .ok none) :
    ∀ call ∈ inner, written? store call = none := by
  cases course with
  | unfetched failure => simp
  | refused edited => simp
  | kept edited worked =>
    rw [List.forall_mem_cons]
    exact ⟨rfl, unwritten_of_apart (apart.of_path worked)⟩
  | unwritten edited failure =>
    obtain rfl := fetches _ _ rfl
    rw [unchanged] at edited
    cases edited
  | written edited worked =>
    obtain rfl := fetches _ _ rfl
    rw [unchanged] at edited
    cases edited
  | undone edited worked answer =>
    obtain rfl := fetches _ _ rfl
    rw [unchanged] at edited
    cases edited

/-- The first policy that is put is the edited one. -/
theorem EditCourse.forward (course : EditCourse store principal edit lift body inner outcome)
    (apart : body.Asks (GuardRequest.Apart store)) (fetches : Fetches store before inner)
    {policy : Option PolicyDocument} (first : inner.findSome? (written? store) = some policy) :
    ∃ document, edit.applyToStored before principal = .ok (some document) ∧
      policy = storable document := by
  cases course with
  | unfetched failure => simp at first
  | refused edited => simp at first
  | kept edited worked =>
    have quiet := List.findSome?_eq_none_iff.mpr (unwritten_of_apart (apart.of_path worked))
    simp [List.findSome?_cons, quiet] at first
  | unwritten edited failure =>
    obtain rfl := fetches _ _ rfl
    exact ⟨_, edited, by simpa [List.findSome?_cons] using first.symm⟩
  | written edited worked =>
    obtain rfl := fetches _ _ rfl
    exact ⟨_, edited, by simpa [List.findSome?_cons] using first.symm⟩
  | undone edited worked answer =>
    obtain rfl := fetches _ _ rfl
    exact ⟨_, edited, by simpa [List.findSome?_cons] using first.symm⟩

/-- If the body succeeds, the store holds the edited policy, which alone has been put. -/
theorem EditCourse.succeeded {value : α}
    (course : EditCourse store principal edit lift body inner (.ok value))
    (apart : body.Asks (GuardRequest.Apart store)) (fetches : Fetches store before inner) :
    (∃ front work, inner = front ++ work ∧ Program.Path body work (.done (.ok value))) ∧
      ((edit.applyToStored before principal = .ok none ∧ storedAfter store before inner = before) ∨
        ∃ document, edit.applyToStored before principal = .ok (some document) ∧
          storedAfter store before inner = storable document ∧
          inner.filterMap (written? store) = [storable document]) := by
  generalize same : (Except.ok value : Except ε α) = outcome at course
  cases course with
  | unfetched failure => cases same
  | refused edited => cases same
  | @kept stored work _ edited worked =>
    subst same
    obtain rfl := fetches _ _ rfl
    exact ⟨⟨[_], work, rfl, worked⟩, .inl ⟨edited, storedAfter_of_apart (apart.of_path worked) _⟩⟩
  | unwritten edited failure => cases same
  | @written stored document work _ edited worked =>
    cases same
    obtain rfl := fetches _ _ rfl
    have quiet := List.filterMap_eq_nil_iff.mpr (unwritten_of_apart (apart.of_path worked))
    refine ⟨⟨[_, _], work, rfl, worked⟩, .inr ⟨document, edited, ?_, ?_⟩⟩
    · simp [storedAfter_of_apart (apart.of_path worked)]
    · simp [List.filterMap_cons, quiet]
  | undone edited worked answer => cases same

/-- If there is an error, the store holds what it held before, unless the rollback is refused. -/
theorem EditCourse.failed {error : ε}
    (course : EditCourse store principal edit lift body inner (.error error))
    (apart : body.Asks (GuardRequest.Apart store)) (fetches : Fetches store before inner) :
    storedAfter store before inner = before ∨
      ∃ document, edit.applyToStored before principal = .ok (some document) ∧
        storedAfter store before inner = storable document ∧
        ∃ failure, List.Sublist [(GuardRequest.put store (storable document)).gets (.ok ()),
          (GuardRequest.put store before).gets (.error failure)] inner := by
  generalize same : (Except.error error : Except ε α) = outcome at course
  cases course with
  | unfetched failure => exact .inl rfl
  | refused edited => exact .inl rfl
  | kept edited worked => exact .inl (storedAfter_of_apart (apart.of_path worked) _)
  | unwritten edited failure => exact .inl rfl
  | written edited worked => cases same
  | @undone stored document work _ edited worked answer =>
    obtain rfl := fetches _ _ rfl
    have still := storedAfter_of_apart (apart.of_path worked) (storable document)
    cases answer with
    | ok undone => exact .inl (by simp [still])
    | error failure =>
      refine .inr ⟨document, edited, by simpa using still, failure, ?_⟩
      have undoing := List.sublist_append_right work
        [(GuardRequest.put store stored).gets (.error failure)]
      exact (undoing.cons_cons _).cons _

end EditCourse

/-- Creating a lock leaves the store alone. -/
theorem apart_of_creation (store : String) (service : LockService) (lock : Lock)
    (answer : Except LockTableError Unit) :
    ∀ call ∈ (service.creation lock answer : List (GuardExchange Step Reply)),
      call.1.Apart store := by
  simp [LockService.creation, GuardRequest.Apart]

/-- Creating a lock does not begin a body. -/
theorem ne_step_of_creation (service : LockService) (lock : Lock)
    (answer : Except LockTableError Unit) (step : Step) :
    ∀ call ∈ (service.creation lock answer : List (GuardExchange Step Reply)),
      call.1 ≠ .step step := by
  simp [LockService.creation]

/-- An acquisition leaves the store alone. -/
theorem apart_of_attempt {service : LockService} {lock : Lock} {store : String}
    {calls : List (GuardExchange Step Reply)} {outcome : Except LockError LockOutcome}
    (attempt : service.Attempt lock calls outcome) : ∀ call ∈ calls, call.1.Apart store := by
  cases attempt <;> simp [LockService.creation, GuardRequest.Apart]

/-- An acquisition does not begin a body. -/
theorem ne_step_of_attempt {service : LockService} {lock : Lock} {step : Step}
    {calls : List (GuardExchange Step Reply)} {outcome : Except LockError LockOutcome}
    (attempt : service.Attempt lock calls outcome) : ∀ call ∈ calls, call.1 ≠ .step step := by
  cases attempt <;> simp [LockService.creation]

/-- A lock that is not given has not been created. -/
theorem not_acquires_of_attempt {service : LockService} {lock : Lock} (key : LockKey)
    {calls : List (GuardExchange Step Reply)} {outcome : Except LockError LockOutcome}
    {error : LockError} (attempt : service.Attempt lock calls outcome)
    (given : LockService.required outcome = .error error) : ¬ Acquires key calls := by
  rintro ⟨other, -, member⟩
  cases attempt with
  | acquired => cases given
  | _ => simp [LockService.creation] at member

section Update

variable {service : LockService} {lock : Lock} {store : String} {key : LockKey}
  {principal : String} {edit : Edit} {lift : UpdateError → ε}
  {body : Guarded Step Reply (Except ε α)} {before : Option PolicyDocument}

/-- An update that does not get its lock is atomic. -/
theorem atomic_of_attempt {calls : List (GuardExchange Step Reply)}
    {outcome : Except LockError LockOutcome} {error : LockError}
    (attempt : service.Attempt lock calls outcome)
    (given : LockService.required outcome = .error error) :
    AtomicUpdate store key principal edit lift body before (storedAfter store before calls) calls
      (.error (lift (.lock error))) := by
  have apart : ∀ call ∈ calls, call.1.Apart store := apart_of_attempt attempt
  have quiet : ∀ call ∈ calls, written? store call = none := unwritten_of_apart apart
  have notAcquired := not_acquires_of_attempt key attempt given
  constructor
  case unlocked =>
    refine fun _ => ⟨⟨error, rfl⟩, ?_⟩
    cases attempt <;> simp [LockService.creation]
  case released => exact fun acquired => absurd acquired notAcquired
  case begun =>
    intro entry begins
    have nothing : BegunOnce store entry ([] : List (GuardExchange Step Reply)) := .nil
    simpa using nothing.prepend (ne_step_of_attempt attempt) apart
  case edited =>
    exact fun entry _ call member same => absurd same (ne_step_of_attempt attempt call member)
  case unwritten => exact fun _ => quiet
  case forward =>
    intro policy first
    rw [List.findSome?_eq_none_iff.mpr quiet] at first
    cases first
  case succeeded => simp
  case failed => exact fun _ _ => .inl (storedAfter_of_apart apart before)

/-- An update that gets its lock is atomic. -/
theorem atomic_of_course {inner : List (GuardExchange Step Reply)} {outcome : Except ε α}
    {answer : Except LockTableError Unit} (same : lock.id = key.id)
    (course : EditCourse store principal edit lift body inner outcome)
    (apart : body.Asks (GuardRequest.Apart store)) (fetches : Fetches store before inner) :
    let calls := service.creation lock (.ok ()) ++ inner ++
      [(GuardRequest.delete lock.id).gets answer]
    AtomicUpdate store key principal edit lift body before (storedAfter store before calls) calls
      (LockService.concluded (fun error => lift (.lock error)) outcome
        (LockService.releaseResult answer)) := by
  intro calls
  have taking : ∀ call ∈ (service.creation lock (.ok ()) : List (GuardExchange Step Reply)),
      call.1.Apart store := apart_of_creation store service lock _
  have quiet : ∀ call ∈ (service.creation lock (.ok ()) : List (GuardExchange Step Reply)),
      written? store call = none := unwritten_of_apart taking
  have acquired : Acquires key calls := ⟨lock, same, by simp [calls, LockService.creation]⟩
  have after : storedAfter store before calls = storedAfter store before inner := by
    simp only [calls, storedAfter_append, storedAfter_of_apart taking]
    rfl
  rw [after]
  constructor
  case unlocked => exact fun notAcquired => absurd acquired notAcquired
  case released =>
    refine fun _ => ⟨service.creation lock (.ok ()) ++ inner, answer, by rw [← same], ?_⟩
    refine List.forall_mem_append.mpr ⟨?_, course.ne_delete apart⟩
    exact fun call member => ne_delete_of_apart (taking call member)
  case begun =>
    intro entry begins
    have preceded := (course.begunOnce begins).prepend (ne_step_of_creation service lock _ _) taking
    exact preceded.append (by simp)
  case edited =>
    intro entry _ call member entered
    have inside : call ∈ inner := by
      simp only [calls, List.mem_append, List.mem_singleton] at member
      obtain (member | member) | rfl := member
      · exact absurd entered (ne_step_of_creation service lock _ _ call member)
      · exact member
      · cases entered
    exact course.edited fetches call inside entered
  case unwritten =>
    intro unchanged
    refine List.forall_mem_append.mpr ⟨List.forall_mem_append.mpr ⟨quiet, ?_⟩, by simp [written?]⟩
    exact course.written?_eq_none apart fetches unchanged
  case forward =>
    intro policy first
    simp only [calls, List.findSome?_append, List.findSome?_eq_none_iff.mpr quiet,
      Option.none_or] at first
    simp only [List.findSome?_cons, written?, List.findSome?_nil, Option.or_none] at first
    obtain ⟨document, edited, rfl⟩ := course.forward apart fetches first
    exact ⟨⟨document, edited, rfl⟩, fun _ => statements_of_storable⟩
  case succeeded =>
    intro value concluded
    cases outcome with
    | ok other =>
      obtain rfl := LockService.eq_of_concluded_ok concluded
      obtain ⟨⟨front, work, rfl, worked⟩, stored⟩ := course.succeeded apart fetches
      have inside : calls = service.creation lock (.ok ()) ++ front ++ work ++
          [(GuardRequest.delete lock.id).gets answer] := by simp only [calls, List.append_assoc]
      refine ⟨⟨_, work, _, inside, worked⟩, ?_⟩
      obtain noop | ⟨document, edited, stored, -⟩ := stored
      · exact .inl noop
      · exact .inr ⟨document, edited, stored⟩
    | error error => cases concluded
  case failed =>
    intro error concluded
    cases outcome with
    | ok value =>
      obtain ⟨-, stored⟩ | ⟨document, edited, stored, alone⟩ := (course.succeeded apart fetches).2
      · exact .inl stored
      · refine .inr ⟨document, edited, stored, .inr ?_⟩
        cases answer with
        | ok deleted => cases concluded
        | error failure =>
          obtain ⟨releaseError, given⟩ := LockService.exists_releaseResult_error failure
          rw [given] at concluded
          cases concluded
          have nothing := List.filterMap_eq_nil_iff.mpr quiet
          refine ⟨failure, releaseError, by simp [calls, same], ?_, given, rfl⟩
          simp [calls, nothing, alone, List.filterMap_cons, written?]
    | error bodyError =>
      obtain stored | ⟨document, edited, stored, failure, order⟩ := course.failed apart fetches
      · exact .inl stored
      · refine .inr ⟨document, edited, stored, .inl ⟨failure, ?_⟩⟩
        exact (order.trans (List.sublist_append_right _ _)).trans (List.sublist_append_left _ _)

end Update

/-- An update keeps to its lock, its store and its body, whatever the lock table answers. -/
theorem update_atomic {surroundings : Surroundings (guardInterface Step Reply) σ} {store : String}
    {held : σ → Option PolicyDocument} (keeps : KeepsPolicy surroundings store held)
    (service : LockService) (key : LockKey) (principal : String) (edit : Edit)
    (lift : UpdateError → ε) (describe : ε → String) {body : Guarded Step Reply (Except ε α)}
    (apart : body.Asks (GuardRequest.Apart store)) (state : σ) :
    let operation := update service store key principal edit lift describe body
    AtomicUpdate store key principal edit lift body (held state)
      (held (operation.run surroundings state).2) (operation.exchanges surroundings state)
      (operation.run surroundings state).1 := by
  intro operation
  have after := keeps.held_run operation state
  have path := Program.path_run surroundings operation state
  have fetched : ∀ front back stored, operation.exchanges surroundings state =
      front ++ (GuardRequest.fetch store).gets (.ok stored) :: back →
      stored = storedAfter store (held state) front :=
    fun _ _ _ same => keeps.fetched_run same
  rw [after]
  generalize operation.exchanges surroundings state = calls at path fetched ⊢
  generalize (operation.run surroundings state).1 = result at path ⊢
  generalize held state = before at fetched ⊢
  obtain ⟨requestId, now, ⟨outcome, error, attempt, given, rfl⟩ |
    ⟨inner, outcome, answer, holding, rfl, rfl⟩⟩ := LockService.path_withLock path
  · exact atomic_of_attempt attempt given
  · refine atomic_of_course rfl (path_editStored holding) apart fun stored later first => ?_
    have same := fetched (service.creation _ (.ok ())) _ stored (by rw [first]; simp; rfl)
    rw [same]
    exact storedAfter_of_apart (apart_of_creation store service _ _) before

/-- One policy store, and a lock table that creates every lock and deletes none. -/
def losingLocks : Surroundings (guardInterface Unit Unit) (Option PolicyDocument) where
  answer
    | .create _, policy => (.ok (), policy)
    | .get lockId, policy => (.error (.notFound lockId), policy)
    | .delete lockId, policy => (.error (.notFound lockId), policy)
    | .list, policy => (.ok [], policy)
    | .clock, policy => (.epoch, policy)
    | .requestId _, policy => ("request", policy)
    | .lockCount _, policy => (0, policy)
    | .fetch _, policy => (.ok policy, policy)
    | .put name policy, held => (.ok (), if name = "catalog" then policy else held)
    | .step _, policy => ((), policy)
  keep _ policy := policy

/-- An update whose release is refused after its body has succeeded. -/
theorem update_atomic_losingLocks :
    let key : LockKey := ⟨"sales", .dataset, none, none⟩
    let edit : Edit := .protect (NameSet.ofList ["arn:aws:glue:eu-west-1:1:database/sales"])
    let body : Guarded Unit Unit (Except UpdateError Unit) :=
      .ask (.step ()) fun _ => .done (.ok ())
    let operation := update ⟨"sync", ⟨0⟩⟩ "catalog" key "arn:aws:iam::1:root" edit id
      UpdateError.message body
    KeepsPolicy losingLocks "catalog" id ∧ body.Asks (GuardRequest.Apart "catalog") ∧
      AtomicUpdate "catalog" key "arn:aws:iam::1:root" edit id body none
        (operation.run losingLocks none).2 (operation.exchanges losingLocks none)
        (operation.run losingLocks none).1 := by
  intro key edit body operation
  have keeps : KeepsPolicy losingLocks "catalog" id := by
    constructor
    case fetched => exact fun given => (Except.ok.inj given).symm
    case put => exact fun _ => by simp [losingLocks]
    case refused =>
      intro policy put failure given
      cases given
    case other =>
      intro request policy different
      cases request with
      | put name put =>
        refine if_neg fun same => ?_
        subst same
        exact different put rfl
      | _ => rfl
    case mark => exact fun {_ _} => rfl
  have apart : body.Asks (GuardRequest.Apart "catalog") := ⟨trivial, fun _ => trivial⟩
  exact ⟨keeps, apart, update_atomic keeps ⟨"sync", ⟨0⟩⟩ key "arn:aws:iam::1:root" edit id
    UpdateError.message apart none⟩

end Protection

end ControlPlane
