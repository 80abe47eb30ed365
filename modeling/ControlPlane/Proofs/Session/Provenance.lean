import ControlPlane.Proofs.Session.Freshness

/-!
# Where sessions come from

Sessions are kept by account and region. A session that is handed out was made with credentials that
were given out for a role in the account of the target: for the target's own role if that was during
the call, and otherwise for the role of a target of the same account that an earlier call wanted in
the same region (`sessions_traced`). Partitions play no part in finding a session again, so the two
targets can lie in different ones (`session_of_another_partition`).
-/
namespace ControlPlane

/-- The target and the region that a call wants a session of. -/
def BrokerCall.wanted? (configured : String) : BrokerCall → Option (AssumptionTarget × String)
  | .assumeIn target region => some (target, region)
  | .assume target => some (target, configured)
  | .assumeLenient target => some (target, configured)
  | .invalidate .. | .invalidateAll => none

/-- The session that a call hands out. -/
def Turn.session? {σ : Type} : Turn σ → Option Session
  | ⟨.assumeIn .., _, _, result, _⟩ => result.toOption
  | ⟨.assume _, _, _, result, _⟩ => result.toOption
  | ⟨.assumeLenient _, _, _, result, _⟩ => result.toOption.join
  | ⟨.invalidate .., _, _, _, _⟩ => none
  | ⟨.invalidateAll, _, _, _, _⟩ => none

/-- The error of a result. -/
def failureOf {ε α : Type} : Except ε α → Option ε
  | .ok _ => none
  | .error error => some error

/-- Why a call failed. -/
def Turn.failure? {σ : Type} : Turn σ → Option AssumeError
  | ⟨.assumeIn .., _, _, result, _⟩ => failureOf result
  | ⟨.assume _, _, _, result, _⟩ => failureOf result
  | ⟨.assumeLenient _, _, _, result, _⟩ => failureOf result
  | ⟨.invalidate .., _, _, _, _⟩ => none
  | ⟨.invalidateAll, _, _, _, _⟩ => none

/-- The role that credentials were given out for. -/
def BrokerDeed.grantedRole? : BrokerDeed → Option RoleArn
  | .asked (.assume assumption) (.ok _) => some assumption.role
  | _ => none

/-- A call wants a session, obtains credentials of its target's own role, and makes the session of
them. -/
structure Turn.Obtains {σ : Type} (broker : Broker) (turn : Turn σ) (target : AssumptionTarget)
    (region : String) (session : Session) : Prop where
  /-- The call wants a session of the target. -/
  wanted : turn.call.wanted? broker.settings.region = some (target, region)
  /-- The session was made of the credentials of the target's role. -/
  obtained : broker.Obtained target region turn.deeds session

namespace Broker

variable {broker : Broker} {target : AssumptionTarget} {region : String} {σ : Type}
  {deeds : List BrokerDeed} {result : Except AssumeError Session} {session : Session}

/-- Trying keeps no session. -/
theorem Tries.not_mem_keep {source : Session} {role : RoleArn} {remaining : Nat}
    {answer : Except ServiceFailure Credentials}
    (tries : Tries broker source role remaining deeds answer) (kept : Session) :
    .left (.keep kept) ∉ deeds := by
  intro member
  rcases tries.cases_of_mem member with ⟨_, same⟩ | ⟨_, same⟩ | ⟨_, same⟩ <;> cases same

/-- A session of a control-plane account is kept apart from those of targets. -/
theorem ControlCourse.not_mem_keep {key : ControlPlaneKey}
    (course : ControlCourse broker key deeds result) (kept : Session) :
    .left (.keep kept) ∉ deeds := by
  intro member
  cases course with
  | beyond | kept => simp at member
  | made look make =>
    rcases List.mem_append.mp member with member | member
    · rcases List.mem_cons.mp member with same | member
      · cases same
      · rcases look.cases_of_mem member with ⟨_, same⟩ | same <;> cases same
    · cases make with
      | unknown => cases member
      | ambient => simp at member
      | refused _ _ tried => exact tried.not_mem_keep kept member
      | granted _ _ tried =>
        rcases List.mem_append.mp member with member | member
        · exact tried.not_mem_keep kept member
        · simp at member

/-- No session of a target is kept before its role is granted or refused. -/
theorem not_mem_keep_of_tried {key : ControlPlaneKey} {query : AccountQuery} {account : Account}
    {control tries : List BrokerDeed} {acted : Except AssumeError Session} {source : Session}
    {role : RoleArn} {remaining : Nat} {answer : Except ServiceFailure Credentials}
    (course : ControlCourse broker key control acted)
    (tried : Tries broker source role remaining tries answer) (kept : Session) :
    .left (.keep kept) ∉ .asked (.account query) (.ok account) :: control ++ tries := by
  intro member
  rcases List.mem_append.mp member with early | late
  · rcases List.mem_cons.mp early with same | member
    · cases same
    · exact course.not_mem_keep kept member
  · exact tried.not_mem_keep kept late

/-- A session is kept only if it is the one that was made. -/
theorem Makes.result_of_keep {kept : Session} (makes : Makes broker target region deeds result)
    (member : .left (.keep kept) ∈ deeds) : result = .ok kept := by
  cases makes with
  | unlisted => simp at member
  | sourceless source =>
    rcases List.mem_cons.mp member with same | member
    · cases same
    · exact absurd member (source.not_mem_keep kept)
  | refused source tried =>
    rcases List.mem_append.mp member with early | report
    · exact absurd early (not_mem_keep_of_tried source tried kept)
    · simp at report
  | granted source tried =>
    rcases List.mem_append.mp member with early | note
    · exact absurd early (not_mem_keep_of_tried source tried kept)
    · cases List.mem_singleton.mp note
      rfl

/-- A session that is kept was obtained with the target's own role. -/
theorem Assumes.obtained_of_keep {kept : Session}
    (assumes : Assumes broker target region deeds result) (member : .left (.keep kept) ∈ deeds) :
    broker.Obtained target region deeds kept := by
  cases assumes with
  | unsupported => cases member
  | beyond | kept => simp at member
  | made supported look make =>
    rcases List.mem_append.mp member with member | member
    · rcases List.mem_cons.mp member with same | member
      · cases same
      · rcases look.cases_of_mem member with ⟨_, same⟩ | same <;> cases same
    · obtain rfl := make.result_of_keep member
      obtain ⟨source, credentials, tried, made⟩ := make.obtained
      exact ⟨source, credentials, List.mem_append_right _ tried, made⟩

/-- A session that is handed out was obtained with the target's own role, or looked up first of
all. -/
theorem Assumes.obtained_or_found (assumes : Assumes broker target region deeds (.ok session)) :
    broker.Obtained target region deeds session ∨
      ∃ rest, deeds = .asked (.session ⟨target.accountId, region⟩) (some session) :: rest := by
  cases assumes with
  | kept => exact .inr ⟨_, rfl⟩
  | made supported look make =>
    obtain ⟨source, credentials, tried, made⟩ := make.obtained
    exact .inl ⟨source, credentials, List.mem_append_right _ tried, made⟩

end Broker

/-- What a fold over deeds has at the end was put there by one of them. -/
theorem mem_of_foldl_eq_some {step : Option Session → BrokerDeed → Option Session}
    (note : Session → BrokerDeed) {deeds : List BrokerDeed} {session : Session}
    (origin : ∀ {held deed found}, step held deed = some found →
      deed = note found ∨ held = some found)
    (last : deeds.foldl step none = some session) : note session ∈ deeds := by
  -- The last deed decides, so the deeds are taken from the end.
  induction deeds using List.reverseRecOn with
  | nil => cases last
  | append_singleton deeds deed ih =>
    rw [List.foldl_append] at last
    rcases origin last with rfl | earlier
    · exact List.mem_append_right _ (List.mem_singleton_self _)
    · exact List.mem_append_left _ (ih earlier)

/-- The session that was last kept under a key was kept at some time. -/
theorem SessionKey.mem_of_lastKept {key : SessionKey} {deeds : List BrokerDeed} {session : Session}
    (kept : key.lastKept deeds = some session) : .left (.keep session) ∈ deeds := by
  refine mem_of_foldl_eq_some (fun session => .left (.keep session)) ?_ kept
  intro held deed found after
  unfold SessionKey.keptAfter at after
  split at after
  · split at after
    · cases after
      exact .inl rfl
    · exact .inr after
  · split at after
    · cases after
    · exact .inr after
  · cases after
  · exact .inr after

namespace Broker

variable {σ : Type} {broker : Broker} {surroundings : Surroundings brokerInterface σ}
  {call : BrokerCall} {state : σ} {target : AssumptionTarget} {region : String} {session : Session}

/-- What a call that wants a session does, with its result and its failure. -/
theorem exists_assumes_turn (surroundings : Surroundings brokerInterface σ) (before : σ)
    (wanted : call.wanted? broker.settings.region = some (target, region)) :
    ∃ strict, Assumes broker target region (broker.turn surroundings call before).deeds strict ∧
      (broker.turn surroundings call before).session? = strict.toOption ∧
      ∀ error, (broker.turn surroundings call before).failure? = some error →
        strict = .error error := by
  have does := Program.does_log surroundings (broker.perform call) before
  have failed {strict : Except AssumeError Session} (error : AssumeError)
      (same : failureOf strict = some error) : strict = .error error := by
    cases strict with
    | ok session => cases same
    | error reason => exact congrArg _ (Option.some.inj same)
  cases call with
  | assumeIn other place =>
    cases wanted
    exact ⟨_, does_assumeIn does, rfl, failed⟩
  | assume other =>
    cases wanted
    exact ⟨_, does_assumeIn does, rfl, failed⟩
  | assumeLenient other =>
    cases wanted
    obtain ⟨strict, assumes, same⟩ := does_assumeLenient does
    refine ⟨strict, assumes, ?_⟩
    change (Except.toOption (Program.run surroundings _ before).1).join = _ ∧ ∀ error,
      failureOf (Program.run surroundings _ before).1 = some error → _
    rw [same]
    cases strict with
    | ok session => exact ⟨rfl, nofun⟩
    | error reason =>
      cases reason with
      | unsupported => exact ⟨rfl, nofun⟩
      | _ => exact ⟨rfl, fun error same => congrArg _ (Option.some.inj same)⟩
  | invalidate account place => cases wanted
  | invalidateAll => cases wanted

section Wanted

variable {calls : List BrokerCall} {turn : Turn σ}

/-- What a turn does that wants a session, with its result and its failure. -/
theorem exists_assumes (member : turn ∈ broker.turns surroundings calls state)
    (wanted : turn.call.wanted? broker.settings.region = some (target, region)) :
    ∃ strict, Assumes broker target region turn.deeds strict ∧ turn.session? = strict.toOption ∧
      ∀ error, turn.failure? = some error → strict = .error error := by
  obtain ⟨call, before, rfl⟩ := exists_of_mem_turns member
  exact exists_assumes_turn surroundings before wanted

/-- A turn that hands out a session has come to it. -/
theorem assumes_of_session (member : turn ∈ broker.turns surroundings calls state)
    (wanted : turn.call.wanted? broker.settings.region = some (target, region))
    (given : turn.session? = some session) :
    Assumes broker target region turn.deeds (.ok session) := by
  obtain ⟨strict, assumes, same, -⟩ := exists_assumes member wanted
  rw [same] at given
  cases strict with
  | ok found =>
    obtain rfl : found = session := Option.some.inj given
    exact assumes
  | error error => cases given

/-- A turn that fails has come to its failure. -/
theorem assumes_of_failure {error : AssumeError}
    (member : turn ∈ broker.turns surroundings calls state)
    (wanted : turn.call.wanted? broker.settings.region = some (target, region))
    (failed : turn.failure? = some error) :
    Assumes broker target region turn.deeds (.error error) := by
  obtain ⟨strict, assumes, -, same⟩ := exists_assumes member wanted
  rwa [same error failed] at assumes

end Wanted

/-- A call that keeps a session obtained it for what it wanted. -/
theorem obtains_of_keep
    (kept : .left (.keep session) ∈ (broker.turn surroundings call state).deeds) :
    ∃ target region,
      (broker.turn surroundings call state).Obtains broker target region session := by
  cases wanted : call.wanted? broker.settings.region with
  | some want =>
    obtain ⟨target, region⟩ := want
    obtain ⟨strict, assumes, -⟩ := exists_assumes_turn surroundings state wanted
    exact ⟨target, region, wanted, assumes.obtained_of_keep kept⟩
  | none =>
    cases call with
    | assumeIn | assume | assumeLenient => cases wanted
    | invalidate account region => cases List.mem_singleton.mp kept
    | invalidateAll => cases List.mem_singleton.mp kept

/-- Where a session comes from that a call hands out after others. -/
structure Traced (broker : Broker) (past : List (Turn σ)) (turn : Turn σ)
    (target : AssumptionTarget) (region : String) (session : Session) : Prop where
  /-- It was obtained with the target's own role in the call itself, or with that of another target in
  an earlier one that wanted a session in the same region for the same account. -/
  source : turn.Obtains broker target region session ∨
    ∃ giver ∈ past, ∃ other, giver.Obtains broker other region session ∧
      other.accountId = target.accountId
  /-- It was obtained with the target's own role if no session of the account was obtained there in
  another partition before. -/
  own : (∀ giver ∈ past, ∀ other held, giver.Obtains broker other region held →
      other.accountId = target.accountId → other.hub.partition = target.hub.partition) →
    ∃ giver ∈ past ++ [turn], broker.Obtained target region giver.deeds session

/-- The role of a target depends on its partition and its account only. -/
theorem metadataRole_congr {other : AssumptionTarget} (account : other.accountId = target.accountId)
    (partition : other.hub.partition = target.hub.partition) :
    broker.metadataRole other = broker.metadataRole target := by
  unfold metadataRole
  rw [account, partition]

/-- What was obtained for a target of the same account and partition was obtained with the target's
own role. -/
theorem Obtained.congr {deeds : List BrokerDeed} {other : AssumptionTarget}
    (obtained : broker.Obtained other region deeds session)
    (account : other.accountId = target.accountId)
    (partition : other.hub.partition = target.hub.partition) :
    broker.Obtained target region deeds session := by
  obtain ⟨source, credentials, tried, made⟩ := obtained
  rw [metadataRole_congr account partition] at tried
  rw [account] at made
  exact ⟨source, credentials, tried, made⟩

/-- A session that is found first of all was obtained by an earlier call. -/
theorem traced_of_found {calls : List BrokerCall} {past later : List (Turn σ)} {turn : Turn σ}
    {rest : List BrokerDeed} (turns : broker.turns surroundings calls state = past ++ turn :: later)
    (finds : FindsLast (deeds (broker.turns surroundings calls state)))
    (found : turn.deeds = .asked (.session ⟨target.accountId, region⟩) (some session) :: rest) :
    ∃ giver ∈ past, ∃ other, giver.Obtains broker other region session ∧
      other.accountId = target.accountId := by
  have kept := finds (deeds past) ⟨target.accountId, region⟩ session (rest ++ deeds later) (by
    rw [turns]
    simp [deeds, found])
  have own := SessionKey.key_of_lastKept kept
  obtain ⟨giver, before, noted⟩ := List.mem_flatMap.mp (SessionKey.mem_of_lastKept kept)
  obtain ⟨call, start, rfl⟩ := exists_of_mem_turns (turns ▸ List.mem_append_left _ before)
  obtain ⟨other, place, obtains⟩ := obtains_of_keep noted
  obtain ⟨source, credentials, -, made⟩ := obtains.obtained
  rw [made] at own
  obtain ⟨account, rfl⟩ := SessionKey.mk.inj own
  exact ⟨_, before, other, obtains, account⟩

/-- A target of the test environment. -/
def sampleTarget : AssumptionTarget := .ofAccount Fixtures.providerAccount none

/-- A target of the same account in another partition. -/
def foreignTarget : AssumptionTarget := { sampleTarget with hub := Fixtures.hub ⟨"aws-cn"⟩ }

/-- Two calls for one account in one region, the second one in another partition. -/
def foreignCalls : List BrokerCall := [.assume sampleTarget, .assume foreignTarget]

/-- The first of the two calls in the test environment. -/
def homeTurn : Turn Rehearsal.BrokerStage :=
  sampleBroker.turn Rehearsal.BrokerStage.surroundings (.assume sampleTarget) sampleStage

/-- The second of the two calls. -/
def foreignTurn : Turn Rehearsal.BrokerStage :=
  sampleBroker.turn Rehearsal.BrokerStage.surroundings (.assume foreignTarget) homeTurn.after

/-- The two calls are all that happens. -/
theorem turns_foreignCalls :
    sampleBroker.turns Rehearsal.BrokerStage.surroundings foreignCalls sampleStage =
      [homeTurn] ++ foreignTurn :: [] := rfl

/-- The store of the test environment finds sessions as they were kept. -/
theorem findsLast_foreignCalls :
    FindsLast (deeds (sampleBroker.turns Rehearsal.BrokerStage.surroundings foreignCalls
      sampleStage)) :=
  Rehearsal.BrokerStage.findsLast_turns sampleBroker rfl foreignCalls

/-- A session of one partition is handed out for a target of another one, though no credentials were
given out for the role of that target. -/
theorem session_of_another_partition :
    ¬ ∀ turn ∈ [homeTurn, foreignTurn], ∀ target region session,
      turn.call.wanted? sampleBroker.settings.region = some (target, region) →
        turn.session? = some session →
          ∃ source credentials, sampleBroker.tried source (sampleBroker.metadataRole target)
            (.ok credentials) ∈ deeds [homeTurn, foreignTurn] ∧
              session.credentials = some credentials := by
  intro own
  have given : foreignTurn.session?.isSome = true := by decide +kernel
  obtain ⟨session, handed⟩ := Option.isSome_iff_exists.mp given
  obtain ⟨source, credentials, tried, -⟩ := own foreignTurn (by simp) foreignTarget
    sampleBroker.settings.region session rfl handed
  have granted : sampleBroker.metadataRole foreignTarget ∈
      (deeds [homeTurn, foreignTurn]).filterMap BrokerDeed.grantedRole? :=
    List.mem_filterMap.mpr ⟨_, tried, rfl⟩
  have roles : (deeds [homeTurn, foreignTurn]).filterMap BrokerDeed.grantedRole? =
      [sampleBroker.metadataRole sampleTarget] := by decide +kernel
  rw [roles] at granted
  exact absurd granted (by decide)

/-- Sessions that are handed out were obtained with roles in the account of their target: with the
target's own role unless they were obtained for a target in another partition before. -/
theorem sessions_traced (broker : Broker) (surroundings : Surroundings brokerInterface σ)
    (calls : List BrokerCall) (state : σ)
    (finds : FindsLast (deeds (broker.turns surroundings calls state))) :
    ∀ past turn later, broker.turns surroundings calls state = past ++ turn :: later →
      ∀ target region session, turn.call.wanted? broker.settings.region = some (target, region) →
        turn.session? = some session → broker.Traced past turn target region session := by
  intro past turn later turns target region session wanted given
  have member : turn ∈ broker.turns surroundings calls state := by simp [turns]
  rcases (assumes_of_session member wanted given).obtained_or_found with obtained | ⟨rest, found⟩
  · exact ⟨.inl ⟨wanted, obtained⟩, fun _ =>
      ⟨_, List.mem_append_right _ (List.mem_singleton_self _), obtained⟩⟩
  · obtain ⟨giver, early, other, obtains, account⟩ := traced_of_found turns finds found
    refine ⟨.inr ⟨giver, early, other, obtains, account⟩, fun partitions => ?_⟩
    have partition := partitions giver early other session obtains account
    exact ⟨giver, List.mem_append_left _ early, obtains.obtained.congr account partition⟩

/-- The session of the second call was made by the first one, for the role of its target. -/
theorem sessions_traced_foreign :
    FindsLast (deeds (sampleBroker.turns Rehearsal.BrokerStage.surroundings foreignCalls
      sampleStage)) ∧
    ∃ session, foreignTurn.session? = some session ∧
      sampleBroker.Traced [homeTurn] foreignTurn foreignTarget "eu-central-1" session := by
  have given : foreignTurn.session?.isSome = true := by decide +kernel
  obtain ⟨session, handed⟩ := Option.isSome_iff_exists.mp given
  exact ⟨findsLast_foreignCalls, session, handed,
    sessions_traced sampleBroker Rehearsal.BrokerStage.surroundings foreignCalls sampleStage
      findsLast_foreignCalls [homeTurn] foreignTurn [] turns_foreignCalls foreignTarget
      "eu-central-1" session rfl handed⟩

end Broker

end ControlPlane
