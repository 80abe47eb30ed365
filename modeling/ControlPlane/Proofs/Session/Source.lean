import ControlPlane.Proofs.Session.Control

/-!
# Whom roles are assumed from

The role of a target is assumed from a session that acts for the only control-plane account of the
target's partition. Without such an account, with several of them, or with one that nothing is
configured for, no role is assumed and the call says so (`sources_identified`). A query of a
directory depends on its accounts but not on their order, and so does everything else that a broker
does.
-/
namespace ControlPlane

namespace Directory

variable {directory : Directory} {query : AccountQuery}

/-- The number of accounts that a query admits. -/
def matchCount (directory : Directory) (query : AccountQuery) : Nat :=
  directory.accounts.countP query.admits

/-- An account is in a directory, and a query admits no other entry of it. -/
def Sole (directory : Directory) (query : AccountQuery) (account : Account) : Prop :=
  ∃ front back, directory.accounts = front ++ account :: back ∧ query.admits account = true ∧
    ∀ other ∈ front ++ back, query.admits other = false

/-- A query that admits nothing finds nothing. -/
theorem query_of_matchCount_eq_zero (none : directory.matchCount query = 0) :
    directory.query query = .error (.notFound query.text) := by
  rw [matchCount, List.countP_eq_length_filter, List.length_eq_zero_iff] at none
  simp only [Directory.query, none]

/-- A query that admits several accounts is ambiguous. -/
theorem query_of_two_le_matchCount (several : 2 ≤ directory.matchCount query) :
    directory.query query = .error (.ambiguous query.text (directory.matchCount query)) := by
  unfold matchCount at several ⊢
  rw [List.countP_eq_length_filter] at several ⊢
  unfold Directory.query
  split
  next admitted => simp [admitted] at several
  next admitted => simp [admitted] at several
  next admitted => rfl

/-- A query that finds an account admits no other one. -/
theorem sole_of_query {account : Account} (found : directory.query query = .ok account) :
    directory.Sole query account := by
  unfold Directory.query at found
  split at found
  next => cases found
  next only admitted =>
    cases found
    obtain ⟨front, back, split, before, admits, after⟩ := List.filter_eq_cons_iff.mp admitted
    refine ⟨front, back, split, admits, fun other member => ?_⟩
    rcases List.mem_append.mp member with member | member
    · simpa using before other member
    · simpa using List.filter_eq_nil_iff.mp after other member
  next => cases found

/-- The only account that a query admits is found. -/
theorem query_of_sole {account : Account} (sole : directory.Sole query account) :
    directory.query query = .ok account := by
  obtain ⟨front, back, split, admits, others⟩ := sole
  have before : front.filter query.admits = [] :=
    List.filter_eq_nil_iff.mpr fun other member => by
      simp [others other (List.mem_append_left _ member)]
  have after : back.filter query.admits = [] :=
    List.filter_eq_nil_iff.mpr fun other member => by
      simp [others other (List.mem_append_right _ member)]
  simp [Directory.query, split, List.filter_append, before, after, admits]

/-- The order of the accounts plays no part in a query. -/
theorem query_perm {other : Directory} (same : other.accounts.Perm directory.accounts)
    (query : AccountQuery) : other.query query = directory.query query := by
  unfold Directory.query
  match other.accounts.filter query.admits, directory.accounts.filter query.admits,
    same.filter query.admits with
  | [], [], _ => rfl
  | [first], [second], admitted => rw [List.singleton_perm_singleton.mp admitted]
  | _ :: _ :: _, _ :: _ :: _, admitted => simp only [admitted.length_eq]
  | [], _ :: _, admitted => cases admitted.length_eq
  | _ :: _, [], admitted => cases admitted.length_eq
  | [_], _ :: _ :: _, admitted => cases admitted.length_eq
  | _ :: _ :: _, [_], admitted => cases admitted.length_eq

end Directory

/-- The same surroundings with accounts looked up in a directory that never changes. -/
def Surroundings.consulting {σ : Type} (surroundings : Surroundings brokerInterface σ)
    (directory : Directory) : Surroundings brokerInterface σ where
  answer
    | .account query, state =>
      (directory.query query, (surroundings.answer (.account query) state).2)
    | request, state => surroundings.answer request state
  keep := surroundings.keep

/-- The order of the accounts makes no difference. -/
theorem Surroundings.consulting_perm {σ : Type} (surroundings : Surroundings brokerInterface σ)
    {directory other : Directory} (same : other.accounts.Perm directory.accounts) :
    surroundings.consulting other = surroundings.consulting directory := by
  unfold consulting
  simp only [Directory.query_perm same]

namespace Broker

variable {broker : Broker} {directory : Directory} {target : AssumptionTarget} {region : String}
  {key : ControlPlaneKey} {deeds past : List BrokerDeed} {result : Except AssumeError Session}
  {session : Session} {assumption : Assumption}

/-- Among some deeds is an attempt to assume a role. -/
def Attempts (deeds : List BrokerDeed) (assumption : Assumption) : Prop :=
  ∃ answer, .asked (.assume assumption) answer ∈ deeds

/-- Nothing is attempted without deeds. -/
theorem not_attempts_nil : ¬ Attempts [] assumption := by
  rintro ⟨answer, member⟩
  cases member

/-- An attempt is the first deed or a later one. -/
theorem attempts_cons {deed : BrokerDeed} :
    Attempts (deed :: deeds) assumption ↔
      (∃ answer, deed = .asked (.assume assumption) answer) ∨ Attempts deeds assumption := by
  simp only [Attempts, List.mem_cons, exists_or]
  constructor
  · rintro (⟨answer, same⟩ | later)
    · exact .inl ⟨answer, same.symm⟩
    · exact .inr later
  · rintro (⟨answer, same⟩ | later)
    · exact .inl ⟨answer, same.symm⟩
    · exact .inr later

/-- An attempt is among the first of some deeds or among the others. -/
theorem attempts_append {front back : List BrokerDeed} :
    Attempts (front ++ back) assumption ↔ Attempts front assumption ∨ Attempts back assumption := by
  simp only [Attempts, List.mem_append, exists_or]

/-- Trying to assume a role attempts nothing else. -/
theorem Tries.of_attempts {source : Session} {role : RoleArn} {remaining : Nat}
    {answer : Except ServiceFailure Credentials}
    (tries : Tries broker source role remaining deeds answer)
    (attempts : Attempts deeds assumption) : assumption = broker.assumption source role := by
  obtain ⟨given, member⟩ := attempts
  rcases tries.cases_of_mem member with ⟨_, same⟩ | ⟨_, same⟩ | ⟨_, same⟩
  · cases same
    rfl
  · cases same
  · cases same

/-- Looking at a kept session attempts nothing. -/
theorem Looks.not_attempts {drop : BrokerMark} {kept : Option Session}
    {found : Except AssumeError (Option Session)} (looks : Looks broker drop kept deeds found) :
    ¬ Attempts deeds assumption := by
  rintro ⟨answer, member⟩
  rcases looks.cases_of_mem member with ⟨_, same⟩ | same <;> cases same

/-- For a control-plane account nothing but the role of its entry is attempted, from the ambient
session. -/
theorem ControlCourse.of_attempts (course : ControlCourse broker key deeds result)
    (attempts : Attempts deeds assumption) :
    ∃ entry role, broker.LastEntry key entry ∧ entry.role = some role ∧
      assumption = broker.assumption (.ambient key.account broker.ambientRegion) role := by
  cases course with
  | beyond | kept => simp [Attempts] at attempts
  | made look make =>
    rcases attempts_append.mp attempts with first | later
    · rcases attempts_cons.mp first with ⟨_, same⟩ | early
      · cases same
      · exact absurd early look.not_attempts
    · cases make with
      | unknown => exact absurd later not_attempts_nil
      | ambient => simp [Attempts] at later
      | refused listed named tried =>
        exact ⟨_, _, lastEntry_of_controlPlaneRole? listed, named, tried.of_attempts later⟩
      | granted listed named tried =>
        rcases attempts_append.mp later with tries | note
        · exact ⟨_, _, lastEntry_of_controlPlaneRole? listed, named, tried.of_attempts tries⟩
        · simp [Attempts] at note

/-- A session of a control-plane account acts for it if one that is found does. -/
theorem ControlCourse.actsFor (course : ControlCourse broker key deeds (.ok session))
    (acting : ∀ kept rest, deeds = .asked (.controlSession key) (some kept) :: rest →
      ActsFor broker key past kept) : ActsFor broker key (past ++ deeds) session := by
  cases course with
  | kept => exact (acting _ _ rfl).mono (List.subset_append_left _ _)
  | made look make =>
    refine make.actsFor.mono fun deed member => ?_
    exact List.mem_append_right _ (List.mem_append_right _ member)

/-- A call fails with an error, and attempts to assume no role. -/
def Fails (deeds : List BrokerDeed) (result : Except AssumeError Session)
    (error : AssumeError) : Prop :=
  result = .error error ∧ ∀ assumption, ¬ Attempts deeds assumption

/-- Without an entry there is no session of a control-plane account, and nothing is attempted. -/
theorem ControlCourse.fails (course : ControlCourse broker key deeds result)
    (acting : ∀ kept rest, deeds = .asked (.controlSession key) (some kept) :: rest →
      ActsFor broker key past kept)
    (unlisted : ∀ entry ∈ broker.settings.controlPlaneRoles, ¬ Concerns entry key) :
    Fails deeds result (.unknownAccount key) := by
  have none_last {entry} : ¬ broker.LastEntry key entry := by
    rintro ⟨front, back, split, concerns, -⟩
    exact unlisted entry (by simp [split]) concerns
  have none_acts {kept} : ¬ ActsFor broker key past kept := by
    intro acts
    cases acts with
    | ambient last => exact none_last last
    | granted last => exact none_last last
  refine ⟨?_, fun assumption attempts => ?_⟩
  · cases course with
    | beyond => exact absurd (acting _ _ rfl) none_acts
    | kept => exact absurd (acting _ _ rfl) none_acts
    | made look make =>
      have absent := controlPlaneRole?_eq_none unlisted
      cases make with
      | unknown => rfl
      | ambient listed | refused listed | granted listed =>
        rw [absent] at listed
        cases listed
  · obtain ⟨entry, role, last, -⟩ := course.of_attempts attempts
    exact none_last last

/-- What looking for a kept session of a target comes to is that it has to be made: there is none,
or it is about to expire and dropped. -/
def Missed (broker : Broker) (target : AssumptionTarget) (region : String)
    (deeds : List BrokerDeed) : Prop :=
  ∃ kept looks makes, Looks broker (.drop ⟨target.accountId, region⟩) kept looks (.ok none) ∧
    deeds = .asked (.session ⟨target.accountId, region⟩) kept :: looks ++ makes

/-- A kept session settles a call: it is handed out, or its end is beyond the calendar. -/
def Settled (broker : Broker) (target : AssumptionTarget) (region : String)
    (deeds : List BrokerDeed) (result : Except AssumeError Session) : Prop :=
  ∃ session now, deeds = [.asked (.session ⟨target.accountId, region⟩) (some session),
      .asked .clock now] ∧
    (session.expiresWithin? broker.settings.expiryMargin now = some false ∧ result = .ok session ∨
      session.expiresWithin? broker.settings.expiryMargin now = none ∧
        result = .error .beyondCalendar)

/-- How a call fails that has to make a session but finds no one to assume the role from. -/
structure Resolves (broker : Broker) (directory : Directory) (target : AssumptionTarget)
    (deeds : List BrokerDeed) (result : Except AssumeError Session) : Prop where
  /-- If no account fits the query, that is the error. -/
  none : directory.matchCount (broker.sourceQuery target) = 0 →
    Fails deeds result (.directory (.notFound (broker.sourceQuery target).text))
  /-- If more than one account fits, the error says how many do. -/
  several : 2 ≤ directory.matchCount (broker.sourceQuery target) →
    Fails deeds result (.directory (.ambiguous (broker.sourceQuery target).text
      (directory.matchCount (broker.sourceQuery target))))
  /-- If the settings have no entry for the account that fits, that is the error. -/
  unlisted : ∀ account, directory.Sole (broker.sourceQuery target) account →
    (∀ entry ∈ broker.settings.controlPlaneRoles, ¬ Concerns entry ⟨account.id, .api⟩) →
      Fails deeds result (.unknownAccount ⟨account.id, .api⟩)

/-- The attempts of a call: first those for the role of the control-plane account, then those for
the role of the target. -/
structure AttemptsFrom (broker : Broker) (directory : Directory) (past : List BrokerDeed)
    (target : AssumptionTarget) (before tries after : List BrokerDeed) : Prop where
  /-- The role of the control-plane account is the one of its last entry. -/
  control : ∀ assumption, Attempts before assumption → ∃ account entry role,
    directory.Sole (broker.sourceQuery target) account ∧
      broker.LastEntry ⟨account.id, .api⟩ entry ∧ entry.role = some role ∧
        assumption = broker.assumption (.ambient account.id broker.ambientRegion) role
  /-- The role of the target is assumed from a session that acts for the only account. -/
  metadata : ∀ assumption, Attempts tries assumption → ∃ account,
    directory.Sole (broker.sourceQuery target) account ∧
      assumption.source.account = account.id ∧
        ActsFor broker ⟨account.id, .api⟩ (past ++ before) assumption.source ∧
          assumption = broker.assumption assumption.source (broker.metadataRole target)
  /-- Afterwards nothing is attempted any more. -/
  done : ∀ assumption, ¬ Attempts after assumption

/-- Whom the role of a target is assumed from, after some deeds in the past. -/
structure Sources (broker : Broker) (directory : Directory) (past : List BrokerDeed)
    (target : AssumptionTarget) (region : String) (deeds : List BrokerDeed)
    (result : Except AssumeError Session) : Prop where
  /-- The attempts come in their order. -/
  attempts : ∃ before tries after, deeds = before ++ tries ++ after ∧
    AttemptsFrom broker directory past target before tries after
  /-- For a target with a role, a kept session settles the call, or one has to be made. -/
  supported : target.supportsMetadataRole = true →
    Settled broker target region deeds result ∨ Missed broker target region deeds
  /-- If a session has to be made, someone has to be found to assume the role from. -/
  missed : Missed broker target region deeds → Resolves broker directory target deeds result

/-- An account that a target's role can be assumed from is one for that purpose. -/
theorem purpose_of_sole {account : Account}
    (sole : directory.Sole (broker.sourceQuery target) account) : account.purpose = .api := by
  obtain ⟨-, -, -, admits, -⟩ := sole
  simp only [AccountQuery.admits, sourceQuery, Bool.and_eq_true] at admits
  exact of_decide_eq_true admits.1.2

/-- The answers about accounts among some deeds are those of a directory. -/
def Consults (directory : Directory) (deeds : List BrokerDeed) : Prop :=
  ∀ query answer, .asked (.account query) answer ∈ deeds → answer = directory.query query

/-- A session that is found for a control-plane account acts for it by what was done before. -/
def FindsActing (broker : Broker) (past deeds : List BrokerDeed) : Prop :=
  ∀ front key session rest, deeds = front ++ .asked (.controlSession key) (some session) :: rest →
    ActsFor broker key (past ++ front) session

/-- A session that is found where a control-plane account comes in acts for it. -/
theorem FindsActing.control {start control rest : List BrokerDeed}
    (acting : FindsActing broker past (start ++ control ++ rest)) :
    ∀ kept more, control = .asked (.controlSession key) (some kept) :: more →
      ActsFor broker key (past ++ start) kept := by
  rintro kept more rfl
  exact acting start key kept (more ++ rest) (by simp)

/-- Only an account that nothing is configured for can be missing once an account is found. -/
theorem Resolves.of_found {account : Account}
    (found : directory.query (broker.sourceQuery target) = .ok account)
    (unlisted : (∀ entry ∈ broker.settings.controlPlaneRoles, ¬ Concerns entry ⟨account.id, .api⟩) →
      Fails deeds result (.unknownAccount ⟨account.id, .api⟩)) :
    Resolves broker directory target deeds result where
  none none := by
    rw [Directory.query_of_matchCount_eq_zero none] at found
    cases found
  several several := by
    rw [Directory.query_of_two_le_matchCount several] at found
    cases found
  unlisted other sole := by
    rw [Directory.query_of_sole sole] at found
    cases found
    exact unlisted

/-- Making a session with a directory: either it is not known whom to assume the role from, or a
session of the account comes first, and the role is attempted from no other one. -/
inductive MakesFrom (broker : Broker) (directory : Directory) (target : AssumptionTarget) :
    List BrokerDeed → Except AssumeError Session → Prop where
  /-- The directory does not tell whom to assume the role from. -/
  | unlisted {error : DirectoryError}
      (found : directory.query (broker.sourceQuery target) = .error error) :
      MakesFrom broker directory target
        [.asked (.account (broker.sourceQuery target)) (.error error)] (.error (.directory error))
  /-- The directory names an account, and the role is attempted from its session alone. -/
  | listed {account : Account} {control tries after : List BrokerDeed}
      {acted result : Except AssumeError Session}
      (found : directory.query (broker.sourceQuery target) = .ok account)
      (source : ControlCourse broker ⟨account.id, .api⟩ control acted)
      (stopped : ∀ error, acted = .error error → result = .error error ∧ tries = [] ∧ after = [])
      (tried : ∀ assumption, Attempts tries assumption → ∃ session, acted = .ok session ∧
        assumption = broker.assumption session (broker.metadataRole target))
      (done : ∀ assumption, ¬ Attempts after assumption) :
      MakesFrom broker directory target
        (.asked (.account (broker.sourceQuery target)) (.ok account) :: control ++ tries ++ after)
        result

/-- With a directory a session is made in no other way. -/
theorem Makes.makesFrom (makes : Makes broker target region deeds result)
    (consults : Consults directory deeds) : MakesFrom broker directory target deeds result := by
  cases makes with
  | unlisted error => exact .unlisted (consults _ _ (List.mem_singleton_self _)).symm
  | @sourceless account control error source =>
    have found := (consults _ _ (List.mem_cons_self ..)).symm
    rw [purpose_of_sole (Directory.sole_of_query found)] at source
    have course := MakesFrom.listed found source
      (fun _ same => by
        cases same
        exact ⟨rfl, rfl, rfl⟩)
      (fun _ attempts => absurd attempts not_attempts_nil) (fun _ => not_attempts_nil)
    simpa using course
  | refused source tried | granted source tried =>
    have found := (consults _ _ (List.mem_append_left _ (List.mem_append_left _
      (List.mem_cons_self ..)))).symm
    rw [purpose_of_sole (Directory.sole_of_query found)] at source
    exact .listed found source nofun (fun _ attempts => ⟨_, rfl, tried.of_attempts attempts⟩)
      fun _ => by simp [Attempts]

/-- Making a session fails for want of an account to assume the role from. -/
theorem MakesFrom.resolves {front : List BrokerDeed}
    (makes : MakesFrom broker directory target deeds result)
    (acting : FindsActing broker past (front ++ deeds))
    (idle : ∀ assumption, ¬ Attempts front assumption) :
    Resolves broker directory target (front ++ deeds) result := by
  cases makes with
  | @unlisted error found =>
    have idle (assumption : Assumption) : ¬ Attempts (front ++
        [.asked (.account (broker.sourceQuery target)) (.error error)]) assumption := by
      rw [attempts_append, attempts_cons]
      rintro (early | ⟨_, same⟩ | late)
      · exact idle assumption early
      · cases same
      · exact not_attempts_nil late
    constructor
    · intro none
      rw [Directory.query_of_matchCount_eq_zero none] at found
      cases found
      exact ⟨rfl, idle⟩
    · intro several
      rw [Directory.query_of_two_le_matchCount several] at found
      cases found
      exact ⟨rfl, idle⟩
    · intro account sole
      rw [Directory.query_of_sole sole] at found
      cases found
  | @listed account control tries after acted result found source stopped tried done =>
    have acting : FindsActing broker past ((front ++ [.asked (.account (broker.sourceQuery target))
        (.ok account)]) ++ control ++ (tries ++ after)) := by simpa using acting
    refine .of_found found fun unlisted => ?_
    obtain ⟨failed, quiet⟩ := source.fails acting.control unlisted
    obtain ⟨failed, rfl, rfl⟩ := stopped _ failed
    refine ⟨failed, fun assumption => ?_⟩
    rw [List.append_nil, List.append_nil, attempts_append, attempts_cons]
    rintro (early | ⟨_, same⟩ | late)
    · exact idle assumption early
    · cases same
    · exact quiet assumption late

/-- Making a session attempts to assume roles from the sessions of the only account. -/
theorem MakesFrom.attemptsFrom {front : List BrokerDeed}
    (makes : MakesFrom broker directory target deeds result)
    (acting : FindsActing broker past (front ++ deeds))
    (idle : ∀ assumption, ¬ Attempts front assumption) :
    ∃ before tries after, front ++ deeds = before ++ tries ++ after ∧
      AttemptsFrom broker directory past target before tries after := by
  cases makes with
  | @unlisted error found =>
    refine ⟨front, [], [.asked (.account (broker.sourceQuery target)) (.error error)], by simp, ?_⟩
    refine ⟨fun assumption early => absurd early (idle assumption),
      fun _ none => absurd none not_attempts_nil, fun assumption => ?_⟩
    simp [Attempts]
  | @listed account control tries after acted result found source stopped tried done =>
    have sole := Directory.sole_of_query found
    have acting : FindsActing broker past ((front ++ [.asked (.account (broker.sourceQuery target))
        (.ok account)]) ++ control ++ (tries ++ after)) := by simpa using acting
    refine ⟨(front ++ [.asked (.account (broker.sourceQuery target)) (.ok account)]) ++ control,
      tries, after, by simp, ?_, ?_, done⟩
    · intro assumption attempts
      rw [attempts_append, attempts_append, attempts_cons] at attempts
      rcases attempts with (early | ⟨_, same⟩ | none) | late
      · exact absurd early (idle assumption)
      · cases same
      · exact absurd none not_attempts_nil
      · obtain ⟨entry, role, last, named, same⟩ := source.of_attempts late
        exact ⟨account, entry, role, sole, last, named, same⟩
    · intro assumption attempts
      obtain ⟨session, rfl, rfl⟩ := tried assumption attempts
      have acts := source.actsFor acting.control
      rw [List.append_assoc] at acts
      exact ⟨account, sole, acts.account_eq, acts, rfl⟩

/-- A call that ends with a look at the clock leaves no session to be made. -/
theorem not_missed_of_kept {now : Instant} : ¬ Missed broker target region
    [.asked (.session ⟨target.accountId, region⟩) (some session), .asked .clock now] := by
  rintro ⟨kept, looks, makes, look, split⟩
  cases look <;> cases split

/-- Whatever the session of a target takes, its role is assumed from a session that acts for the
only account, and nothing is assumed for want of one. -/
theorem Assumes.sources (assumes : Assumes broker target region deeds result)
    (consults : Consults directory deeds) (acting : FindsActing broker past deeds) :
    Sources broker directory past target region deeds result := by
  have idle {quiet : List BrokerDeed} (none : ∀ assumption, ¬ Attempts quiet assumption) :
      ∃ before tries after, quiet = before ++ tries ++ after ∧
        AttemptsFrom broker directory past target before tries after :=
    ⟨quiet, [], [], by simp, fun assumption attempts => absurd attempts (none assumption),
      fun _ attempts => absurd attempts not_attempts_nil, fun _ => not_attempts_nil⟩
  cases assumes with
  | unsupported technical =>
    refine ⟨idle fun _ => not_attempts_nil, fun supported => ?_, ?_⟩
    · rw [technical] at supported
      cases supported
    · rintro ⟨_, _, _, _, split⟩
      cases split
  | @beyond session now supported unknown =>
    exact ⟨idle fun _ => by simp [Attempts], fun _ => .inl ⟨session, now, rfl, .inr ⟨unknown, rfl⟩⟩,
      fun missed => absurd missed not_missed_of_kept⟩
  | @kept session now supported lasts =>
    exact ⟨idle fun _ => by simp [Attempts], fun _ => .inl ⟨session, now, rfl, .inl ⟨lasts, rfl⟩⟩,
      fun missed => absurd missed not_missed_of_kept⟩
  | @made kept looks makes _ supported look make =>
    have quiet (assumption : Assumption) :
        ¬ Attempts (.asked (.session ⟨target.accountId, region⟩) kept :: looks) assumption := by
      rw [attempts_cons]
      rintro (⟨_, same⟩ | looked)
      · cases same
      · exact look.not_attempts looked
    have makesFrom := make.makesFrom fun query answer member =>
      consults query answer (List.mem_append_right _ member)
    exact ⟨makesFrom.attemptsFrom acting quiet, fun _ => .inr ⟨kept, looks, makes, look, rfl⟩,
      fun _ => makesFrom.resolves acting quiet⟩

end Broker

/-- Roles are assumed for a call from the only source that there is. -/
def Turn.Sourced {σ : Type} (broker : Broker) (directory : Directory) (past : List BrokerDeed) :
    Turn σ → Prop
  | ⟨.assumeIn target region, _, deeds, result, _⟩ =>
    broker.Sources directory past target region deeds result
  | ⟨.assume target, _, deeds, result, _⟩ =>
    broker.Sources directory past target broker.settings.region deeds result
  | ⟨.assumeLenient target, _, deeds, result, _⟩ =>
    ∃ strict, broker.Sources directory past target broker.settings.region deeds strict ∧
      result = Broker.lenient strict
  | ⟨.invalidate .., _, deeds, _, _⟩ => ∀ assumption, ¬ Broker.Attempts deeds assumption
  | ⟨.invalidateAll, _, deeds, _, _⟩ => ∀ assumption, ¬ Broker.Attempts deeds assumption

namespace Broker

variable {σ : Type} {broker : Broker} {directory : Directory}
  {surroundings : Surroundings brokerInterface σ} {calls : List BrokerCall} {state : σ}

/-- A call that consults a directory has a source if the sessions that it finds act. -/
theorem turn_sourced {call : BrokerCall} {past : List BrokerDeed}
    (consults : Consults directory (broker.turn surroundings call state).deeds)
    (acting : FindsActing broker past (broker.turn surroundings call state).deeds) :
    (broker.turn surroundings call state).Sourced broker directory past := by
  have does := Program.does_log surroundings (broker.perform call) state
  cases call with
  | assumeIn target region => exact (does_assumeIn does).sources consults acting
  | assume target => exact (does_assumeIn does).sources consults acting
  | assumeLenient target =>
    obtain ⟨strict, assumes, same⟩ := does_assumeLenient does
    exact ⟨strict, assumes.sources consults acting, same⟩
  | invalidate account region =>
    rintro assumption ⟨answer, member⟩
    cases List.mem_singleton.mp member
  | invalidateAll =>
    rintro assumption ⟨answer, member⟩
    cases List.mem_singleton.mp member

/-- Accounts are looked up in the directory that is consulted. -/
theorem consults_turn (call : BrokerCall) (state : σ) :
    Consults directory (broker.turn (surroundings.consulting directory) call state).deeds := by
  intro query answer member
  obtain ⟨before, same⟩ := Program.exists_answer_of_mem_log member
  exact same.symm

/-- The control-plane sessions that a call finds act for their accounts. -/
theorem findsActing_turn {past later : List (Turn σ)} {turn : Turn σ}
    (turns : broker.turns surroundings calls state = past ++ turn :: later)
    (finds : FindsLastControl (deeds (broker.turns surroundings calls state))) :
    FindsActing broker (deeds past) turn.deeds := by
  intro front key session rest split
  have all : deeds (broker.turns surroundings calls state) =
      deeds past ++ front ++ .asked (.controlSession key) (some session) :: rest ++
        deeds later := by
    simp [turns, deeds, split]
  have keeps : KeepsActing broker (deeds (broker.turns surroundings calls state)) :=
    turns_keepsActing calls state
  rw [all, List.append_assoc] at keeps
  exact keeps.of_lastKept (finds _ key session (rest ++ deeds later) (by simpa using all))

/-- For every directory, roles are assumed from sessions of the only control-plane account of the
target's partition and from no other ones, and the order of the accounts makes no difference. -/
theorem sources_identified (broker : Broker) (surroundings : Surroundings brokerInterface σ)
    (directory : Directory) (calls : List BrokerCall) (state : σ)
    (finds : FindsLastControl
      (deeds (broker.turns (surroundings.consulting directory) calls state))) :
    (∀ past turn later,
      broker.turns (surroundings.consulting directory) calls state = past ++ turn :: later →
        turn.Sourced broker directory (deeds past)) ∧
    ∀ other : Directory, other.accounts.Perm directory.accounts →
      broker.turns (surroundings.consulting other) calls state =
        broker.turns (surroundings.consulting directory) calls state := by
  refine ⟨fun past turn later turns => ?_, fun other same => ?_⟩
  · have acting := findsActing_turn turns finds
    have member : turn ∈ broker.turns (surroundings.consulting directory) calls state := by
      simp [turns]
    obtain ⟨call, before, rfl⟩ := exists_of_mem_turns member
    exact turn_sourced (consults_turn call before) acting
  · rw [surroundings.consulting_perm same]

/-- Settings with two entries about one control-plane account, of which the last one names a role,
and none about the other one. -/
def layeredSettings : BrokerSettings :=
  { sampleSettings with controlPlaneRoles := [⟨⟨"111111111111"⟩, .api, none⟩,
      ⟨⟨"111111111111"⟩, .api, some ⟨"arn:aws:iam::111111111111:role/lakehub-api"⟩⟩] }

/-- A broker with those settings. -/
def layeredBroker : Broker := { sampleBroker with settings := layeredSettings }

/-- A target in a partition whose control-plane account has no entry. -/
def abroadTarget : AssumptionTarget :=
  .ofAccount { Fixtures.managedAccount "777777777777" .usecase with
    hub := Fixtures.hub ⟨"aws-cn"⟩ } none

/-- The stores of a stage are the same with a directory that never changes. -/
theorem stores_consulting (directory : Directory) :
    Rehearsal.BrokerStage.Stores
      (Rehearsal.BrokerStage.surroundings.consulting directory) where
  keep := rfl
  session _ _ := rfl
  controlSession _ _ := rfl
  still request stage := by
    have still := Rehearsal.BrokerStage.stores.still request stage
    cases request <;> exact still

/-- Two accounts of one partition are served from one control-plane session; in the other partition
no role is tried. -/
theorem sources_identified_layered :
    let surroundings := Rehearsal.BrokerStage.surroundings.consulting sampleStage.directory
    let second := AssumptionTarget.ofAccount (Fixtures.managedAccount "444444444444" .usecase) none
    let calls := [.assume sampleTarget, .assume second, .assume abroadTarget]
    let turns := layeredBroker.turns surroundings calls sampleStage
    FindsLastControl (deeds turns) ∧
      (∀ past turn later, turns = past ++ turn :: later →
        turn.Sourced layeredBroker sampleStage.directory (deeds past)) ∧
      turns.map (fun turn => turn.deeds.filterMap BrokerDeed.grantedRole?) =
        [[⟨"arn:aws:iam::111111111111:role/lakehub-api"⟩, layeredBroker.metadataRole sampleTarget],
          [layeredBroker.metadataRole second], []] := by
  intro surroundings second calls turns
  have finds : FindsLastControl (deeds turns) :=
    (stores_consulting sampleStage.directory).findsLastControl layeredBroker rfl calls
  have sources := sources_identified layeredBroker Rehearsal.BrokerStage.surroundings
    sampleStage.directory calls sampleStage finds
  exact ⟨finds, sources.1, by decide +kernel⟩

end Broker

end ControlPlane
