import ControlPlane.Proofs.Session.History

/-!
# What is shown of sessions

What is shown of credentials is everything but their secret and their token; of a token it is shown
that there is one. The text of a session and its expiration are shown. So programs that get the same
answers as far as is shown can do the same as far as is shown (`Unseen`), and each operation of a
broker is such a program, whatever sessions and credentials it handles (`unseen_perform`).
-/
namespace ControlPlane

/-- What is shown of credentials. -/
def Credentials.shown (credentials : Credentials) : Credentials :=
  { credentials with secret := "", token := credentials.token.map fun _ => "" }

/-- What is shown of a session. -/
def Session.shown (session : Session) : Session :=
  { session with credentials := session.credentials.map Credentials.shown }

/-- What is shown of an assumption. -/
def Assumption.shown (assumption : Assumption) : Assumption :=
  { assumption with source := assumption.source.shown }

/-- What is shown of a mark. -/
def BrokerMark.shown : BrokerMark → BrokerMark
  | keep session => keep session.shown
  | keepControl key session => keepControl key session.shown
  | mark => mark

/-- What is shown of the answer to a request. -/
def BrokerRequest.shown : (request : BrokerRequest) → request.Answer → request.Answer
  | session _, kept => kept.map Session.shown
  | controlSession _, kept => kept.map Session.shown
  | clock, now => now
  | account _, found => found
  | assume _, granted => granted.map Credentials.shown
  | sleep _, done => done

/-- What is shown of kept sessions. -/
def SessionStore.shown {κ : Type} (store : SessionStore κ) : SessionStore κ :=
  ⟨store.entries.map fun entry => (entry.1, entry.2.shown)⟩

section Texts

/-- The text of credentials is that of what is shown of them. -/
theorem Credentials.debugText_shown (credentials : Credentials) :
    credentials.shown.debugText = credentials.debugText := by
  unfold debugText shown
  rw [Option.map_map]
  rfl

/-- The text of a session is that of what is shown of it. -/
theorem Session.debugText_shown (session : Session) :
    session.shown.debugText = session.debugText := by
  have texts : Credentials.debugText ∘ Credentials.shown = Credentials.debugText :=
    funext Credentials.debugText_shown
  unfold debugText shown
  rw [Option.map_map, texts]

/-- When a session expires is shown. -/
theorem Session.expiresWithin?_shown (session : Session) (margin : Duration) (now : Instant) :
    session.shown.expiresWithin? margin now = session.expiresWithin? margin now := by
  unfold expiresWithin? shown
  cases session.credentials <;> rfl

end Texts

section Stores

variable {κ : Type} [DecidableEq κ] (store : SessionStore κ) (key : κ)

/-- What is shown of a kept session is found in what is shown of the store. -/
theorem SessionStore.find?_shown : store.shown.find? key = (store.find? key).map Session.shown := by
  unfold find? shown
  rw [List.find?_map, Option.map_map, Option.map_map]
  rfl

/-- A session is dropped before what is shown is looked at, or after. -/
theorem SessionStore.drop_shown : (store.drop key).shown = store.shown.drop key := by
  unfold drop shown
  rw [List.filter_map]
  rfl

/-- A session is kept before what is shown is looked at, or after. -/
theorem SessionStore.keep_shown (session : Session) :
    (store.keep key session).shown = store.shown.keep key session.shown := by
  unfold keep
  rw [← drop_shown]
  rfl

end Stores

/-- Results that are the same as far as is shown fail alike or are both given. -/
theorem result_cases {ε α β : Type} {shown : α → β} {first second : Except ε α}
    (same : first.map shown = second.map shown) :
    (∃ error, first = .error error ∧ second = .error error) ∨
      ∃ value other, first = .ok value ∧ second = .ok other ∧ shown value = shown other := by
  cases first with
  | error error =>
    cases second with
    | error other =>
      cases same
      exact .inl ⟨_, rfl, rfl⟩
    | ok value => cases same
  | ok value =>
    cases second with
    | error error => cases same
    | ok other => exact .inr ⟨value, other, rfl, rfl, Except.ok.inj same⟩

/-- What may be missing, and is the same as far as is shown, is missing from both or there in both. -/
theorem option_cases {α β : Type} {shown : α → β} {first second : Option α}
    (same : first.map shown = second.map shown) :
    (first = none ∧ second = none) ∨
      ∃ value other, first = some value ∧ second = some other ∧ shown value = shown other := by
  cases first with
  | none =>
    cases second with
    | none => exact .inl ⟨rfl, rfl⟩
    | some value => cases same
  | some value =>
    cases second with
    | none => cases same
    | some other => exact .inr ⟨value, other, rfl, rfl, Option.some.inj same⟩

/-- Two programs that do the same as far as is shown, as long as they get the same answers as far as
is shown. -/
inductive Unseen {α β : Type} (shown : α → β) : Brokered α → Brokered α → Prop where
  /-- Both are done, with results that show the same. -/
  | done {first second : α} (same : shown first = shown second) :
      Unseen shown (.done first) (.done second)
  /-- Both leave marks that show the same, and go on. -/
  | leave {first second : BrokerMark} {rest other : Brokered α} (same : first.shown = second.shown)
      (later : Unseen shown rest other) : Unseen shown (.leave first rest) (.leave second other)
  /-- Both make the same request, and go on alike after answers that show the same. -/
  | ask (request : BrokerRequest) {next other : request.Answer → Brokered α}
      (later : ∀ answer another, request.shown answer = request.shown another →
        Unseen shown (next answer) (other another)) :
      Unseen shown (.ask request next) (.ask request other)
  /-- Both assume a role, which shows the same, and go on alike after answers that show the same. -/
  | assume {first second : Assumption}
      {next other : Except ServiceFailure Credentials → Brokered α}
      (same : first.shown = second.shown)
      (later : ∀ granted another, granted.map Credentials.shown = another.map Credentials.shown →
        Unseen shown (next granted) (other another)) :
      Unseen shown (.ask (.assume first) next) (.ask (.assume second) other)

section Operations

variable (broker : Broker)

/-- Programs that go on with what is the same as far as is shown. -/
theorem Unseen.bind {α β γ δ : Type} {shown : α → β} {shownThen : γ → δ} {first second : Brokered α}
    {next other : α → Brokered γ} (unseen : Unseen shown first second)
    (later : ∀ result another, shown result = shown another →
      Unseen shownThen (next result) (other another)) :
    Unseen shownThen (first >>= next) (second >>= other) := by
  induction unseen with
  | done same => exact later _ _ same
  | leave same _ ih => exact .leave same ih
  | ask request _ ih => exact .ask request ih
  | assume same _ ih => exact .assume same ih

/-- Failures are tried again alike. -/
theorem unseen_attempt (policy : RetryPolicy) (operation : String)
    {first second : Brokered (Except ServiceFailure Credentials)}
    (unseen : Unseen (Except.map Credentials.shown) first second) (remaining : Nat) :
    Unseen (Except.map Credentials.shown)
      (policy.attempt operation BrokerMark.event (fun wait => Brokered.request (.sleep wait)) first
        remaining)
      (policy.attempt operation BrokerMark.event (fun wait => Brokered.request (.sleep wait)) second
        remaining) := by
  induction remaining with
  | zero => exact unseen
  | succ remaining ih =>
    refine unseen.bind fun result another same => ?_
    obtain ⟨failure, rfl, rfl⟩ | ⟨value, other, rfl, rfl, shown⟩ := result_cases same
    · by_cases again : policy.retries failure
      · simp only [again, if_true]
        exact .leave rfl (.ask (.sleep policy.wait) fun _ _ _ => ih)
      · simp only [again]
        exact .done rfl
    · exact .done same

/-- A role is assumed alike from sessions that are shown alike. -/
theorem unseen_assumeRole {first second : Session} (same : first.shown = second.shown)
    (role : RoleArn) : Unseen (Except.map Credentials.shown) (broker.assumeRole first role)
      (broker.assumeRole second role) := by
  refine unseen_attempt broker.policy _ (.assume ?_ fun granted another => .done) _
  exact congrArg (fun source : Session =>
    (⟨source, role, broker.settings.sessionName, broker.settings.assumeDuration⟩ : Assumption)) same

/-- Sessions with credentials that are shown alike are shown alike. -/
theorem Session.shown_ofCredentials {first second : Credentials} (same : first.shown = second.shown)
    (account : AccountId) (region : String) :
    (Session.ofCredentials account first region).shown =
      (Session.ofCredentials account second region).shown :=
  congrArg (fun shown => (⟨account, region, some shown⟩ : Session)) same

/-- Kept sessions that are shown alike are both about to expire, or both not. -/
theorem unseen_fresh {first second : Option Session}
    (same : first.map Session.shown = second.map Session.shown) (drop : BrokerMark) :
    Unseen (Except.map (Option.map Session.shown)) (broker.fresh first drop)
      (broker.fresh second drop) := by
  obtain ⟨rfl, rfl⟩ | ⟨session, other, rfl, rfl, shown⟩ := option_cases same
  · exact .done rfl
  · refine .ask .clock fun now another alike => ?_
    obtain rfl : now = another := alike
    have expires : session.expiresWithin? broker.settings.expiryMargin now =
        other.expiresWithin? broker.settings.expiryMargin now := by
      rw [← Session.expiresWithin?_shown, shown, Session.expiresWithin?_shown]
    simp only [Program.bind, expires]
    cases other.expiresWithin? broker.settings.expiryMargin now with
    | none => exact .done rfl
    | some due =>
      cases due with
      | false => exact .done (congrArg Except.ok same)
      | true => exact .leave rfl (.done rfl)

/-- A session of a control-plane account is made alike. -/
theorem unseen_makeControlSession (key : ControlPlaneKey) :
    Unseen (Except.map Session.shown) (broker.makeControlSession key)
      (broker.makeControlSession key) := by
  unfold Broker.makeControlSession
  cases broker.controlPlaneRole? key with
  | none => exact .done rfl
  | some entry =>
    dsimp only
    cases entry.role with
    | none => exact .leave rfl (.done rfl)
    | some role =>
      refine (unseen_assumeRole broker rfl role).bind fun granted another same => ?_
      obtain ⟨failure, rfl, rfl⟩ | ⟨credentials, other, rfl, rfl, shown⟩ :=
        result_cases same
      · exact .done rfl
      · have session := Session.shown_ofCredentials shown key.account broker.ambientRegion
        exact .leave (congrArg (BrokerMark.keepControl key) session)
          (.done (congrArg Except.ok session))

/-- A session of a control-plane account is given out alike. -/
theorem unseen_controlSession (account : Account) :
    Unseen (Except.map Session.shown) (broker.controlSession account)
      (broker.controlSession account) := by
  refine .ask (.controlSession _) fun kept another same => ?_
  refine (unseen_fresh broker same _).bind fun found other same => ?_
  obtain ⟨error, rfl, rfl⟩ | ⟨_, _, rfl, rfl, alike⟩ := result_cases same
  · exact .done rfl
  · obtain ⟨rfl, rfl⟩ | ⟨session, another, rfl, rfl, shown⟩ := option_cases alike
    · exact unseen_makeControlSession broker _
    · exact .done (congrArg Except.ok shown)

/-- The role of a target is assumed alike from sessions that are shown alike. -/
theorem unseen_assumeFrom {first second : Session} (same : first.shown = second.shown)
    (target : AssumptionTarget) (region : String) :
    Unseen (Except.map Session.shown) (broker.assumeFrom first target region)
      (broker.assumeFrom second target region) := by
  refine (unseen_assumeRole broker same _).bind fun granted another same => ?_
  obtain ⟨failure, rfl, rfl⟩ | ⟨credentials, other, rfl, rfl, shown⟩ := result_cases same
  · exact .leave rfl (.done rfl)
  · have session := Session.shown_ofCredentials shown target.accountId region
    exact .leave (congrArg BrokerMark.keep session) (.done (congrArg Except.ok session))

/-- A session of a target is made alike. -/
theorem unseen_makeSession (target : AssumptionTarget) (region : String) :
    Unseen (Except.map Session.shown) (broker.makeSession target region)
      (broker.makeSession target region) := by
  refine .ask (.account _) fun found another same => ?_
  obtain rfl : found = another := same
  cases found with
  | error error => exact .done rfl
  | ok account =>
    refine (unseen_controlSession broker account).bind fun source another same => ?_
    obtain ⟨error, rfl, rfl⟩ | ⟨session, another, rfl, rfl, shown⟩ := result_cases same
    · exact .done rfl
    · exact unseen_assumeFrom broker shown target region

/-- A session of a target is given out alike. -/
theorem unseen_assumeIn (target : AssumptionTarget) (region : String) :
    Unseen (Except.map Session.shown) (broker.assumeIn target region)
      (broker.assumeIn target region) := by
  unfold Broker.assumeIn
  by_cases supported : target.supportsMetadataRole
  · rw [if_neg (fun unsupported => unsupported supported)]
    refine .ask (.session _) fun kept another same => ?_
    refine (unseen_fresh broker same _).bind fun found other same => ?_
    obtain ⟨error, rfl, rfl⟩ | ⟨_, _, rfl, rfl, alike⟩ := result_cases same
    · exact .done rfl
    · obtain ⟨rfl, rfl⟩ | ⟨session, another, rfl, rfl, shown⟩ := option_cases alike
      · exact unseen_makeSession broker target region
      · exact .done (congrArg Except.ok shown)
  · rw [if_pos supported]
    exact .done rfl

/-- So is one of a target that may have no metadata role. -/
theorem unseen_assumeLenient (target : AssumptionTarget) :
    Unseen (Except.map (Option.map Session.shown)) (broker.assumeLenient target)
      (broker.assumeLenient target) := by
  refine (unseen_assumeIn broker target _).bind fun result another same => ?_
  obtain ⟨error, rfl, rfl⟩ | ⟨session, another, rfl, rfl, shown⟩ := result_cases same
  · cases error <;> exact .done rfl
  · exact .done (congrArg (Except.ok ∘ some) shown)

/-- What is shown of the result of a call. -/
def BrokerCall.shown : (call : BrokerCall) → call.Result → call.Result
  | assumeIn .., result => result.map Session.shown
  | assume _, result => result.map Session.shown
  | assumeLenient _, result => result.map (Option.map Session.shown)
  | invalidate .., result => result
  | invalidateAll, result => result

/-- No call does anything else if only secrets are different. -/
theorem unseen_perform (call : BrokerCall) :
    Unseen call.shown (broker.perform call) (broker.perform call) := by
  cases call with
  | assumeIn target region => exact unseen_assumeIn broker target region
  | assume target => exact unseen_assumeIn broker target _
  | assumeLenient target => exact unseen_assumeLenient broker target
  | invalidate account region => exact .leave rfl (.done rfl)
  | invalidateAll => exact .leave rfl (.done rfl)

end Operations

end ControlPlane
