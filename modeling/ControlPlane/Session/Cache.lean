import ControlPlane.Session.Basic

/-!
# Kept sessions

A store of sessions keeps the last one of a key until it is dropped. The session cache finds
sessions by account and region, and drops one that is about to expire when it is looked up. A cache
without room, or in which nothing may stay for any time, keeps nothing.
-/
namespace ControlPlane

/-- Sessions by their keys, each key at most once. -/
structure SessionStore (κ : Type) where
  /-- The sessions with their keys. -/
  entries : List (κ × Session)

namespace SessionStore

variable {κ : Type} [DecidableEq κ]

/-- No sessions. -/
def empty : SessionStore κ := ⟨[]⟩

/-- The session of a key. -/
def find? (store : SessionStore κ) (key : κ) : Option Session :=
  (store.entries.find? fun entry => entry.1 = key).map (·.2)

/-- Drop the session of a key. -/
def drop (store : SessionStore κ) (key : κ) : SessionStore κ :=
  ⟨store.entries.filter fun entry => entry.1 ≠ key⟩

/-- Keep a session under a key, in the place of the one before. -/
def keep (store : SessionStore κ) (key : κ) (session : Session) : SessionStore κ :=
  ⟨(key, session) :: (store.drop key).entries⟩

/-- Under a dropped key nothing is found, and elsewhere what was there. -/
theorem find?_drop (store : SessionStore κ) (key wanted : κ) :
    (store.drop key).find? wanted = if wanted = key then none else store.find? wanted := by
  unfold find? drop
  rw [List.find?_filter]
  by_cases same : wanted = key
  · simp [same]
  · rw [if_neg same]
    congr 2
    funext entry
    by_cases found : entry.1 = wanted
    · simp [found, same]
    · simp [found]

/-- Under a key the session that is kept is found, and elsewhere what was there. -/
theorem find?_keep (store : SessionStore κ) (key wanted : κ) (session : Session) :
    (store.keep key session).find? wanted =
      if wanted = key then some session else store.find? wanted := by
  by_cases same : wanted = key
  · simp [keep, find?, same]
  · have dropped := find?_drop store key wanted
    rw [if_neg same] at dropped
    rw [if_neg same, ← dropped]
    simp [keep, find?, Ne.symm same]

end SessionStore

/-- Sessions are cached by account and region. -/
structure SessionKey where
  /-- The account that the session acts for. -/
  account : AccountId
  /-- The region of the session. -/
  region : String
deriving DecidableEq, Repr

/-- The key of a session. -/
def Session.key (session : Session) : SessionKey := ⟨session.account, session.region⟩

/-- A cache of sessions. -/
structure SessionCache where
  /-- The number of sessions that there is room for. -/
  capacity : Nat
  /-- How long a session may stay. -/
  timeToLive : Duration
  /-- A session that expires within this time is not found. -/
  margin : Duration
  /-- The sessions that are kept. -/
  sessions : SessionStore SessionKey

namespace SessionCache

/-- The longest time that a session may stay: a thousand years of 365 days. -/
def longestTimeToLive : Duration := .ofSeconds 31536000000

/-- An empty cache, if its sessions do not stay for too long. -/
def of? (capacity : Nat) (timeToLive margin : Duration) : Option SessionCache :=
  if longestTimeToLive.nanoseconds < timeToLive.nanoseconds then none
  else some ⟨capacity, timeToLive, margin, .empty⟩

/-- Whether sessions are kept at all. -/
def keepsSessions (cache : SessionCache) : Bool :=
  0 < cache.capacity && 0 < cache.timeToLive.nanoseconds

/-- Keep a session. -/
def insert (cache : SessionCache) (session : Session) : SessionCache :=
  if cache.keepsSessions then { cache with sessions := cache.sessions.keep session.key session }
  else cache

/-- Drop a session. -/
def invalidate (cache : SessionCache) (key : SessionKey) : SessionCache :=
  { cache with sessions := cache.sessions.drop key }

/-- Drop all sessions. -/
def invalidateAll (cache : SessionCache) : SessionCache := { cache with sessions := .empty }

/-- Look up a session; one that is about to expire is dropped. There is no answer if the margin
leads beyond the calendar. -/
def get? (cache : SessionCache) (key : SessionKey) (now : Instant) :
    Option (Option Session × SessionCache) :=
  match cache.sessions.find? key with
  | none => some (none, cache)
  | some session => match session.expiresWithin? cache.margin now with
    | none => none
    | some true => some (none, cache.invalidate key)
    | some false => some (some session, cache)

/-- The text of an empty cache, for logs. -/
def debugText (margin : Duration) : String :=
  "SessionCache \x7b entries: 0, expiry_margin: " ++ margin.text ++ " \x7d"

end SessionCache

end ControlPlane
