import ControlPlane.Proofs.Lock.Attempt

/-!
# Who has a lock

The exchanges that create and delete a lock tell who has it, and in which order it has been had. If
operations exclude each other, the lock changes in rounds: each operation acquires it and releases
it before the next one does.
-/
namespace ControlPlane

variable {Step Reply : Type}

/-- What an exchange does to the lock of an id: it creates it, or deletes it. -/
def lockChange? (lockId : String) : GuardExchange Step Reply → Option Bool
  | ⟨.create lock, .ok ()⟩ => if lock.id = lockId then some true else none
  | ⟨.delete other, .ok ()⟩ => if other = lockId then some false else none
  | _ => none

/-- The acquisitions and releases of a lock, each with the place of the operation. -/
def lockChanges (lockId : String) (calls : List (Nat × GuardExchange Step Reply)) :
    List (Nat × Bool) :=
  calls.filterMap fun call => (lockChange? lockId call.2).map fun taken => (call.1, taken)

/-- One operation after another acquires the lock and releases it: a round each. -/
def rounds : List Nat → List (Nat × Bool)
  | [] => []
  | place :: rest => (place, true) :: (place, false) :: rounds rest

section Changes

variable {lockId : String} {calls : List (Nat × GuardExchange Step Reply)} {place : Nat}

/-- Looking around changes no lock. -/
theorem lockChange?_of_looks {call : GuardExchange Step Reply} (looks : call.1.Looks) :
    lockChange? lockId call = none := by
  obtain ⟨request, answer⟩ := call
  cases request with
  | create lock => exact looks.elim
  | delete other => exact looks.elim
  | _ => rfl

/-- Looking around, or failing to create a lock, changes no lock. -/
theorem lockChange?_eq_none {made : List (GuardExchange Step Reply)}
    (looking : ∀ call ∈ made, call.1.Looks ∨
      ∃ lock error, call = (GuardRequest.create lock).gets (.error error)) :
    ∀ call ∈ made, lockChange? lockId call = none := by
  intro call member
  obtain looks | ⟨lock, error, rfl⟩ := looking call member
  · exact lockChange?_of_looks looks
  · rfl

/-- Exchanges that do not change the lock leave the changes as they are. -/
theorem lockChanges_append_quiet {made : List (GuardExchange Step Reply)}
    (quiet : ∀ call ∈ made, lockChange? lockId call = none) :
    lockChanges lockId (calls ++ made.map fun call => (place, call)) =
      lockChanges lockId calls := by
  unfold lockChanges
  rw [List.filterMap_append, List.filterMap_map]
  have nothing : made.filterMap ((fun call : Nat × GuardExchange Step Reply =>
      (lockChange? lockId call.2).map fun taken => (call.1, taken)) ∘ fun call => (place, call)) =
      [] := by
    refine List.filterMap_eq_nil_iff.mpr fun call member => ?_
    simp [quiet call member]
  rw [nothing, List.append_nil]

/-- An exchange that changes the lock is added to the changes. -/
theorem lockChanges_append_change {call : GuardExchange Step Reply} {taken : Bool}
    (change : lockChange? lockId call = some taken) :
    lockChanges lockId (calls ++ [call].map fun call => (place, call)) =
      lockChanges lockId calls ++ [(place, taken)] := by
  unfold lockChanges
  rw [List.filterMap_append]
  simp [change]

/-- One more round comes at the end. -/
theorem rounds_append (past : List Nat) (place : Nat) :
    rounds (past ++ [place]) = rounds past ++ [(place, true)] ++ [(place, false)] := by
  induction past with
  | nil => rfl
  | cons first rest ih =>
    change (first, true) :: (first, false) :: rounds (rest ++ [place]) = _
    rw [ih]
    rfl

end Changes

end ControlPlane
