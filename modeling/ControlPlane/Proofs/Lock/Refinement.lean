import ControlPlane.Lock.Service
import ControlPlane.Proofs.Lock.Rows
import Mathlib.Data.List.Perm.Basic

/-!
# The remote table does what the one in memory does

A store of items that keeps them by their ids, refuses to create an item twice and to delete one
that is not there, and lists all of them page after page (`KeepsItems`), makes the remote lock table
answer every call like the table in memory (`remote_refines`). What is listed comes in the order of
the store; it is the same list if that is the order of the ids.

The relation between the two tables is that the store holds the items of the locks in memory. A
single call keeps it up and is answered alike (`perform_agrees`), so all calls in a row are.
-/
namespace ControlPlane

/-- A call of a lock table. -/
inductive TableCall where
  /-- Create a lock, unless there is one of its id. -/
  | create (lock : Lock)
  /-- The lock of an id. -/
  | get (lockId : String)
  /-- Delete the lock of an id. -/
  | delete (lockId : String)
  /-- Whether there is a lock of an id. -/
  | contains (lockId : String)
  /-- All locks. -/
  | list

namespace TableCall

/-- The type of the result of a call. -/
abbrev Result : TableCall → Type
  | create _ => Except LockTableError Unit
  | get _ => Except LockTableError Lock
  | delete _ => Except LockTableError Unit
  | contains _ => Except LockTableError Bool
  | list => Except LockTableError (List Lock)

/-- Whether a lock is there, by the result of looking for it. -/
def presence : Except LockTableError Lock → Except LockTableError Bool
  | .ok _ => .ok true
  | .error (.notFound _) => .ok false
  | .error error => .error error

/-- Two results of a call are the same. Locks that are listed may come in any order; they are the
same list if they come in the order of their ids. -/
def Agree : (call : TableCall) → call.Result → call.Result → Prop
  | list, .ok first, second => ∃ locks, second = .ok locks ∧ first.Perm locks ∧
      (first.Pairwise (·.id < ·.id) → first = locks)
  | list, .error first, second => second = .error first
  | create _, first, second => first = second
  | get _, first, second => first = second
  | delete _, first, second => first = second
  | contains _, first, second => first = second

end TableCall

/-- A call of the table in memory. -/
def LockTable.perform (table : LockTable) : (call : TableCall) → call.Result × LockTable
  | .create lock => table.create lock
  | .get lockId => (table.get lockId, table)
  | .delete lockId => table.delete lockId
  | .contains lockId => (TableCall.presence (table.get lockId), table)
  | .list => (.ok table.list, table)

/-- A call of the remote table. -/
def RemoteTable.perform {σ : Type} (table : RemoteTable) (store : ItemStore σ) :
    (call : TableCall) → σ → call.Result × σ
  | .create lock, state => table.create store lock state
  | .get lockId, state => table.get store lockId state
  | .delete lockId, state => table.delete store lockId state
  | .contains lockId, state =>
    let (found, after) := table.get store lockId state
    (TableCall.presence found, after)
  | .list, state => table.list store state

/-- Whether there is a lock of an id is found out by looking for it. -/
theorem LockService.run_lockExists {Step Reply σ : Type}
    (surroundings : Surroundings (guardInterface Step Reply) σ) (lockId : String) (state : σ) :
    (LockService.lockExists lockId).run surroundings state =
      (TableCall.presence (surroundings.answer (.get lockId) state).1,
        (surroundings.answer (.get lockId) state).2) := by
  have asked (next : Except LockTableError Lock →
      Guarded Step Reply (Except LockTableError Bool)) :
      (Guarded.request (.get lockId) >>= next).run surroundings state =
        (next (surroundings.answer (.get lockId) state).1).run surroundings
          (surroundings.answer (.get lockId) state).2 := rfl
  unfold LockService.lockExists
  rw [asked]
  cases (surroundings.answer (.get lockId) state).1 with
  | ok lock => rfl
  | error error => cases error <;> rfl

section Store

variable {σ : Type}

/-- Pages that a store gives from a key on: each but the last one comes with the key of the next. -/
inductive Scans (store : ItemStore σ) (name : String) :
    Option Item → σ → List Item → σ → Prop where
  /-- A page without a key, or with an empty one, is the last. -/
  | last {start : Option Item} {state after : σ} {reply : ItemReply}
      (answered : store.call (.scan name start) state = (.ok reply, after))
      (ended : reply.next? = none) : Scans store name start state reply.page after
  /-- The items of a page come before those of the pages that its key leads to. -/
  | more {start : Option Item} {state between after : σ} {reply : ItemReply} {key : Item}
      {others : List Item}
      (answered : store.call (.scan name start) state = (.ok reply, between))
      (next : reply.next? = some key) (later : Scans store name (some key) between others after) :
      Scans store name start state (reply.page ++ others) after

/-- A store keeps the items of a table by the ids of their locks. What it holds in a state is said
by a relation, since a store may have other things in mind too. -/
structure KeepsItems (store : ItemStore σ) (name : String) (holds : σ → Dictionary Item → Prop) :
    Prop where
  /-- An item is created if there is none of its id. -/
  create_free : ∀ {state items item lockId}, holds state items →
    item.text? Lock.keyName = some lockId → items.find? lockId = none →
      ∃ reply after, store.call (.create name item) state = (.ok reply, after) ∧
        holds after (items.insert lockId item)
  /-- An item is refused if there is one of its id. -/
  create_held : ∀ {state items item lockId held}, holds state items →
    item.text? Lock.keyName = some lockId → items.find? lockId = some held →
      ∃ message after, store.call (.create name item) state =
        (.error (.ofAnswer (some ServiceFailure.conditionFailedCode) message), after) ∧
          holds after items
  /-- The item of an id is found, or found to be missing. -/
  get : ∀ {state items} lockId, holds state items →
    ∃ reply after, store.call (.get name (.key lockId)) state = (.ok reply, after) ∧
      reply.item = items.find? lockId ∧ holds after items
  /-- The item of an id is deleted if there is one. -/
  delete_held : ∀ {state items lockId held}, holds state items →
    items.find? lockId = some held →
      ∃ reply after, store.call (.delete name (.key lockId)) state = (.ok reply, after) ∧
        holds after (items.erase lockId)
  /-- To delete an item that is not there is refused. -/
  delete_free : ∀ {state items lockId}, holds state items → items.find? lockId = none →
    ∃ message after, store.call (.delete name (.key lockId)) state =
      (.error (.ofAnswer (some ServiceFailure.conditionFailedCode) message), after) ∧
        holds after items
  /-- The pages of a scan hold all items, in any order and cut in any way. -/
  scan : ∀ {state items}, holds state items →
    ∃ scanned after, Scans store name none state scanned after ∧ scanned.Perm items.values ∧
      holds after items

end Store

/-- A refusal is sorted as one. -/
theorem ServiceFailure.exists_ofAnswer_conditionFailed (message : Option String) :
    ∃ words, ServiceFailure.ofAnswer (some ServiceFailure.conditionFailedCode) message =
      .conditionFailed words := by
  refine ⟨message.getD "Unknown error", ?_⟩
  rw [ofAnswer, classify, if_pos rfl]

namespace RemoteTable

variable {σ : Type} {store : ItemStore σ} {table : RemoteTable}

/-- The items of two pages are read one after another. -/
theorem readPage_append (front back : List Item) :
    readPage (front ++ back) = do
      let first ← readPage front
      let second ← readPage back
      return first ++ second := by
  induction front with
  | nil => cases read : readPage back <;> simp [readPage, ok_bind, read]
  | cons item front ih =>
    rw [List.cons_append, readPage, readPage, ih]
    cases item.toLock with
    | error error => rfl
    | ok lock =>
      cases readPage front with
      | error error => rfl
      | ok first => cases readPage back <;> rfl

/-- Items that are those of locks are read as these locks. -/
theorem readPage_map {locks : List Lock} (storable : ∀ lock ∈ locks, lock.Storable) :
    readPage (locks.map Item.ofLock) = .ok locks := by
  induction locks with
  | nil => rfl
  | cons lock locks ih =>
    have own := Item.toLock_ofLock (storable lock (List.mem_cons_self ..))
    have others := ih fun other member => storable other (List.mem_cons_of_mem _ member)
    rw [List.map_cons, readPage, own, ok_bind, others]
    rfl

/-- Items in any order are those of the locks in some order. -/
theorem exists_of_perm_map {items : List Item} {locks : List Lock}
    (same : items.Perm (locks.map Item.ofLock)) :
    ∃ found : List Lock, items = found.map Item.ofLock ∧ found.Perm locks := by
  have each : List.Forall₂ (fun item lock => item = Item.ofLock lock)
      (locks.map Item.ofLock) locks :=
    List.forall₂_map_left_iff.mpr (List.forall₂_same.mpr fun _ _ => rfl)
  obtain ⟨found, own, perm⟩ := List.perm_comp_forall₂ same each
  refine ⟨found, ?_, perm⟩
  rw [← List.forall₂_eq_eq_eq]
  exact List.forall₂_map_right_iff.mpr own

section Listing

variable {start : Option Item} {state after : σ} {reply : ItemReply} {locks : List Lock}

/-- A listing ends with a scan that fails. -/
theorem listFrom_of_error (ends : store.ScanEnds table.name start state) {failure : ServiceFailure}
    (answered : store.call (.scan table.name start) state = (.error failure, after)) :
    table.listFrom store start state ends = (.error (.store failure), after) := by
  rw [listFrom]
  split
  · next got =>
    cases answered.symm.trans got
    rfl
  · next got => cases answered.symm.trans got

/-- A page is read, and the listing goes on from its key if there is one. -/
theorem listFrom_of_page (ends : store.ScanEnds table.name start state)
    (answered : store.call (.scan table.name start) state = (.ok reply, after)) :
    table.listFrom store start state ends = match readPage reply.page with
      | .error error => (.error error, after)
      | .ok locks => match next : reply.next? with
        | none => (.ok locks, after)
        | some key =>
          let later := table.listFrom store (some key) after
            (ends.inv ⟨reply, key, answered, next, rfl⟩)
          (later.1.map (locks ++ ·), later.2) := by
  rw [listFrom]
  split
  · next got => cases answered.symm.trans got
  · next got =>
    cases answered.symm.trans got
    rfl

/-- A listing ends with a page that is not read. -/
theorem listFrom_of_unread (ends : store.ScanEnds table.name start state) {error : LockTableError}
    (answered : store.call (.scan table.name start) state = (.ok reply, after))
    (unread : readPage reply.page = .error error) :
    table.listFrom store start state ends = (.error error, after) := by
  rw [listFrom_of_page ends answered, unread]

/-- A listing ends with a page that no other one follows. -/
theorem listFrom_of_last (ends : store.ScanEnds table.name start state)
    (answered : store.call (.scan table.name start) state = (.ok reply, after))
    (read : readPage reply.page = .ok locks) (ended : reply.next? = none) :
    table.listFrom store start state ends = (.ok locks, after) := by
  simp only [listFrom_of_page ends answered, read]
  split
  · rfl
  · next more => cases ended.symm.trans more

/-- A page is listed before the pages after it. -/
theorem listFrom_of_next (ends : store.ScanEnds table.name start state) {key : Item}
    (answered : store.call (.scan table.name start) state = (.ok reply, after))
    (read : readPage reply.page = .ok locks) (next : reply.next? = some key)
    (later : store.ScanEnds table.name (some key) after) :
    table.listFrom store start state ends =
      ((table.listFrom store (some key) after later).1.map (locks ++ ·),
        (table.listFrom store (some key) after later).2) := by
  simp only [listFrom_of_page ends answered, read]
  split
  · next ended => cases next.symm.trans ended
  · next more =>
    cases next.symm.trans more
    rfl

end Listing

/-- All pages of a scan are listed, one after another. -/
theorem listFrom_of_scans {start : Option Item} {state after : σ} {items : List Item}
    {locks : List Lock} (scans : Scans store table.name start state items after)
    (ends : store.ScanEnds table.name start state) (read : readPage items = .ok locks) :
    table.listFrom store start state ends = (.ok locks, after) := by
  induction scans generalizing locks with
  | last answered ended => exact listFrom_of_last ends answered read ended
  | @more _ _ _ _ reply key others answered next later ih =>
    have further : store.ScanEnds table.name (some key) _ :=
      ends.inv ⟨reply, key, answered, next, rfl⟩
    rw [readPage_append] at read
    cases first : readPage reply.page with
    | error error =>
      rw [first] at read
      cases read
    | ok front =>
      cases second : readPage others with
      | error error =>
        rw [first, second] at read
        cases read
      | ok back =>
        rw [first, second] at read
        cases read
        rw [listFrom_of_next ends answered first next further, ih further second]
        rfl

end RemoteTable

namespace LockTable

/-- The locks of a table are kept under their ids, and have texts that are read back. -/
def Sound (table : LockTable) : Prop :=
  ∀ entry ∈ table.entries, entry.2.id = entry.1 ∧ entry.2.Storable

/-- The empty table is sound. -/
theorem sound_empty : Sound Dictionary.empty := fun _ member => absurd member List.not_mem_nil

/-- A table stays sound when a lock is inserted. -/
theorem Sound.insert {table : LockTable} (sound : table.Sound) {lock : Lock}
    (storable : lock.Storable) : Sound (Dictionary.insert table lock.id lock) := by
  intro entry member
  rcases Entries.mem_insert member with rfl | old
  · exact ⟨rfl, storable⟩
  · exact sound entry old

/-- A table stays sound when a lock is erased. -/
theorem Sound.erase {table : LockTable} (sound : table.Sound) (lockId : String) :
    Sound (Dictionary.erase table lockId) :=
  fun entry member => sound entry (Entries.mem_erase member)

/-- The locks of a sound table have texts that are read back. -/
theorem Sound.storable {table : LockTable} (sound : table.Sound) {lock : Lock}
    (listed : lock ∈ table.list) : lock.Storable := by
  obtain ⟨entry, member, rfl⟩ := List.mem_map.mp listed
  exact (sound entry member).2

/-- The locks of a sound table are listed in the order of their ids. -/
theorem Sound.pairwise_list {table : LockTable} (sound : table.Sound) :
    table.list.Pairwise (·.id < ·.id) := by
  refine List.pairwise_map.mpr (table.ascending.imp_of_mem fun first second before => ?_)
  rw [(sound _ first).1, (sound _ second).1]
  exact before

end LockTable

namespace RemoteTable

variable {σ : Type} {store : ItemStore σ} {table : RemoteTable}
  {holds : σ → Dictionary Item → Prop}

/-- The store holds the items of the locks that another table has in memory. -/
structure Mirrors (holds : σ → Dictionary Item → Prop) (state : σ) (memory : LockTable) : Prop where
  /-- The items in the store are those of the locks in memory. -/
  held : holds state (memory.map Item.ofLock)
  /-- The locks are kept under their ids, and have texts that are read back. -/
  sound : memory.Sound

/-- A lock is created in both tables or in none. -/
theorem create_agrees (keeps : KeepsItems store table.name holds) {state : σ} {memory : LockTable}
    (mirrors : Mirrors holds state memory) {lock : Lock} (storable : lock.Storable) :
    ∃ after, table.create store lock state = ((memory.create lock).1, after) ∧
      Mirrors holds after (memory.create lock).2 := by
  have own := (Item.text?_ofLock lock).1
  cases found : memory.find? lock.id with
  | some holder =>
    have taken : (memory.map Item.ofLock).find? lock.id = some (Item.ofLock holder) := by
      rw [Dictionary.find?_map, found]
      rfl
    obtain ⟨message, after, answered, still⟩ := keeps.create_held mirrors.held own taken
    obtain ⟨words, refused⟩ := ServiceFailure.exists_ofAnswer_conditionFailed message
    rw [refused] at answered
    rw [LockTable.create_of_find?_some found]
    exact ⟨after, by simp only [create, answered], still, mirrors.sound⟩
  | none =>
    have free : (memory.map Item.ofLock).find? lock.id = none := by
      rw [Dictionary.find?_map, found]
      rfl
    obtain ⟨reply, after, answered, stored⟩ := keeps.create_free mirrors.held own free
    rw [← Dictionary.map_insert] at stored
    rw [LockTable.create_of_find?_none found]
    exact ⟨after, by simp only [create, answered], stored, mirrors.sound.insert storable⟩

/-- A lock is deleted from both tables or from none. -/
theorem delete_agrees (keeps : KeepsItems store table.name holds) {state : σ} {memory : LockTable}
    (mirrors : Mirrors holds state memory) (lockId : String) :
    ∃ after, table.delete store lockId state = ((memory.delete lockId).1, after) ∧
      Mirrors holds after (memory.delete lockId).2 := by
  cases found : memory.find? lockId with
  | some holder =>
    have taken : (memory.map Item.ofLock).find? lockId = some (Item.ofLock holder) := by
      rw [Dictionary.find?_map, found]
      rfl
    obtain ⟨reply, after, answered, removed⟩ := keeps.delete_held mirrors.held taken
    rw [← Dictionary.map_erase] at removed
    rw [LockTable.delete_of_find?_some found]
    exact ⟨after, by simp only [delete, answered], removed, mirrors.sound.erase lockId⟩
  | none =>
    have free : (memory.map Item.ofLock).find? lockId = none := by
      rw [Dictionary.find?_map, found]
      rfl
    obtain ⟨message, after, answered, still⟩ := keeps.delete_free mirrors.held free
    obtain ⟨words, refused⟩ := ServiceFailure.exists_ofAnswer_conditionFailed message
    rw [refused] at answered
    rw [LockTable.delete_of_find?_none found]
    exact ⟨after, by simp only [delete, answered], still, mirrors.sound⟩

/-- A lock is found in both tables or in none. -/
theorem get_agrees (keeps : KeepsItems store table.name holds) {state : σ} {memory : LockTable}
    (mirrors : Mirrors holds state memory) (lockId : String) :
    ∃ after, table.get store lockId state = (memory.get lockId, after) ∧
      Mirrors holds after memory := by
  obtain ⟨reply, after, answered, item, still⟩ := keeps.get lockId mirrors.held
  refine ⟨after, ?_, still, mirrors.sound⟩
  rw [Dictionary.find?_map] at item
  cases found : memory.find? lockId with
  | some lock =>
    have storable := (mirrors.sound _ (Entries.mem_of_find? found)).2
    rw [found] at item
    simp only [get, answered, item, Option.map_some, LockTable.get, found,
      Item.toLock_ofLock storable]
  | none =>
    rw [found] at item
    simp only [get, answered, item, Option.map_none, LockTable.get, found]

/-- Both tables list the same locks. -/
theorem list_agrees (keeps : KeepsItems store table.name holds) {state : σ} {memory : LockTable}
    (mirrors : Mirrors holds state memory) :
    ∃ locks after, table.list store state = (.ok locks, after) ∧ locks.Perm memory.list ∧
      Mirrors holds after memory := by
  obtain ⟨scanned, after, scans, same, still⟩ := keeps.scan mirrors.held
  rw [Dictionary.values_map] at same
  obtain ⟨locks, rfl, perm⟩ := exists_of_perm_map same
  have read := readPage_map fun lock member => mirrors.sound.storable (perm.mem_iff.mp member)
  exact ⟨locks, after, listFrom_of_scans scans (store.scan_ends ..) read, perm, still,
    mirrors.sound⟩

/-- The lock that a call creates has texts that are read back. -/
def Admits (call : TableCall) : Prop := ∀ lock, call = .create lock → lock.Storable

/-- A call is answered alike by both tables, and leaves them alike. -/
theorem perform_agrees (keeps : KeepsItems store table.name holds) {state : σ}
    {memory : LockTable} (mirrors : Mirrors holds state memory) {call : TableCall}
    (admits : Admits call) :
    call.Agree (table.perform store call state).1 (memory.perform call).1 ∧
      Mirrors holds (table.perform store call state).2 (memory.perform call).2 := by
  cases call with
  | create lock =>
    obtain ⟨after, same, still⟩ := create_agrees keeps mirrors (admits lock rfl)
    change (table.create store lock state).1 = _ ∧ Mirrors holds (table.create store lock state).2 _
    rw [same]
    exact ⟨rfl, still⟩
  | get lockId =>
    obtain ⟨after, same, still⟩ := get_agrees keeps mirrors lockId
    change (table.get store lockId state).1 = _ ∧ Mirrors holds (table.get store lockId state).2 _
    rw [same]
    exact ⟨rfl, still⟩
  | delete lockId =>
    obtain ⟨after, same, still⟩ := delete_agrees keeps mirrors lockId
    change (table.delete store lockId state).1 = _ ∧
      Mirrors holds (table.delete store lockId state).2 _
    rw [same]
    exact ⟨rfl, still⟩
  | contains lockId =>
    obtain ⟨after, same, still⟩ := get_agrees keeps mirrors lockId
    change TableCall.presence (table.get store lockId state).1 = _ ∧
      Mirrors holds (table.get store lockId state).2 _
    rw [same]
    exact ⟨rfl, still⟩
  | list =>
    obtain ⟨locks, after, same, perm, still⟩ := list_agrees keeps mirrors
    change TableCall.Agree .list (table.list store state).1 (.ok memory.list) ∧
      Mirrors holds (table.list store state).2 _
    rw [same]
    refine ⟨⟨memory.list, rfl, perm, fun ordered => ?_⟩, still⟩
    refine perm.eq_of_pairwise (fun first second _ _ before after => ?_) ordered
      mirrors.sound.pairwise_list
    exact absurd before (String.lt_asymm after)

end RemoteTable

/-- The results of a call by two tables. -/
structure Comparison where
  /-- The call. -/
  call : TableCall
  /-- The result of the remote table. -/
  remote : call.Result
  /-- The result of the table in memory. -/
  memory : call.Result

/-- What the remote table and the one in memory answer to the same calls. -/
def RemoteTable.compare {σ : Type} (table : RemoteTable) (store : ItemStore σ) :
    List TableCall → σ → LockTable → List Comparison
  | [], _, _ => []
  | call :: rest, state, memory =>
    let (far, after) := table.perform store call state
    let (near, next) := memory.perform call
    ⟨call, far, near⟩ :: compare table store rest after next

namespace RemoteTable

variable {σ : Type} {store : ItemStore σ} {table : RemoteTable}
  {holds : σ → Dictionary Item → Prop}

/-- Tables that are alike answer all calls alike. -/
theorem compare_agrees (keeps : KeepsItems store table.name holds) {calls : List TableCall}
    (admits : ∀ call ∈ calls, Admits call) {state : σ} {memory : LockTable}
    (mirrors : Mirrors holds state memory) :
    ∀ comparison ∈ table.compare store calls state memory,
      comparison.call.Agree comparison.remote comparison.memory := by
  induction calls generalizing state memory with
  | nil => exact fun _ member => absurd member List.not_mem_nil
  | cons call rest ih =>
    obtain ⟨agree, still⟩ := perform_agrees keeps mirrors (admits call (List.mem_cons_self ..))
    intro comparison member
    rcases List.mem_cons.mp member with rfl | later
    · exact agree
    · exact ih (fun other member => admits other (List.mem_cons_of_mem _ member)) still
        comparison later

/-- Over a store that keeps its items, an empty remote table answers all calls like an empty one in
memory. -/
theorem remote_refines (table : RemoteTable) (store : ItemStore σ)
    (holds : σ → Dictionary Item → Prop) (keeps : KeepsItems store table.name holds) (state : σ)
    (empty : holds state .empty) (calls : List TableCall)
    (storable : ∀ lock, .create lock ∈ calls → lock.Storable) :
    ∀ comparison ∈ table.compare store calls state .empty,
      comparison.call.Agree comparison.remote comparison.memory := by
  refine compare_agrees keeps (fun call member lock same => ?_) ⟨empty, LockTable.sound_empty⟩
  subst same
  exact storable lock member

end RemoteTable

/-! ### Pages of single items

A store that reads the items one a page, from the last one to the first. It keeps nothing of a scan
in mind: a page starts from the key that comes with the scan, and leaves the items as they are.
-/

namespace SinglePages

/-- The reply to a call that nothing was asked for. -/
def done : ItemReply := ⟨none, [], none⟩

/-- A conditional write is refused. -/
def refused : ServiceFailure :=
  .ofAnswer (some ServiceFailure.conditionFailedCode) (some "The conditional request failed")

/-- The id in an item or a key. -/
def idOf (item : Item) : String := (item.text? Lock.keyName).getD ""

/-- What is ahead of a scan: the entries before its key, or all of them, from the last one on. -/
def ahead (items : Dictionary Item) (start : Option Item) : Entries Item :=
  items.entries.reverse.filter fun entry => start.all fun key => entry.1 < idOf key

/-- The page of the next entry, with its key. The page after the last one is empty. -/
def page : Entries Item → ItemReply
  | [] => done
  | (id, item) :: _ => ⟨none, [item], some (.key id)⟩

/-- Answer a call. -/
def answer : ItemCall → Dictionary Item → Except ServiceFailure ItemReply × Dictionary Item
  | .create _ item, items =>
    match items.find? (idOf item) with
    | some _ => (.error refused, items)
    | none => (.ok done, items.insert (idOf item) item)
  | .get _ key, items => (.ok { done with item := items.find? (idOf key) }, items)
  | .delete _ key, items =>
    match items.find? (idOf key) with
    | some _ => (.ok done, items.erase (idOf key))
    | none => (.error refused, items)
  | .scan _ start, items => (.ok (page (ahead items start)), items)

/-- From an id that a scan has not come to yet, those entries are ahead that come before the id. -/
theorem ahead_eq_filter {items : Dictionary Item} {start : Option Item} {id : String}
    (within : start.all (fun key => id < idOf key) = true) :
    ahead items (some (.key id)) = (ahead items start).filter fun entry => entry.1 < id := by
  unfold ahead
  rw [List.filter_filter]
  refine List.filter_congr fun entry _ => ?_
  change decide (entry.1 < id) = (decide (entry.1 < id) && _)
  by_cases before : entry.1 < id
  · rw [decide_eq_true before, Bool.true_and]
    cases start with
    | none => rfl
    | some key =>
      have early : id < idOf key := of_decide_eq_true within
      exact (decide_eq_true (String.lt_trans before early)).symm
  · rw [decide_eq_false before, Bool.false_and]

/-- After a page, what was ahead is still ahead, but for the entry of the page. -/
theorem ahead_key {items : Dictionary Item} {start : Option Item} {id : String} {item : Item}
    {rest : Entries Item} (left : ahead items start = (id, item) :: rest) :
    ahead items (some (.key id)) = rest := by
  have falling : (ahead items start).Pairwise fun first second => second.1 < first.1 :=
    (List.pairwise_reverse.mpr items.ascending).filter _
  rw [left] at falling
  have below : ∀ entry ∈ rest, entry.1 < id := (List.pairwise_cons.mp falling).1
  have member : (id, item) ∈ ahead items start := left ▸ List.mem_cons_self
  have own : ¬ decide (id < id) = true := fun same => String.lt_irrefl id (of_decide_eq_true same)
  calc
    ahead items (some (.key id)) = (ahead items start).filter fun entry => entry.1 < id :=
      ahead_eq_filter (List.mem_filter.mp member).2
    _ = rest.filter fun entry => entry.1 < id := by
      rw [left]
      exact List.filter_cons_of_neg own
    _ = rest := List.filter_eq_self.mpr fun entry member => decide_eq_true (below entry member)

/-- The store of the items. -/
def store : ItemStore (Dictionary Item) where
  call := answer
  scan_ends := by
    intro table items
    refine ScanPlace.acc_of_lt (fun place => (ahead place.state place.start).length) ?_ _
    rintro ⟨_, after⟩ ⟨start, items⟩ ⟨reply, key, answered, next, rfl⟩
    obtain ⟨same, rfl⟩ := Prod.mk.inj answered
    obtain rfl : page (ahead items start) = reply := Except.ok.inj same
    change (ahead items (some key)).length < (ahead items start).length
    cases left : ahead items start with
    | nil =>
      rw [left] at next
      cases next
    | cons entry rest =>
      rw [left] at next
      cases next
      rw [ahead_key left]
      exact Nat.lt_succ_self _

/-- The store holds the items that it has. -/
def Holds (state items : Dictionary Item) : Prop := state = items

/-- A scan only reads, and reads one item a page at the most. -/
theorem call_scan (name : String) (start : Option Item) (items : Dictionary Item) :
    ∃ reply, store.call (.scan name start) items = (.ok reply, items) ∧ reply.page.length ≤ 1 := by
  refine ⟨page (ahead items start), rfl, ?_⟩
  cases ahead items start with
  | nil => exact Nat.zero_le 1
  | cons entry rest => exact Nat.le_refl 1

/-- From any key on, a scan gives what is ahead of it. -/
theorem scans_ahead (name : String) (items : Dictionary Item) (start : Option Item) :
    Scans store name start items ((ahead items start).map (·.2)) items := by
  have read (entries : Entries Item) {start : Option Item} (left : ahead items start = entries) :
      store.call (.scan name start) items = (.ok (page entries), items) :=
    left ▸ rfl
  generalize left : ahead items start = entries
  induction entries generalizing start with
  | nil => exact .last (read [] left) rfl
  | cons entry rest ih => exact .more (read (entry :: rest) left) rfl (ih _ (ahead_key left))

/-- The store keeps its items. -/
theorem keepsItems (name : String) : KeepsItems store name Holds where
  create_free := by
    rintro items _ item lockId rfl own free
    refine ⟨done, _, ?_, rfl⟩
    have same : idOf item = lockId := congrArg (·.getD "") own
    change answer (.create name item) _ = _
    simp only [answer, same, free]
  create_held := by
    rintro items _ item lockId held rfl own taken
    refine ⟨some "The conditional request failed", _, ?_, rfl⟩
    have same : idOf item = lockId := congrArg (·.getD "") own
    change answer (.create name item) _ = _
    simp only [answer, same, taken]
    rfl
  get := by
    rintro items _ lockId rfl
    exact ⟨_, _, rfl, rfl, rfl⟩
  delete_held := by
    rintro items _ lockId held rfl taken
    refine ⟨done, _, ?_, rfl⟩
    have same : idOf (.key lockId) = lockId := rfl
    change answer (.delete name (.key lockId)) _ = _
    simp only [answer, same, taken]
  delete_free := by
    rintro items _ lockId rfl free
    refine ⟨some "The conditional request failed", _, ?_, rfl⟩
    have same : idOf (.key lockId) = lockId := rfl
    change answer (.delete name (.key lockId)) _ = _
    simp only [answer, same, free]
    rfl
  scan := by
    rintro items _ rfl
    refine ⟨_, _, scans_ahead name _ none, ?_, rfl⟩
    have whole : ahead items none = items.entries.reverse := List.filter_eq_self.mpr fun _ _ => rfl
    rw [whole, List.map_reverse]
    exact List.reverse_perm _

end SinglePages

/-- Data of every kind that is stored. -/
def sampleData : JsonObject :=
  .ofMembers [("reason", .string "resize\n"), ("steps", .array [.ofInt (-1), .null, .bool true])]

/-- A lock with an id and these data. -/
def sampleLock (id : String) : Lock := ⟨id, .dataset, .epoch, sampleData, "request"⟩

/-- A sample lock has a text that is read back. -/
theorem storable_sampleLock (id : String) : (sampleLock id).Storable := by
  have inYears : 0 ≤ (Date.ofNumber (Instant.epoch.seconds / 86400)).year ∧
    (Date.ofNumber (Instant.epoch.seconds / 86400)).year ≤ 9999 := by decide
  have integral : sampleData.toJson.isIntegral = true := by decide
  have shallow : sampleData.toJson.nesting ≤ JsonReader.depthLimit := by decide
  exact ⟨inYears, integral, shallow⟩

/-- Calls that create two locks, one of them twice, list them, and delete one of them twice. -/
def sampleCalls : List TableCall :=
  [.list, .create (sampleLock "b"), .create (sampleLock "a"), .create (sampleLock "b"), .list,
    .contains "a", .get "b", .delete "a", .delete "a", .contains "a", .list]

namespace RemoteTable

/-- A table over pages of single items, which a scan only reads, answers like one in memory. -/
theorem remote_refines_paged :
    let table : RemoteTable := ⟨"locks", none⟩
    let store := SinglePages.store
    (∀ start items, ∃ reply, store.call (.scan table.name start) items = (.ok reply, items) ∧
        reply.page.length ≤ 1) ∧
      KeepsItems store table.name SinglePages.Holds ∧ SinglePages.Holds .empty .empty ∧
        (∀ lock, .create lock ∈ sampleCalls → lock.Storable) ∧
          (∀ comparison ∈ table.compare store sampleCalls .empty .empty,
            comparison.call.Agree comparison.remote comparison.memory) ∧
            (table.compare store sampleCalls .empty .empty).length = 11 := by
  intro table store
  have keeps := SinglePages.keepsItems table.name
  have storable : ∀ lock, .create lock ∈ sampleCalls → lock.Storable := by
    intro lock member
    simp only [sampleCalls, List.mem_cons, TableCall.create.injEq, List.not_mem_nil, or_false,
      reduceCtorEq, false_or] at member
    rcases member with rfl | rfl | rfl <;> exact storable_sampleLock _
  have agree :=
    remote_refines table store SinglePages.Holds keeps .empty rfl sampleCalls storable
  exact ⟨SinglePages.call_scan table.name, keeps, rfl, storable, agree, rfl⟩

end RemoteTable

end ControlPlane
