import ControlPlane.Proofs.Lock.Codec
import ControlPlane.Proofs.Lock.Refinement
import ControlPlane.Rehearsal.Guard

/-!
# Listing page after page

Whatever a remote store answers to the scans of a listing, each scan starts from the key that came
with the page before, and there is one for each answer that is taken (`listing_exact`). The listing
ends with the first answer after which there is nothing to go on from: a page without a key, a
failure, or a page with an item that is no lock. Up to there every item of every page is read, once
and in order.

Each answer either ends the listing or is a page that another one follows, and what is listed before
a page goes before all that comes after it (`Lists.page`). The whole listing is an induction on the
answers (`listFrom_scripted`).
-/
namespace ControlPlane

/-- An answer to a scan. -/
inductive ScanAnswer where
  /-- A page of items, which may come with the key that it ends at. -/
  | page (items : List Item) (lastKey : Option Item)
  /-- The service answers with an error. -/
  | refused (code message : Option String)
  /-- There is no answer. -/
  | lost (fault : TransportFault)
  /-- The answer makes no sense. -/
  | garbled

/-- An answer as a table gets it, with failures sorted. -/
def ScanAnswer.outcome : ScanAnswer → Except ServiceFailure ItemReply
  | page items lastKey => .ok ⟨none, items, lastKey⟩
  | refused code message => .error (.ofAnswer code message)
  | lost fault => .error (.unanswered fault)
  | garbled => .error .garbled

/-- A page that another one follows. -/
structure ScanPage where
  /-- The items of the page. -/
  items : List Item
  /-- The next page starts from here. -/
  key : Item
  /-- An empty key would lead nowhere. -/
  key_ne_nil : key.entries ≠ []

/-- The page as an answer. -/
def ScanPage.answer (page : ScanPage) : ScanAnswer := .page page.items (some page.key)

namespace Item

/-- Items are read as locks, one by one. -/
def ReadAs (items : List Item) (locks : List Lock) : Prop :=
  List.Forall₂ (fun item lock => item.toLock = .ok lock) items locks

end Item

namespace RemoteTable

variable {items : List Item} {locks : List Lock}

/-- A page is read if each of its items is. -/
theorem readPage_eq_ok_iff : readPage items = .ok locks ↔ Item.ReadAs items locks := by
  induction items generalizing locks with
  | nil => simp [readPage, Item.ReadAs, eq_comm]
  | cons item rest ih =>
    rw [Item.ReadAs, List.forall₂_cons_left_iff]
    constructor
    · intro read
      cases own : item.toLock with
      | error error => simp [readPage, own, bind, Except.bind] at read
      | ok lock =>
        cases others : readPage rest with
        | error error => simp [readPage, own, others, bind, Except.bind] at read
        | ok found =>
          simp only [readPage, own, others, ok_bind] at read
          cases read
          exact ⟨lock, found, rfl, ih.mp others, rfl⟩
    · rintro ⟨lock, found, own, others, rfl⟩
      simp only [readPage, own, ih.mpr others, ok_bind]
      rfl

/-- A page that is not read has a first item that is no lock. -/
theorem exists_of_readPage_eq_error {error : LockTableError} (unread : readPage items = .error error) :
    ∃ front item back read, items = front ++ item :: back ∧ Item.ReadAs front read ∧
      item.toLock = .error error := by
  induction items with
  | nil => cases unread
  | cons item rest ih =>
    cases own : item.toLock with
    | error failure =>
      simp only [readPage, own, bind, Except.bind, Except.error.injEq] at unread
      subst unread
      exact ⟨[], item, rest, [], rfl, .nil, own⟩
    | ok lock =>
      cases others : readPage rest with
      | error failure =>
        simp only [readPage, own, others, bind, Except.bind, Except.error.injEq] at unread
        subst unread
        obtain ⟨front, bad, back, read, rfl, before, failed⟩ := ih others
        exact ⟨item :: front, bad, back, lock :: read, rfl, .cons own before, failed⟩
      | ok found =>
        simp only [readPage, own, others, ok_bind] at unread
        cases unread

/-- What a listing makes of the answer that it ends with, after the locks of the pages before. -/
inductive Concludes (locks : List Lock) :
    ScanAnswer → Except LockTableError (List Lock) → Prop where
  /-- The last page comes without a key, or with an empty one. -/
  | complete {items : List Item} {lastKey : Option Item} {more : List Lock}
      (read : Item.ReadAs items more) (ended : ∀ key, lastKey = some key → key.entries = []) :
      Concludes locks (.page items lastKey) (.ok (locks ++ more))
  /-- There is no page. -/
  | failed {answer : ScanAnswer} {failure : ServiceFailure}
      (failing : answer.outcome = .error failure) :
      Concludes locks answer (.error (.store failure))
  /-- An item is no lock, and those before it are. -/
  | corrupt {front back : List Item} {item : Item} {read : List Lock} {lastKey : Option Item}
      {lockId reason : String} (before : Item.ReadAs front read)
      (unread : item.toLock = .error (.corrupt lockId reason)) :
      Concludes locks (.page (front ++ item :: back) lastKey) (.error (.corrupt lockId reason))

/-- How a listing ends with the answers that are left after some pages: with the first one of them,
or, if there are none, for want of an answer. -/
inductive Ends (locks : List Lock) :
    List ScanAnswer → List ScanAnswer → Except LockTableError (List Lock) → Prop where
  /-- The first of the answers ends the listing. -/
  | answered {last : ScanAnswer} {rest : List ScanAnswer}
      {result : Except LockTableError (List Lock)} (concludes : Concludes locks last result) :
      Ends locks (last :: rest) rest result
  /-- There is no answer left. -/
  | unanswered : Ends locks [] [] (.error (.store .unreachable))

/-- The scans of some pages and of what comes after them, each from the key of the page before. -/
def scans (name : String) (start : Option Item) (pages : List ScanPage) : List ItemCall :=
  (start :: pages.map fun page => some page.key).map (.scan name)

/-- What a listing sends and gives, if its scans are answered in order. -/
structure Lists (name : String) (start : Option Item) (answers : List ScanAnswer)
    (pages : List ScanPage) (locks : List Lock) (sent : List ItemCall) (rest : List ScanAnswer)
    (result : Except LockTableError (List Lock)) : Prop where
  /-- The first answers are pages that are read and that others follow, and one more is the end. -/
  answers : ∃ left, answers = pages.map ScanPage.answer ++ left ∧ Ends locks left rest result
  /-- Every item of these pages is read, once and in order. -/
  read : Item.ReadAs (pages.flatMap (·.items)) locks
  /-- The scans are those of these pages and of the end. -/
  sent : sent = scans name start pages

/-- Locks that were listed before come first. -/
theorem Concludes.prepend {answer : ScanAnswer} {result : Except LockTableError (List Lock)}
    (concludes : Concludes locks answer result) (front : List Lock) :
    Concludes (front ++ locks) answer (result.map (front ++ ·)) := by
  cases concludes with
  | complete read ended =>
    rw [Except.map, ← List.append_assoc]
    exact .complete read ended
  | failed failing => exact .failed failing
  | corrupt before unread => exact .corrupt before unread

/-- Locks that were listed before come first, however a listing ends. -/
theorem Ends.prepend {left rest : List ScanAnswer} {result : Except LockTableError (List Lock)}
    (ends : Ends locks left rest result) (front : List Lock) :
    Ends (front ++ locks) left rest (result.map (front ++ ·)) := by
  cases ends with
  | answered concludes => exact .answered (concludes.prepend front)
  | unanswered => exact .unanswered

/-- A page that is read comes before the others. -/
theorem Lists.page {name : String} {start : Option Item} {answers rest : List ScanAnswer}
    {page : ScanPage} {pages : List ScanPage} {front : List Lock} {sent : List ItemCall}
    {result : Except LockTableError (List Lock)} (own : Item.ReadAs page.items front)
    (later : Lists name (some page.key) answers pages locks sent rest result) :
    Lists name start (page.answer :: answers) (page :: pages) (front ++ locks)
      (.scan name start :: sent) rest (result.map (front ++ ·)) where
  answers := by
    obtain ⟨left, split, ends⟩ := later.answers
    exact ⟨left, congrArg (List.cons _) split, ends.prepend front⟩
  read := List.rel_append own later.read
  sent := congrArg (List.cons _) later.sent

end RemoteTable

namespace ItemReply

variable {reply : ItemReply}

/-- There is nothing to go on from without a key, or with an empty one. -/
theorem next?_eq_none_iff :
    reply.next? = none ↔ ∀ key, reply.lastKey = some key → key.entries = [] := by
  simp [next?, Option.filter_eq_none_iff]

/-- What there is to go on from is the key, and it is not empty. -/
theorem next?_eq_some_iff {key : Item} :
    reply.next? = some key ↔ reply.lastKey = some key ∧ key.entries ≠ [] := by
  simp [next?, Option.filter_eq_some_iff]

end ItemReply

namespace Rehearsal.GuardStage

variable {ν : Type}

/-- A stage whose store gives some answers to the next scans, after it got some calls. -/
def scripted (stage : GuardStage ν) (answers : List ScanAnswer) (sent : List ItemCall) :
    GuardStage ν :=
  { stage with script := answers.map ScanAnswer.outcome, calls := stage.calls ++ sent }

/-- A call takes the next answer. -/
theorem callStore_scripted (stage : GuardStage ν) (answer : ScanAnswer) (rest : List ScanAnswer)
    (sent : List ItemCall) (call : ItemCall) :
    store.call call (stage.scripted (answer :: rest) sent) =
      (answer.outcome, stage.scripted rest (sent ++ [call])) := by
  rw [scripted, scripted, ← List.append_assoc]
  rfl

/-- A call without an answer that is left does not reach the store. -/
theorem callStore_scripted_nil (stage : GuardStage ν) (sent : List ItemCall) (call : ItemCall) :
    store.call call (stage.scripted [] sent) =
      (.error .unreachable, stage.scripted [] (sent ++ [call])) := by
  rw [scripted, scripted, ← List.append_assoc]
  rfl

end Rehearsal.GuardStage

namespace RemoteTable

open Rehearsal

variable {ν : Type}

/-- From any key on, and after any calls, a listing goes through the answers. -/
theorem listFrom_scripted (table : RemoteTable) (stage : GuardStage ν) (answers : List ScanAnswer)
    (start : Option Item) (before : List ItemCall)
    (ends : GuardStage.store.ScanEnds table.name start (stage.scripted answers before)) :
    ∃ pages locks sent rest result,
      table.listFrom GuardStage.store start (stage.scripted answers before) ends =
          (result, stage.scripted rest (before ++ sent)) ∧
        Lists table.name start answers pages locks sent rest result := by
  induction answers generalizing start before with
  | nil =>
    refine ⟨[], [], [.scan table.name start], [], .error (.store .unreachable), ?_, ?_⟩
    · exact listFrom_of_error ends (GuardStage.callStore_scripted_nil ..)
    · exact ⟨⟨[], rfl, .unanswered⟩, .nil, rfl⟩
  | cons answer rest ih =>
    have call := GuardStage.callStore_scripted stage answer rest before (.scan table.name start)
    -- However the answer ends the listing, no other scan is sent.
    have stops {result : Except LockTableError (List Lock)} (concludes : Concludes [] answer result) :
        Lists table.name start (answer :: rest) [] [] [.scan table.name start] rest result :=
      ⟨⟨answer :: rest, rfl, .answered concludes⟩, .nil, rfl⟩
    have fails {failure : ServiceFailure} (failing : answer.outcome = .error failure) :
        ∃ pages locks sent left result,
          table.listFrom GuardStage.store start (stage.scripted (answer :: rest) before) ends =
              (result, stage.scripted left (before ++ sent)) ∧
            Lists table.name start (answer :: rest) pages locks sent left result := by
      rw [failing] at call
      exact ⟨[], [], _, rest, _, listFrom_of_error ends call, stops (.failed failing)⟩
    cases answer with
    | refused code message => exact fails rfl
    | lost fault => exact fails rfl
    | garbled => exact fails rfl
    | page items lastKey =>
      cases read : readPage items with
      | error error =>
        obtain ⟨front, item, back, locks, rfl, own, unread⟩ := exists_of_readPage_eq_error read
        obtain ⟨lockId, reason, rfl⟩ := item.onlyCorrupt_toLock error unread
        exact ⟨[], [], _, rest, _, listFrom_of_unread ends call read, stops (.corrupt own unread)⟩
      | ok locks =>
        have own : Item.ReadAs items locks := readPage_eq_ok_iff.mp read
        cases next : (⟨none, items, lastKey⟩ : ItemReply).next? with
        | none =>
          have ended := ItemReply.next?_eq_none_iff.mp next
          exact ⟨[], [], _, rest, _, listFrom_of_last ends call read next,
            stops (.complete own ended)⟩
        | some key =>
          obtain ⟨last, filled⟩ := ItemReply.next?_eq_some_iff.mp next
          obtain rfl : lastKey = some key := last
          have further : GuardStage.store.ScanEnds table.name (some key)
              (stage.scripted rest (before ++ [.scan table.name start])) :=
            ends.inv ⟨_, key, call, next, rfl⟩
          obtain ⟨pages, others, sent, left, result, listed, lists⟩ := ih (some key) _ further
          let page : ScanPage := ⟨items, key, filled⟩
          have whole : Lists table.name start (page.answer :: rest) (page :: pages)
              (locks ++ others) (.scan table.name start :: sent) left
              (result.map (locks ++ ·)) := Lists.page own lists
          refine ⟨_, _, _, _, _, ?_, whole⟩
          rw [listFrom_of_next ends call read next further, listed, List.append_assoc]
          rfl

/-- A scan asks for what is there now. -/
theorem consistent_of_mem_scans {name : String} {start : Option Item} {pages : List ScanPage}
    {call : ItemCall} (sent : call ∈ scans name start pages) :
    ∃ members, call.toJson = .object members ∧ ("ConsistentRead", .bool true) ∈ members := by
  obtain ⟨from?, -, rfl⟩ := List.mem_map.mp sent
  exact ⟨_, rfl, List.mem_cons_self⟩

/-- A listing of a remote table loses no item and repeats none, whatever the store answers. It sends
one scan for each answer that it takes, each of them from the key of the page before and each of them
consistent, and it takes no answer after the one that it ends with. -/
theorem listing_exact (table : RemoteTable) (stage : GuardStage ν) (answers : List ScanAnswer) :
    ∃ pages locks sent rest result,
      table.list GuardStage.store (stage.scripted answers []) = (result, stage.scripted rest sent) ∧
        Lists table.name none answers pages locks sent rest result ∧
        ∀ call ∈ sent, ∃ members, call.toJson = .object members ∧
          ("ConsistentRead", .bool true) ∈ members := by
  obtain ⟨pages, locks, sent, rest, result, listed, lists⟩ :=
    table.listFrom_scripted stage answers none [] (GuardStage.store.scan_ends ..)
  refine ⟨pages, locks, sent, rest, result, listed, lists, ?_⟩
  intro call member
  rw [lists.sent] at member
  exact consistent_of_mem_scans member

end RemoteTable

end ControlPlane
