/-
The archive in memory.

Messages stand in storing order and are never removed. Rows stand in the
order in which they were made, and a row is found by its owner key. Each
operation takes the time at which it happens.
-/
import Parley.Archive

namespace Parley

open Time (Instant)

/-- Messages, rows and the numbers given out so far. -/
structure Store where
  messages : List Message := []
  rows : List Conversation := []
  /-- The number of messages stored in each conversation. -/
  counters : List (String × Int) := []
  lastMessage : Int := 0
  lastRow : Int := 0
deriving Repr

namespace Store

def empty : Store := {}

/-- A count as a row holds it: 32 bits with a sign. -/
def wrapCount (n : Int) : Int := Int.bmod n 0x100000000

/-! ## Looking up -/

def message? (s : Store) (id : Int) : Option Message := s.messages.find? fun m => m.id == id

def row? (s : Store) (key : String) : Option Conversation := s.rows.find? fun r => r.ownerKey == key

/-- The number of messages stored in a conversation. -/
def counter (s : Store) (conversation : String) : Int :=
  ((s.counters.find? fun c => c.1 == conversation).map (·.2)).getD 0

/-- The unread messages of a conversation to a user. -/
def unreadOf (s : Store) (conversation : String) (user : UserId) : List Message :=
  s.messages.filter fun m =>
    m.conversation == conversation && m.recipient == user && m.status.isUnread

/-- The messages of a conversation that are not deleted, the latest first. -/
def latest (s : Store) (conversation : String) : List Message :=
  s.messages.reverse.filter fun m => m.conversation == conversation && m.status != .deleted

/-! ## Changing parts -/

/-- Changes the rows of a key. -/
def updateRow (s : Store) (key : String) (f : Conversation → Conversation) : Store :=
  { s with rows := s.rows.map fun r => if r.ownerKey == key then f r else r }

/-- Changes the message of an id. -/
def updateMessage (s : Store) (id : Int) (f : Message → Message) : Store :=
  { s with messages := s.messages.map fun m => if m.id == id then f m else m }

/-- Adds one to the counter of a conversation. -/
def bump (conversation : String) : List (String × Int) → List (String × Int)
  | [] => [(conversation, 1)]
  | (name, n) :: rest =>
    if name = conversation then (name, n + 1) :: rest else (name, n) :: bump conversation rest

/-- Makes the row of an owner, if it is missing. -/
def ensureRow (s : Store) (owner peer : UserId) (conversation : String) (now : Instant) : Store :=
  let key := Pair.ownerKey owner peer
  match s.row? key with
  | some _ => s
  | none =>
    let row : Conversation :=
      { id := s.lastRow + 1, ownerKey := key, owner := owner, peer := peer,
        conversation := conversation, lastId := none, lastContent := none, lastTime := none,
        unread := 0, isTop := false, isMute := false, createdAt := now, updatedAt := now }
    { s with rows := s.rows ++ [row], lastRow := s.lastRow + 1 }

/-- Counts the unread messages of an owner's row again. -/
def recountUnread (s : Store) (conversation : String) (owner peer : UserId) : Store :=
  let unread := wrapCount (s.unreadOf conversation owner).length
  s.updateRow (Pair.ownerKey owner peer) fun r => { r with unread := unread }

/-- Points the rows that show a retired message at the latest one left. -/
def repointRows (s : Store) (conversation : String) (retired : Int) : Store :=
  let last := (s.latest conversation).head?.map (·.asLast)
  { s with
    rows := s.rows.map fun r =>
      if r.conversation == conversation && r.lastId == some retired then r.pointAt last else r }

/-! ## Operations -/

/-- Stores a message. -/
def add (s : Store) (draft : Draft) (now : Instant) : Message × Store :=
  let conversation := draft.conversation
  let s := s.ensureRow draft.sender draft.recipient conversation now
  let s := s.ensureRow draft.recipient draft.sender conversation now
  let counters := bump conversation s.counters
  let m : Message :=
    { id := s.lastMessage + 1, sender := draft.sender, recipient := draft.recipient,
      conversation := conversation, kind := draft.kind, content := draft.content,
      extra := draft.extra, status := .sent, seq := s.counter conversation + 1, createdAt := now,
      updatedAt := now }
  let s := { s with messages := s.messages ++ [m], counters := counters, lastMessage := m.id }
  let show_ (r : Conversation) : Conversation :=
    { r with
      lastId := some m.id, lastContent := some m.content, lastTime := some m.createdAt,
      updatedAt := now }
  let senderKey := Pair.ownerKey draft.sender draft.recipient
  let recipientKey := Pair.ownerKey draft.recipient draft.sender
  let s := (s.updateRow senderKey show_).updateRow recipientKey show_
  (m, s.updateRow recipientKey fun r => { r with unread := wrapCount (r.unread + 1) })

/-- Moves a message from one status to another, if it has the first. -/
def transition (s : Store) (id : Int) (old new : Status) (now : Instant) : Bool × Store :=
  match s.message? id with
  | some m =>
    if m.status = old then
      (true, s.updateMessage id fun m => { m with status := new, updatedAt := now })
    else (false, s)
  | none => (false, s)

/-- Retires a message. -/
def retire (s : Store) (id : Int) (expected target : Status) (now : Instant) : Retirement × Store :=
  match s.message? id with
  | none => (.missing, s)
  | some m =>
    if m.status = expected then
      let retired := { m with status := target, updatedAt := now }
      let s := s.updateMessage id fun _ => retired
      let s := s.repointRows m.conversation id
      let s := if expected.isUnread then s.recountUnread m.conversation m.recipient m.sender else s
      (.applied retired, s)
    else (.stale m, s)

/-- Whether marking as read reaches a message. -/
def reachedBy (reader : UserId) (conversation : String) (upTo : Option Int) (m : Message) : Bool :=
  m.conversation == conversation && m.recipient == reader && m.status.isUnread
    && upTo.all fun bound => m.id ≤ bound

/-- Marks messages to a reader as read. -/
def markRead (s : Store) (reader : UserId) (conversation : String) (upTo : Option Int)
    (now : Instant) : Except Failure Nat × Store :=
  match Pair.counterpart? conversation reader with
  | none => (.error .notParticipant, s)
  | some peer =>
    let reached := reachedBy reader conversation upTo
    let count := (s.messages.filter reached).length
    let messages := s.messages.map fun m =>
      if reached m then { m with status := .read, updatedAt := now } else m
    (.ok count, { s with messages := messages }.recountUnread conversation reader peer)

/-- A page of the messages that are not deleted, the latest first. -/
def history (s : Store) (conversation : String) (before : Option Int) (limit : Int) :
    List Message :=
  ((s.latest conversation).filter fun m => before.all fun bound => m.id < bound).take limit.toNat

/-- Whether a row comes before another: the later change first, then the
higher id. -/
def rowBefore (a b : Conversation) : Bool :=
  b.updatedAt.before a.updatedAt || (a.updatedAt = b.updatedAt && b.id ≤ a.id)

/-- The rows of a user in order. -/
def rowsOf (s : Store) (user : UserId) : List Conversation :=
  (s.rows.filter fun r => r.owner == user).mergeSort rowBefore

/-- A page of the rows of a user, and their number. -/
def page (s : Store) (user : UserId) (offset limit : Int) : List Conversation × Int :=
  let rows := s.rowsOf user
  ((rows.drop offset.toNat).take limit.toNat, rows.length)

/-- The unread count of one conversation of a user or of all. -/
def unread (s : Store) (user : UserId) (conversation : Option String) : Int :=
  ((s.rows.filter fun r => r.owner == user && conversation.all fun c => r.conversation == c).map
    (·.unread)).foldr (· + ·) 0

/-! ## As an archive -/

/-- Answers a question of the archive at a time. -/
def answer (now : Instant) : (q : Archive.Ask) → Store → Archive.signature.Reply q × Store
  | .store draft, s => let (m, s) := s.add draft now; (.ok m, s)
  | .find id, s => (.ok (s.message? id), s)
  | .transition id old new, s => let (moved, s) := s.transition id old new now; (.ok moved, s)
  | .retire id expected target, s => let (r, s) := s.retire id expected target now; (.ok r, s)
  | .markRead reader conversation upTo, s => s.markRead reader conversation upTo now
  | .history conversation before limit, s => (.ok (s.history conversation before limit), s)
  | .rows user offset limit, s => (.ok (s.page user offset limit), s)
  | .row owner peer, s => (.ok (s.row? (Pair.ownerKey owner peer)), s)
  | .unread user conversation, s => (.ok (s.unread user conversation), s)

end Store
end Parley
