/-
Sending messages and moving them through their lifecycle.

A message is checked, stored and then offered to the recipient's sessions;
delivery never fails a send. Recalling and deleting compare the status
with the one that was seen: when it has moved, the message is checked
again, at most three times in all.
-/
import Parley.Settings
import Parley.Surroundings

namespace Parley

open Text (IntRange)
open Time (Instant)

/-- A request to send a message. -/
structure SendRequest where
  sender : UserId
  recipient : UserId
  kind : Int
  content : String
  extra : Option String
deriving DecidableEq, Repr

namespace SendRequest

def fields : List String := ["from_user_id", "to_user_id", "message_type", "content", "extra"]

/-- How a request is read. -/
def form : Json.Form SendRequest := ⟨fields, fun r => do
  let sender ← r.required "from_user_id" Json.int64?
  let recipient ← r.required "to_user_id" Json.int64?
  let kind ← r.required "message_type" (Json.int? .int16)
  let content ← r.required "content" Json.str?
  let extra ← r.defaulted "extra" none (Json.Record.orNull Json.str?)
  pure ⟨sender, recipient, kind, content, extra⟩⟩

/-- Checks a request: the users, the kind, and the content, in this order. -/
def check (settings : MessageSettings) (r : SendRequest) : Except Failure Draft :=
  if r.sender ≤ 0 then .error (.invalidUserId r.sender)
  else if r.recipient ≤ 0 then .error (.invalidUserId r.recipient)
  else match MessageKind.ofInt? r.kind with
    | none => .error (.invalidMessageKind r.kind)
    | some kind =>
      if Text.blank r.content then .error .emptyContent
      else if settings.greatestContent < r.content.utf8ByteSize then
        .error (.contentTooLong settings.greatestContent)
      else .ok ⟨r.sender, r.recipient, kind, r.content, r.extra.filter (· ≠ "")⟩

end SendRequest

namespace Messaging

/-! ## Sending -/

/-- How often storing is tried. -/
def storeAttempts : Nat := 3

/-- Stores a message, again after a conflict while attempts are left. -/
def storeRetrying (draft : Draft) : Nat → Action Message
  | 0 => Action.archive (.store draft)
  | more + 1 => do
    match ← Action.tryArchive (.store draft) with
    | .ok m => pure m
    | .error f => if f.retryable then storeRetrying draft more else throw f

/-- Offers a stored message to its recipient, and notes that it arrived. -/
def deliver (m : Message) : Action Message := do
  if ← Action.offer m.recipient ⟨EventKind.newMessage, m.toJson⟩ then
    match ← Action.tryArchive (.transition m.id .sent .delivered) with
    | .ok true => pure { m with status := .delivered }
    | _ => pure m
  else pure m

/-- Sends a message. -/
def send (settings : MessageSettings) (request : SendRequest) : Action Message := do
  let draft ← Action.ofExcept (request.check settings)
  if ← Action.areFriends draft.sender draft.recipient then
    let m ← storeRetrying draft (storeAttempts - 1)
    deliver m
  else throw .notFriends

/-! ## Reading -/

/-- The other user of a conversation. -/
def counterpart (conversation : String) (user : UserId) : Except Failure UserId :=
  match Pair.ofId? conversation with
  | none => .error (.badRequest ("invalid conversation_id: " ++ conversation))
  | some _ =>
    match Pair.counterpart? conversation user with
    | some other => .ok other
    | none => .error .notParticipant

/-- Fails for a user who takes no part in a conversation. -/
def participating (conversation : String) (user : UserId) : Action Unit := do
  let _ ← Action.ofExcept (counterpart conversation user)

/-- A positive number, or none. -/
def positive? (n : Option Int) : Option Int := n.filter (0 < ·)

/-- The number of messages on a page. -/
def historyLimit (limit : Option Int) : Int := ((positive? limit).map (min · 100)).getD 20

/-- A page of the messages before one, oldest first. -/
def history (viewer : UserId) (conversation : String) (before limit : Option Int) :
    Action HistoryPage := do
  participating conversation viewer
  let limit := historyLimit limit
  let found ← Action.archive (.history conversation (positive? before) (limit + 1))
  pure ⟨((found.take limit.toNat).reverse).map Message.masked, limit < found.length⟩

/-- Marks messages to a reader as read: how many they were. -/
def markRead (reader : UserId) (conversation : String) (upTo : Option Int) : Action Nat := do
  participating conversation reader
  Action.archive (.markRead reader conversation (positive? upTo))

/-- The unread messages of one conversation, or of all. -/
def unread (user : UserId) (conversation : Option String) : Action Int := do
  let conversation := conversation.filter (· ≠ "")
  match conversation with
  | some c => participating c user
  | none => pure ()
  Action.archive (.unread user conversation)

/-- Whether two users have a conversation with each other. -/
def sharesConversation (user peer : UserId) : Action Bool := do
  if user ≤ 0 ∨ peer ≤ 0 ∨ user = peer then pure false
  else
    let row ← Action.archive (.row user peer)
    pure row.isSome

/-! ## Recalling and deleting -/

/-- How often a lifecycle step is tried. -/
def lifecycleAttempts : Nat := 3

/-- A message that must be there. -/
def existing (id : Int) : Action Message := do
  match ← Action.archive (.find id) with
  | some m => pure m
  | none => throw .notFound

/-- Tells the other participant about a step. -/
def notify (m : Message) (actor : UserId) (kind : String) : Action Unit := do
  let content := Json.obj [("message_id", .int m.id), ("conversation_id", .str m.conversation),
    ("operator_id", .int actor)]
  let _ ← Action.offer (m.counterpart actor) ⟨kind, content⟩

/-- The longest window that can be compared with a time. -/
def greatestWindow : Milliseconds := 0x7FFFFFFFFFFFFFFF

/-- Whether a user may recall a message, time apart. -/
def checkRecall (window : Milliseconds) (user : UserId) (m : Message) : Except Failure Unit :=
  if m.sender ≠ user then .error .notSender
  else if m.status = .recalled then .error .alreadyRecalled
  else if m.status = .deleted then .error .alreadyDeleted
  else if greatestWindow < window then .error (.configuration "recall window out of range")
  else .ok ()

/-- Whether a message is still young enough to be recalled. -/
def checkAge (window : Milliseconds) (m : Message) (now : Instant) : Except Failure Unit :=
  if (window : Int) * 1000000 < now.since m.createdAt then
    .error (.recallWindowExpired m.createdAt (window / 1000 : Nat))
  else .ok ()

/-- Whether a user may delete a message. -/
def checkDelete (user : UserId) (m : Message) : Except Failure Unit :=
  if !m.isParticipant user then .error .notParticipant
  else if m.status = .deleted then .error .alreadyDeleted
  else .ok ()

/-- Retires a message that passes a check, and checks it again when its
status has moved, while attempts are left. -/
def retireChecked (check : Message → Action Unit) (target : Status) : Nat → Message → Action Message
  | 0, m => throw (.statusConflict m.status)
  | more + 1, m => do
    check m
    match ← Action.archive (.retire m.id m.status target) with
    | .applied m => pure m
    | .stale m => retireChecked check target more m
    | .missing => throw .notFound

/-- The check before recalling. The time is asked for last. -/
def recallCheck (settings : MessageSettings) (user : UserId) (m : Message) : Action Unit := do
  Action.ofExcept (checkRecall settings.recallWindow user m)
  let now ← Action.time
  Action.ofExcept (checkAge settings.recallWindow m now)

/-- Recalls a message of a user. -/
def recallMessage (settings : MessageSettings) (user : UserId) (id : Int) : Action Message := do
  let m ← existing id
  let m ← retireChecked (recallCheck settings user) .recalled lifecycleAttempts m
  notify m m.sender EventKind.messageRecalled
  pure m.masked

/-- Deletes a message for both of its participants. -/
def deleteMessage (user : UserId) (id : Int) : Action Unit := do
  let m ← existing id
  let check (m : Message) : Action Unit := Action.ofExcept (checkDelete user m)
  let m ← retireChecked check .deleted lifecycleAttempts m
  notify m user EventKind.messageDeleted

end Messaging
end Parley
