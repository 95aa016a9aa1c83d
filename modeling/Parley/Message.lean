/-
Messages and their lifecycle.

A status only moves forward: `sent`, `delivered`, `read`, and from each of
them to `recalled` or `deleted`; a recalled message can still be deleted.
Both a status and a kind are written as a number from 1 to 5.
-/
import Parley.Pair
import Parley.Time.Instant

namespace Parley

open Time (Instant)

/-- Where a message is in its lifecycle. -/
inductive Status where
  | sent
  | delivered
  | read
  | recalled
  | deleted
deriving DecidableEq, Repr

namespace Status

def toInt : Status → Int
  | sent => 1
  | delivered => 2
  | read => 3
  | recalled => 4
  | deleted => 5

def ofInt? : Int → Option Status
  | 1 => some sent
  | 2 => some delivered
  | 3 => some read
  | 4 => some recalled
  | 5 => some deleted
  | _ => none

def name : Status → String
  | sent => "Sent"
  | delivered => "Delivered"
  | read => "Read"
  | recalled => "Recalled"
  | deleted => "Deleted"

def all : List Status := [sent, delivered, read, recalled, deleted]

/-- Whether the recipient has yet to read the message. -/
def isUnread : Status → Bool
  | sent | delivered => true
  | _ => false

/-- Whether the lifecycle has a step from one status to the other. -/
def canBecome : Status → Status → Bool
  | sent, delivered | sent, read | delivered, read => true
  | sent, recalled | delivered, recalled | read, recalled => true
  | sent, deleted | delivered, deleted | read, deleted | recalled, deleted => true
  | _, _ => false

/-- What is said of a number that is no status. -/
def unknown (n : Int) : String := "unknown message status " ++ Text.showInt n

theorem ofInt?_toInt (s : Status) : ofInt? s.toInt = some s := by cases s <;> rfl

end Status

/-- What a message carries. -/
inductive MessageKind where
  | text
  | image
  | audio
  | video
  | file
deriving DecidableEq, Repr

namespace MessageKind

def toInt : MessageKind → Int
  | text => 1
  | image => 2
  | audio => 3
  | video => 4
  | file => 5

def ofInt? : Int → Option MessageKind
  | 1 => some text
  | 2 => some image
  | 3 => some audio
  | 4 => some video
  | 5 => some file
  | _ => none

def name : MessageKind → String
  | text => "Text"
  | image => "Image"
  | audio => "Audio"
  | video => "Video"
  | file => "File"

/-- What is said of a number that is no kind. -/
def unknown (n : Int) : String := "unknown message type " ++ Text.showInt n

theorem ofInt?_toInt (k : MessageKind) : ofInt? k.toInt = some k := by cases k <;> rfl

end MessageKind

/-- A stored message. -/
structure Message where
  id : Int
  sender : UserId
  recipient : UserId
  conversation : String
  kind : MessageKind
  content : String
  extra : Option String
  status : Status
  /-- The place of the message in its conversation, from 1. -/
  seq : Int
  createdAt : Instant
  updatedAt : Instant
deriving DecidableEq, Repr

namespace Message

/-- What stands for the content of a recalled message. -/
def recalledContent : String := "[message recalled]"

/-- The message as its participants may see it. -/
def masked (m : Message) : Message :=
  if m.status = .recalled then { m with content := recalledContent, extra := none } else m

/-- The content as a conversation shows it. -/
def shownContent (m : Message) : String :=
  if m.status = .recalled then recalledContent else m.content

def isParticipant (m : Message) (user : UserId) : Bool := m.sender = user || m.recipient = user

/-- The other participant, and the sender for a user who is none. -/
def counterpart (m : Message) (user : UserId) : UserId :=
  if m.sender = user then m.recipient else m.sender

end Message

/-- A message that has been checked and can be stored. -/
structure Draft where
  sender : UserId
  recipient : UserId
  kind : MessageKind
  content : String
  extra : Option String
deriving DecidableEq, Repr

/-- The conversation of a draft. -/
def Draft.conversation (d : Draft) : String := Pair.id d.sender d.recipient

end Parley
