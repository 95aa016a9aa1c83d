/-
Conversation rows: each user of a pair has one, and a pair of a user with
itself has a single one. A row points at the last message of the pair.
-/
import Parley.Message

namespace Parley

open Time (Instant)

/-- What a row says of the last message of its pair. -/
structure LastMessage where
  id : Int
  content : String
  time : Instant
deriving DecidableEq, Repr

/-- One user's side of a conversation. -/
structure Conversation where
  id : Int
  ownerKey : String
  owner : UserId
  peer : UserId
  conversation : String
  lastId : Option Int
  lastContent : Option String
  lastTime : Option Instant
  /-- The messages to the owner that are not yet read. -/
  unread : Int
  isTop : Bool
  isMute : Bool
  createdAt : Instant
  updatedAt : Instant
deriving DecidableEq, Repr

namespace Conversation

/-- The row pointing at another last message, or at none. -/
def pointAt (row : Conversation) (last : Option LastMessage) : Conversation :=
  { row with
    lastId := last.map (·.id)
    lastContent := last.map (·.content)
    lastTime := last.map (·.time) }

end Conversation

/-- What a row shows of the message that it points at. -/
def Message.asLast (m : Message) : LastMessage := ⟨m.id, m.shownContent, m.createdAt⟩

/-- What a user shows of itself to others. -/
structure Profile where
  id : UserId
  nickname : String
  avatar : String
deriving DecidableEq, Repr

/-- A row with the profile of the peer. -/
structure ConversationView where
  row : Conversation
  nickname : String
  avatar : String
deriving DecidableEq, Repr

/-- One page of a user's conversations. -/
structure ConversationPage where
  views : List ConversationView
  /-- The number of rows on all pages. -/
  total : Int
  page : Int
  limit : Int
deriving DecidableEq, Repr

/-- One page of the messages of a pair, oldest first. -/
structure HistoryPage where
  messages : List Message
  /-- Whether there are older ones. -/
  hasMore : Bool
deriving DecidableEq, Repr

end Parley
