/-
Messages, conversations and profiles as JSON.

A message leaves out `extra` when there is none; a conversation never
writes its owner key, and reads a missing one as the empty text.
-/
import Parley.Conversation
import Parley.Json.Record
import Parley.Time.Rfc3339

namespace Parley

open Time (Instant)

/-! ## Parts -/

/-- An instant as text. -/
def Time.Instant.toJson (t : Instant) : Json := .str t.toRfc3339

/-- An instant in a text. -/
def Time.Instant.ofJson? (v : Json) : Option Instant := v.str?.bind Instant.ofRfc3339?

def Status.toJson (s : Status) : Json := .int s.toInt

def Status.ofJson? (v : Json) : Option Status := (v.int? .int16).bind Status.ofInt?

def MessageKind.toJson (k : MessageKind) : Json := .int k.toInt

def MessageKind.ofJson? (v : Json) : Option MessageKind := (v.int? .int16).bind MessageKind.ofInt?

/-! ## Messages -/

namespace Message

def fields : List String :=
  ["id", "from_user_id", "to_user_id", "conversation_id", "message_type", "content", "extra",
    "status", "seq", "created_at", "updated_at"]

/-- The members of a message. -/
def members (m : Message) : List (String × Json) :=
  [("id", .int m.id), ("from_user_id", .int m.sender), ("to_user_id", .int m.recipient),
    ("conversation_id", .str m.conversation), ("message_type", m.kind.toJson),
    ("content", .str m.content)]
  ++ (match m.extra with | some e => [("extra", .str e)] | none => [])
  ++ [("status", m.status.toJson), ("seq", .int m.seq), ("created_at", m.createdAt.toJson),
    ("updated_at", m.updatedAt.toJson)]

def toJson (m : Message) : Json := .obj m.members

/-- How a message is read. -/
def form : Json.Form Message := ⟨fields, fun r => do
  let id ← r.required "id" Json.int64?
  let sender ← r.required "from_user_id" Json.int64?
  let recipient ← r.required "to_user_id" Json.int64?
  let conversation ← r.required "conversation_id" Json.str?
  let kind ← r.required "message_type" MessageKind.ofJson?
  let content ← r.required "content" Json.str?
  let extra ← r.optional "extra" Json.str?
  let status ← r.required "status" Status.ofJson?
  let seq ← r.required "seq" Json.int64?
  let createdAt ← r.required "created_at" Instant.ofJson?
  let updatedAt ← r.required "updated_at" Instant.ofJson?
  pure ⟨id, sender, recipient, conversation, kind, content, extra, status, seq, createdAt,
    updatedAt⟩⟩

end Message

/-! ## Conversations -/

namespace Conversation

def fields : List String :=
  ["id", "owner_key", "user_id", "peer_id", "conversation_id", "last_message_id",
    "last_message_content", "last_message_time", "unread_count", "is_top", "is_mute", "created_at",
    "updated_at"]

/-- The members of a row. -/
def members (c : Conversation) : List (String × Json) :=
  [("id", .int c.id), ("user_id", .int c.owner), ("peer_id", .int c.peer),
    ("conversation_id", .str c.conversation), ("last_message_id", Json.ofOption .int c.lastId),
    ("last_message_content", Json.ofOption .str c.lastContent),
    ("last_message_time", Json.ofOption Instant.toJson c.lastTime), ("unread_count", .int c.unread),
    ("is_top", .bool c.isTop), ("is_mute", .bool c.isMute), ("created_at", c.createdAt.toJson),
    ("updated_at", c.updatedAt.toJson)]

def toJson (c : Conversation) : Json := .obj c.members

/-- How a row is read. -/
def form : Json.Form Conversation := ⟨fields, fun r => do
  let id ← r.required "id" Json.int64?
  let ownerKey ← r.defaulted "owner_key" "" Json.str?
  let owner ← r.required "user_id" Json.int64?
  let peer ← r.required "peer_id" Json.int64?
  let conversation ← r.required "conversation_id" Json.str?
  let lastId ← r.optional "last_message_id" Json.int64?
  let lastContent ← r.optional "last_message_content" Json.str?
  let lastTime ← r.optional "last_message_time" Instant.ofJson?
  let unread ← r.required "unread_count" (Json.int? .int32)
  let isTop ← r.required "is_top" Json.bool?
  let isMute ← r.required "is_mute" Json.bool?
  let createdAt ← r.required "created_at" Instant.ofJson?
  let updatedAt ← r.required "updated_at" Instant.ofJson?
  pure ⟨id, ownerKey, owner, peer, conversation, lastId, lastContent, lastTime, unread, isTop,
    isMute, createdAt, updatedAt⟩⟩

end Conversation

/-! ## Profiles and pages -/

namespace Profile

def fields : List String := ["id", "nickname", "avatar"]

def toJson (p : Profile) : Json :=
  .obj [("id", .int p.id), ("nickname", .str p.nickname), ("avatar", .str p.avatar)]

/-- How a profile is read. Its texts may be left out. -/
def form : Json.Form Profile := ⟨fields, fun r => do
  let id ← r.required "id" Json.int64?
  let nickname ← r.defaulted "nickname" "" Json.str?
  let avatar ← r.defaulted "avatar" "" Json.str?
  pure ⟨id, nickname, avatar⟩⟩

end Profile

/-- A row with the members of the peer's profile. -/
def ConversationView.toJson (v : ConversationView) : Json :=
  .obj (v.row.members ++ [("peer_nickname", .str v.nickname), ("peer_avatar", .str v.avatar)])

def ConversationPage.toJson (p : ConversationPage) : Json :=
  .obj [("conversations", .arr (p.views.map (·.toJson))), ("total", .int p.total),
    ("page", .int p.page), ("limit", .int p.limit)]

def HistoryPage.toJson (p : HistoryPage) : Json :=
  .obj [("messages", .arr (p.messages.map (·.toJson))), ("has_more", .bool p.hasMore)]

end Parley
