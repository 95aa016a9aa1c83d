/-
The archive in a database.

Each question of the archive is a script. What changes several rows does
so in one transaction, and the rows of a pair are made with the lowest
owner first, whoever writes first.
-/
import Parley.Archive
import Parley.Database.Script

namespace Parley.Database

open Script (Ending)

/-! ## Statements -/

/-- A text of several lines, with a blank between them. -/
def lines (ls : List String) : String := " ".intercalate ls

def messageColumns : String :=
  lines ["id, from_user_id, to_user_id, conversation_id,",
    "message_type, content, extra, status, seq, created_at, updated_at"]

def conversationColumns : String :=
  lines ["id, owner_key, user_id, peer_id, conversation_id,",
    "last_message_id, last_message_content, last_message_time, unread_count, is_top, is_mute,",
    "created_at, updated_at"]

namespace Statement

/-- Makes the missing rows of a pair: one for a user with itself. -/
def makeRows (a b : UserId) : Statement :=
  let low := min a b
  let high := max a b
  if low = high then
    { text := lines ["INSERT INTO conversations (owner_key, user_id, peer_id, conversation_id)",
        "VALUES ($1, $2, $2, $3)",
        "ON CONFLICT (owner_key) DO NOTHING"]
      params := [.text (Pair.ownerKey low low), .int low, .text (Pair.id a b)] }
  else
    { text := lines ["INSERT INTO conversations (owner_key, user_id, peer_id, conversation_id)",
        "VALUES ($1, $3, $4, $5), ($2, $4, $3, $5)",
        "ON CONFLICT (owner_key) DO NOTHING"]
      params := [.text (Pair.ownerKey low high), .text (Pair.ownerKey high low), .int low,
        .int high, .text (Pair.id a b)] }

/-- Stores a message under the next number of its conversation. -/
def insertMessage (d : Draft) : Statement where
  text := lines ["WITH next AS (",
    "INSERT INTO conversation_counters (conversation_id, last_seq)",
    "VALUES ($1, 1)",
    "ON CONFLICT (conversation_id)",
    "DO UPDATE SET last_seq = conversation_counters.last_seq + 1",
    "RETURNING last_seq )",
    "INSERT INTO messages (",
    "from_user_id, to_user_id, conversation_id, message_type, content, extra, status, seq )",
    "SELECT $2, $3, $1, $4, $5, $6, 1, next.last_seq",
    "FROM next",
    "RETURNING", messageColumns]
  params := [.text d.conversation, .int d.sender, .int d.recipient, .int d.kind.toInt,
    .text d.content, .ofText? d.extra]

/-- Points the rows of the pair at a new message, and counts it for its
recipient. -/
def showMessage (d : Draft) (m : Message) : Statement where
  text := lines ["UPDATE conversations",
    "SET last_message_id = $1,",
    "last_message_content = $2,",
    "last_message_time = $3,",
    "updated_at = NOW(),",
    "unread_count = unread_count + CASE WHEN owner_key = $5 THEN 1 ELSE 0 END",
    "WHERE owner_key IN ($4, $5)"]
  params := [.int m.id, .text m.content, .time m.createdAt,
    .text (Pair.ownerKey d.sender d.recipient), .text (Pair.ownerKey d.recipient d.sender)]

def findMessage (id : Int) : Statement where
  text := lines ["SELECT", messageColumns, "FROM messages WHERE id = $1"]
  params := [.int id]

/-- Moves a message from one status to another, if it has the first. -/
def transition (id : Int) (old new : Status) : Statement where
  text := lines ["UPDATE messages SET status = $3, updated_at = NOW()",
    "WHERE id = $1 AND status = $2"]
  params := [.int id, .int old.toInt, .int new.toInt]

/-- Does what `transition` does, and answers the message. -/
def transitionReturning (id : Int) (old new : Status) : Statement :=
  { transition id old new with
    text := lines [(transition id old new).text, "RETURNING", messageColumns] }

/-- The latest message of a conversation that is not deleted. -/
def latest (conversation : String) : Statement where
  text := lines ["SELECT id, content, status, created_at",
    "FROM messages",
    "WHERE conversation_id = $1 AND status <> 5",
    "ORDER BY id DESC",
    "LIMIT 1"]
  params := [.text conversation]

/-- Points the rows that show a retired message at another one, or at none. -/
def repoint (conversation : String) (last : Option LastMessage) (retired : Int) : Statement where
  text := lines ["UPDATE conversations",
    "SET last_message_id = $2,",
    "last_message_content = $3,",
    "last_message_time = $4",
    "WHERE conversation_id = $1 AND last_message_id = $5"]
  params := [.text conversation, .ofInt? (last.map (·.id)), .ofText? (last.map (·.content)),
    .ofTime? (last.map (·.time)), .int retired]

/-- Counts the unread messages of an owner's row again. -/
def recount (conversation : String) (owner peer : UserId) : Statement where
  text := lines ["UPDATE conversations",
    "SET unread_count = (",
    "SELECT COUNT(*)::INTEGER",
    "FROM messages",
    "WHERE conversation_id = $1",
    "AND to_user_id = $2",
    "AND status IN (1, 2) )",
    "WHERE owner_key = $3"]
  params := [.text conversation, .int owner, .text (Pair.ownerKey owner peer)]

/-- Marks the unread messages to a reader, up to a message or all. -/
def markRead (reader : UserId) (conversation : String) (upTo : Option Int) : Statement where
  text := lines ["UPDATE messages",
    "SET status = 3, updated_at = NOW()",
    "WHERE conversation_id = $1",
    "AND to_user_id = $2",
    "AND status IN (1, 2)",
    "AND ($3::BIGINT IS NULL OR id <= $3)"]
  params := [.text conversation, .int reader, .ofInt? upTo]

/-- The latest messages that are not deleted, before a message or all. -/
def history (conversation : String) (before : Option Int) (limit : Int) : Statement where
  text := lines ["SELECT", messageColumns, "FROM messages",
    "WHERE conversation_id = $1",
    "AND status <> 5",
    "AND ($2::BIGINT IS NULL OR id < $2)",
    "ORDER BY id DESC",
    "LIMIT $3"]
  params := [.text conversation, .ofInt? before, .int limit]

def countRows (user : UserId) : Statement where
  text := "SELECT COUNT(*) FROM conversations WHERE user_id = $1"
  params := [.int user]

def pageOfRows (user : UserId) (offset limit : Int) : Statement where
  text := lines ["SELECT", conversationColumns, "FROM conversations",
    "WHERE user_id = $1",
    "ORDER BY updated_at DESC, id DESC",
    "LIMIT $2 OFFSET $3"]
  params := [.int user, .int limit, .int offset]

def findRow (owner peer : UserId) : Statement where
  text := lines ["SELECT", conversationColumns, "FROM conversations WHERE owner_key = $1"]
  params := [.text (Pair.ownerKey owner peer)]

/-- The unread messages of one conversation or of all. -/
def unread (user : UserId) (conversation : Option String) : Statement where
  text := lines ["SELECT COALESCE(SUM(unread_count), 0)::BIGINT FROM conversations",
    "WHERE user_id = $1 AND ($2::TEXT IS NULL OR conversation_id = $2)"]
  params := [.int user, .ofText? conversation]

end Statement

/-! ## Scripts -/

namespace Script

/-- The message of a row. -/
def decode (r : MessageRow) : Script Message := ofExcept r.message

/-- Stores a message. -/
def store (d : Draft) : Script Message := do
  connect
  transaction do
    let _ ← execute (.makeRows d.sender d.recipient)
    let m ← decode (← row (.insertMessage d) .message)
    let _ ← execute (.showMessage d m)
    pure (.keep m)

/-- The message of an id. -/
def find (id : Int) : Script (Option Message) := do
  connect
  match ← row? (.findMessage id) .message with
  | some r => some <$> decode r
  | none => pure none

/-- Moves a message from one status to another: whether it had the first. -/
def transition (id : Int) (old new : Status) : Script Bool := do
  connect
  let moved ← execute (.transition id old new)
  pure (moved == 1)

/-- Repairs the rows of a pair behind a retired message. -/
def repairRows (m : Message) (recounts : Bool) : Script Unit := do
  let last ← row? (.latest m.conversation) .latest
  let _ ← execute (.repoint m.conversation (last.map LatestRow.shown) m.id)
  if recounts then
    let _ ← execute (.recount m.conversation m.recipient m.sender)

/-- Retires a message. -/
def retire (id : Int) (expected target : Status) : Script Retirement := do
  connect
  transaction do
    match ← row? (.transitionReturning id expected target) .message with
    | some r =>
      let m ← decode r
      repairRows m expected.isUnread
      pure (.keep (.applied m))
    | none =>
      match ← row? (.findMessage id) .message with
      | some r => return .undo (.stale (← decode r))
      | none => pure (.undo .missing)

/-- Marks messages to a reader as read: how many they were. -/
def markRead (reader : UserId) (conversation : String) (upTo : Option Int) : Script Nat := do
  match Pair.counterpart? conversation reader with
  | none => throw .notParticipant
  | some peer =>
    connect
    transaction do
      let count ← execute (.markRead reader conversation upTo)
      let _ ← execute (.recount conversation reader peer)
      pure (.keep count)

/-- The latest messages that are not deleted. -/
def history (conversation : String) (before : Option Int) (limit : Int) :
    Script (List Message) := do
  connect
  let rows ← query (.history conversation before limit) .message
  rows.mapM decode

/-- A page of the rows of a user, and their number. -/
def rows (user : UserId) (offset limit : Int) : Script (List Conversation × Int) := do
  connect
  let total ← row (.countRows user) .number
  let page ← query (.pageOfRows user offset limit) .conversation
  pure (page, total)

/-- The row of an owner for another user. -/
def conversation (owner peer : UserId) : Script (Option Conversation) := do
  connect
  row? (.findRow owner peer) .conversation

/-- The unread messages of one conversation or of all. -/
def unread (user : UserId) (conversation : Option String) : Script Int := do
  connect
  row (.unread user conversation) .number

/-- The script of a question of the archive. -/
def ofAsk : (q : Archive.Ask) → Script (Archive.Found q)
  | .store d => store d
  | .find id => find id
  | .transition id old new => transition id old new
  | .retire id expected target => retire id expected target
  | .markRead reader conversation upTo => markRead reader conversation upTo
  | .history conversation before limit => history conversation before limit
  | .rows user offset limit => rows user offset limit
  | .row owner peer => conversation owner peer
  | .unread user conversation => unread user conversation

end Script

/-- Answers questions of the archive from whatever runs statements. -/
def answer {σ : Type} (h : Program.Handler signature σ) :
    Program.Handler Archive.signature σ :=
  fun q s => (Script.ofAsk q).run.run h s

end Parley.Database
