/-
What is served, and for whom.

A path lies in one of three areas: the internal one needs the shared key,
the one of users a token, and the rest nothing. An `Endpoint` is what a
method and a path name in an area.
-/
import Parley.Http.Request
import Parley.Inbox
import Parley.Messaging
import Parley.Push

namespace Parley.Http

open Text
open Time (Instant)

/-! ## Areas and endpoints -/

/-- The part of the service that a path lies in. -/
inductive Area where
  | everyone
  | users
  | services
deriving DecidableEq, Repr

/-- Whether a path is a root or lies below it, and what follows the root. -/
def below? (root : String) (path : String) : Option (List Char) :=
  if root.toList.isPrefixOf path.toList then
    match path.toList.drop root.length with
    | [] => some []
    | '/' :: rest => some ('/' :: rest)
    | _ => none
  else none

/-- The area of a path, and the rest of the path in it. -/
def areaOf (path : String) : Area × List Char :=
  match below? "/message/v1/internal" path with
  | some rest => (.services, rest)
  | none =>
    match below? "/message/v1" path with
    | some rest => (.users, rest)
    | none => (.everyone, path.toList)

inductive Endpoint where
  | health
  | socket
  | push
  | stats
  | send
  | history
  | read
  | recallMessage
  | deleteMessage
  | unread
  | conversations
  /-- Whether a user is online; the user as it stands in the path. -/
  | online (user : List Char)
deriving DecidableEq, Repr

/-- The endpoint of a method and the rest of a path in an area. -/
def endpoint? (area : Area) (method : String) (rest : List Char) : Option Endpoint :=
  match area, method, String.ofList rest with
  | .everyone, "GET", "/health" => some .health
  | .everyone, "GET", "/ws" => some .socket
  | .services, "POST", "/push" => some .push
  | .services, "GET", "/stats" => some .stats
  | .users, "POST", "/send" => some .send
  | .users, "GET", "/history" => some .history
  | .users, "POST", "/read" => some .read
  | .users, "POST", "/recall" => some .recallMessage
  | .users, "POST", "/delete" => some .deleteMessage
  | .users, "GET", "/unread" => some .unread
  | .users, "GET", "/conversations" => some .conversations
  | .users, "GET", _ =>
    if "/online/".toList.isPrefixOf rest then
      let user := rest.drop "/online/".length
      if user.isEmpty || user.contains '/' then none else some (.online user)
    else none
  | _, _, _ => none

/-! ## Answers -/

/-- A response without its request id. -/
structure Reply where
  status : Nat
  body : Body
deriving Repr

namespace Reply

def empty (status : Nat) : Reply := ⟨status, .empty⟩

def json (status : Nat) (v : Json) : Reply := ⟨status, .json v⟩

/-- What the reading of a request answers when it fails. -/
def text (status : Nat) : Reply := ⟨status, .text⟩

/-- The answer to a failed request. -/
def failure (now : Instant) (f : Failure) : Reply := ⟨f.httpStatus, .json (f.body.toJson now)⟩

end Reply

/-- A program that answers a request. -/
abbrev Answering (α : Type) := Program Surroundings.signature α

/-- The answer of an action. -/
def answer {α : Type} (now : Instant) (a : Action α) (write : α → Reply) : Answering Reply :=
  a.run.bind fun
    | .ok v => .done (write v)
    | .error f => .done (Reply.failure now f)

/-- The answer to a request with a body. -/
def withBody {α : Type} (form : Json.Form α) (r : Request) (use : α → Answering Reply) :
    Answering Reply :=
  match readBody form r with
  | .ok a => use a
  | .error fault => .done (.text fault.status)

/-- The answer to a request with query fields. -/
def withQuery {α : Type} (fields : Option α) (use : α → Answering Reply) : Answering Reply :=
  match fields with
  | some a => use a
  | none => .done (.text 400)

/-! ## Bodies and queries -/

structure SendBody where
  recipient : UserId
  kind : Int
  content : String
  extra : Option String
deriving DecidableEq, Repr

def SendBody.fields : List String := ["to_user_id", "message_type", "content", "extra"]

/-- How a message to send is read; one without a kind is a text. -/
def SendBody.form : Json.Form SendBody := ⟨fields, fun r => do
  let recipient ← r.required "to_user_id" Json.int64?
  let kind ← r.defaulted "message_type" MessageKind.text.toInt (Json.int? .int16)
  let content ← r.required "content" Json.str?
  let extra ← r.defaulted "extra" none (Json.Record.orNull Json.str?)
  pure ⟨recipient, kind, content, extra⟩⟩

structure ReadBody where
  conversation : String
  upTo : Option Int
deriving DecidableEq, Repr

def ReadBody.form : Json.Form ReadBody := ⟨["conversation_id", "message_id"], fun r => do
  let conversation ← r.required "conversation_id" Json.str?
  let upTo ← r.defaulted "message_id" none (Json.Record.orNull Json.int64?)
  pure ⟨conversation, upTo⟩⟩

/-- How a body is read that names a message. -/
def messageForm : Json.Form Int := ⟨["message_id"], fun r => r.required "message_id" Json.int64?⟩

structure HistoryQuery where
  conversation : String
  before : Option Int
  limit : Option Int
deriving DecidableEq, Repr

def HistoryQuery.ofFields? (fs : List (String × String)) : Option HistoryQuery := do
  let conversation ← (← single fs "conversation_id")
  let before ← singleInt fs "last_message_id"
  let limit ← singleInt fs "limit"
  pure ⟨conversation, before, limit⟩

/-- The page and the limit of a query. -/
def pageQuery? (fs : List (String × String)) : Option (Option Int × Option Int) := do
  let page ← singleInt fs "page"
  let limit ← singleInt fs "limit"
  pure (page, limit)

/-! ## What the endpoints do -/

/-- The name under which the service reports its health. -/
def serviceName : String := "im-message-service"

def HubStats.members (s : HubStats) : List (String × Json) :=
  [("online_users", .nat s.onlineUsers), ("sessions", .nat s.sessions)]

/-- The number in a part of a path. -/
def pathInt? (part : List Char) : Option Int :=
  readInt64 (Utf8.decodeLossy (Percent.decode (Utf8.encode part)))

/-- The numbers of users and sessions. -/
def hubStats : Answering HubStats := Program.query (S := Surroundings.signature) .stats

/-- The answer for everyone. -/
def Endpoint.forEveryone : Endpoint → Answering Reply
  | .health => hubStats.bind fun s =>
    .done (.json 200 (.obj ([("status", .str "ok"), ("service", .str serviceName)]
      ++ HubStats.members s)))
  | _ => .done (.empty 404)

/-- The answer for another service. -/
def Endpoint.forServices (now : Instant) (r : Request) : Endpoint → Answering Reply
  | .push => withBody PushRequest.form r fun request =>
    answer now (Parley.push request) fun taken => .json 200 (.obj [("delivered", .bool taken)])
  | .stats => hubStats.bind fun s => .done (.json 200 (.obj (HubStats.members s)))
  | _ => .done (.empty 404)

/-- Whether another user is online. -/
def isOnline (user : UserId) : Action Bool :=
  if user ≤ 0 then throw (.invalidUserId user) else Action.query (.isOnline user)

/-- The answer for a user. -/
def Endpoint.forUser (settings : MessageSettings) (now : Instant) (user : UserId) (r : Request) :
    Endpoint → Answering Reply
  | .send => withBody SendBody.form r fun b =>
    answer now (Messaging.send settings ⟨user, b.recipient, b.kind, b.content, b.extra⟩) fun m =>
      .json 201 m.toJson
  | .history => withQuery (HistoryQuery.ofFields? (fields r.query)) fun q =>
    answer now (Messaging.history user q.conversation q.before q.limit) fun page =>
      .json 200 page.toJson
  | .read => withBody ReadBody.form r fun b =>
    answer now (Messaging.markRead user b.conversation b.upTo) fun n =>
      .json 200 (.obj [("updated", .nat n)])
  | .recallMessage => withBody messageForm r fun id =>
    answer now (Messaging.recallMessage settings user id) fun m => .json 200 m.toJson
  | .deleteMessage => withBody messageForm r fun id =>
    answer now (Messaging.deleteMessage user id) fun _ => .empty 204
  | .unread => withQuery (single (fields r.query) "conversation_id") fun conversation =>
    answer now (Messaging.unread user conversation) fun n =>
      .json 200 (.obj [("unread_count", .int n)])
  | .conversations => withQuery (pageQuery? (fields r.query)) fun (page, limit) =>
    answer now (Inbox.conversations user page limit) fun p => .json 200 p.toJson
  | .online part =>
    match pathInt? part with
    | none => .done (.text 404)
    | some other =>
      answer now (isOnline other) fun online =>
        .json 200 (.obj [("user_id", .int other), ("online", .bool online)])
  | _ => .done (.empty 404)

end Parley.Http
