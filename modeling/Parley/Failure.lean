/-
What can go wrong, and how clients are told.

A `Failure` is a cause. `message` is its text, `code` a word for programs,
`httpStatus` the status of a response. `Failure.body` is the JSON body of a
response: causes that lie in the installation keep their text to themselves,
and a conflict with the lifecycle tells the status of the message.
-/
import Parley.Schema

namespace Parley

open Text (showInt showNat)
open Time (Instant)

/-- Why a request was not served. -/
inductive Failure where
  | configuration (text : String)
  | startup (text : String)
  | badRequest (text : String)
  | invalidUserId (id : Int)
  | invalidMessageKind (kind : Int)
  | emptyContent
  | contentTooLong (greatest : Nat)
  | unauthorized
  | notFriends
  | notSender
  | notParticipant
  | notFound
  | alreadyRecalled
  | alreadyDeleted
  | recallWindowExpired (createdAt : Instant) (windowSeconds : Int)
  | statusConflict (current : Status)
  | database (text : String)
  | transactionConflict (text : String)
  /-- Another service failed. -/
  | remote (text : String)
  | unavailable (text : String)
deriving DecidableEq, Repr

namespace Failure

/-- The text of a failure. -/
def message : Failure → String
  | configuration text => "configuration error: " ++ text
  | startup text => "server start failure: " ++ text
  | badRequest text => "bad request: " ++ text
  | invalidUserId id => "invalid user id: " ++ showInt id
  | invalidMessageKind kind => "invalid message type: " ++ showInt kind
  | emptyContent => "message content is empty"
  | contentTooLong greatest => "message content exceeds " ++ showNat greatest ++ " bytes"
  | unauthorized => "unauthorized"
  | notFriends => "users are not friends"
  | notSender => "only the sender may recall a message"
  | notParticipant => "user is not a participant of this conversation"
  | notFound => "not found"
  | alreadyRecalled => "message already recalled"
  | alreadyDeleted => "message already deleted"
  | recallWindowExpired createdAt windowSeconds =>
    "recall window expired (created_at: " ++ createdAt.display ++ ", window_secs: "
      ++ showInt windowSeconds ++ ")"
  | statusConflict current => "status conflict: message is " ++ current.name
  | database text => "database error: " ++ text
  | transactionConflict text => "transaction conflict: " ++ text
  | remote text => "upstream service error: " ++ text
  | unavailable text => "service unavailable: " ++ text

/-- Whether the work may be done again from its start. -/
def retryable : Failure → Bool
  | transactionConflict _ => true
  | _ => false

/-- The status of a response. -/
def httpStatus : Failure → Nat
  | badRequest _ | invalidUserId _ | invalidMessageKind _ | emptyContent | contentTooLong _ => 400
  | unauthorized => 401
  | notFriends | notSender | notParticipant | recallWindowExpired _ _ => 403
  | notFound => 404
  | statusConflict _ | transactionConflict _ => 409
  | alreadyRecalled | alreadyDeleted => 410
  | configuration _ | startup _ | database _ => 500
  | remote _ => 502
  | unavailable _ => 503

/-- The word for programs. -/
def code : Failure → String
  | configuration _ => "CONFIG_ERROR"
  | startup _ => "START_SERVER"
  | badRequest _ => "BAD_REQUEST"
  | invalidUserId _ => "INVALID_USER_ID"
  | invalidMessageKind _ => "INVALID_MESSAGE_TYPE"
  | emptyContent => "EMPTY_CONTENT"
  | contentTooLong _ => "CONTENT_TOO_LONG"
  | unauthorized => "UNAUTHORIZED"
  | notFriends => "NOT_FRIENDS"
  | notSender => "NOT_MESSAGE_SENDER"
  | notParticipant => "NOT_PARTICIPANT"
  | notFound => "NOT_FOUND"
  | alreadyRecalled => "ALREADY_RECALLED"
  | alreadyDeleted => "ALREADY_DELETED"
  | recallWindowExpired _ _ => "RECALL_WINDOW_EXPIRED"
  | statusConflict _ => "STATUS_CONFLICT"
  | database _ => "DATABASE_ERROR"
  | transactionConflict _ => "TRANSACTION_CONFLICT"
  | remote _ => "UPSTREAM_ERROR"
  | unavailable _ => "SERVICE_UNAVAILABLE"

/-- The status of the message, for a conflict with its lifecycle. -/
def currentStatus : Failure → Option Status
  | alreadyRecalled => some .recalled
  | alreadyDeleted => some .deleted
  | statusConflict current => some current
  | _ => none

/-- The text that a client may see. -/
def publicMessage : Failure → String
  | database _ | configuration _ | startup _ => "internal server error"
  | f => f.message

end Failure

/-- The name of a response status. -/
def reason : Nat → String
  | 400 => "Bad Request"
  | 401 => "Unauthorized"
  | 403 => "Forbidden"
  | 404 => "Not Found"
  | 409 => "Conflict"
  | 410 => "Gone"
  | 500 => "Internal Server Error"
  | 502 => "Bad Gateway"
  | 503 => "Service Unavailable"
  | _ => "Error"

/-- The class of failures that a response status stands for. -/
def failureClass : Nat → String
  | 400 => "validation_error"
  | 401 => "authentication_error"
  | 403 => "authorization_error"
  | 404 => "not_found_error"
  | 409 | 410 => "conflict_error"
  | 502 | 503 => "service_unavailable_error"
  | _ => "server_error"

/-- The body of the response to a failed request, but for its time. -/
structure FailureBody where
  error : String
  message : String
  status : Nat
  errorType : String
  code : String
  currentStatus : Option Status
deriving DecidableEq, Repr

def Failure.body (f : Failure) : FailureBody where
  error := reason f.httpStatus
  message := f.publicMessage
  status := f.httpStatus
  errorType := failureClass f.httpStatus
  code := f.code
  currentStatus := f.currentStatus

/-- The members of a body. -/
def FailureBody.members (b : FailureBody) : List (String × Json) :=
  [("error", .str b.error), ("message", .str b.message), ("status", .nat b.status),
    ("error_type", .str b.errorType), ("code", .str b.code)]
  ++ (match b.currentStatus with | some s => [("current_status", s.toJson)] | none => [])

/-- A body with the time at which the failure was told. -/
def FailureBody.toJson (b : FailureBody) (now : Instant) : Json :=
  .obj (b.members ++ [("timestamp", .str now.stamp)])

end Parley
