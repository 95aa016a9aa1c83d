/-
What a client may say on its socket.

An event is an object with the name of the event as `type` and the fields
of that event beside it, or an array of the name and the fields. What is
no field of the event does not count, but it must have a value, and `type`
and the fields may not be repeated.
-/
import Parley.Json.Reader
import Parley.Json.Record
import Parley.Json.Writer
import Parley.Pair

namespace Parley

/-- An event from a client. -/
inductive ClientEvent where
  | ping
  | typing (target : UserId)
  | readReceipt (target : UserId) (conversation : String) (message : Option Int)
deriving DecidableEq, Repr

namespace ClientEvent

/-- The name of an event and the value that holds its fields. -/
def split? : Json → Option (String × Json)
  | .obj members =>
    match members.filter fun m => m.1 == "type" with
    | [(_, .str name)] => some (name, .obj (members.filter fun m => m.1 != "type"))
    | _ => none
  | .arr (.str name :: items) => some (name, .arr items)
  | _ => none

/-- The event of that name with the fields of a value. -/
def ofFields? (name : String) (v : Json) : Option ClientEvent :=
  if name = "ping" then (v.record? []).map fun _ => ping
  else if name = "typing" then do
    let r ← v.record? ["to_user_id"]
    let target ← r.required "to_user_id" Json.int64?
    pure (typing target)
  else if name = "read_receipt" then do
    let r ← v.record? ["to_user_id", "conversation_id", "message_id"]
    let target ← r.required "to_user_id" Json.int64?
    let conversation ← r.required "conversation_id" Json.str?
    let message ← r.defaulted "message_id" none (Json.Record.orNull Json.int64?)
    pure (readReceipt target conversation message)
  else none

/-- The event that a value describes. -/
def ofJson? (v : Json) : Option ClientEvent := (split? v).bind fun (name, fields) => ofFields? name fields

/-- The event in a text. -/
def ofText? (text : String) : Option ClientEvent := (Json.ofString? text).bind ofJson?

def toJson : ClientEvent → Json
  | ping => .obj [("type", .str "ping")]
  | typing target => .obj [("type", .str "typing"), ("to_user_id", .int target)]
  | readReceipt target conversation message =>
    .obj [("type", .str "read_receipt"), ("to_user_id", .int target),
      ("conversation_id", .str conversation), ("message_id", Json.ofOption .int message)]

end ClientEvent
end Parley
