/-
Frames: what is written to a live session.

A frame is the text of an object with a `type` and a `content`, the type
first and the content in normal form.
-/
import Parley.Json.Normal
import Parley.Json.Record
import Parley.Json.Writer

namespace Parley

/-- An event for a user, before it is written. -/
structure Envelope where
  kind : String
  content : Json
deriving Inhabited, Repr

namespace Envelope

/-- The text of the frame. -/
def frame (e : Envelope) : String :=
  (Json.obj [("type", .str e.kind), ("content", e.content.normal)]).toText

/-- How an envelope is read. -/
def form : Json.Form Envelope := ⟨["type", "content"], fun r => do
  let kind ← r.required "type" Json.str?
  let content ← r.required "content" some
  pure ⟨kind, content.normal⟩⟩

/-- The envelope of a frame. -/
def ofFrame? (frame : String) : Option Envelope := form.ofText? frame

/-- The answer to a ping, with the time in seconds. -/
def pong (seconds : Int) : Envelope := ⟨"pong", .int seconds⟩

end Envelope

/-! ## The kinds of events -/

namespace EventKind

def newMessage : String := "new_message"
def messageRecalled : String := "message_recalled"
def messageDeleted : String := "message_deleted"
def typing : String := "typing"
def readReceipt : String := "read_receipt"

end EventKind
end Parley
