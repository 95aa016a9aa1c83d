/-
A websocket of an authenticated user, bound to a session of the hub.

`receive` takes what the client sends, `deliver` what the hub has for the
session, and `beat` is called when timers are due. The socket notes what
it sends; what else has to happen is told as effects. A frame that is too
long or malformed stops the socket without a word.
-/
import Parley.ClientEvent
import Parley.Hub
import Parley.Messaging

namespace Parley

open Time (Instant)

/-- What a client sends. -/
inductive Incoming where
  | text (s : String)
  | binary (size : Nat)
  /-- The parts of a message in several frames, by their sizes. -/
  | fragments (sizes : List Nat)
  | ping (payload : String)
  | pong (payload : String)
  /-- The end, with a code and a description or without. -/
  | close (reason : Option (Nat × String))
  /-- Something that breaks the rules of the protocol. -/
  | malformed
  /-- The connection is gone. -/
  | gone
deriving DecidableEq, Repr

/-- What a client is sent. -/
inductive Outgoing where
  | text (s : String)
  | ping (payload : String)
  | pong (payload : String)
  | close (reason : Option (Nat × Option String))
deriving DecidableEq, Repr

structure Socket where
  session : SessionId
  user : UserId
  /-- When the client was last heard. -/
  heard : Instant
  /-- When the next ping is due. -/
  nextBeat : Tick
  sent : List Outgoing := []
  isOpen : Bool := true
deriving DecidableEq, Repr

/-- What a socket wants to happen elsewhere. -/
inductive Effect where
  /-- The session was active. -/
  | touch
  /-- An event for another user. -/
  | relay (target : UserId) (event : Envelope)
deriving Repr

namespace Socket

/-- The close code for a server that ends a session. -/
def goingAway : Nat := 1001

/-- The greatest payload of a ping, a pong or a close. -/
def greatestControl : Nat := 125

def start (settings : SocketSettings) (session : SessionId) (user : UserId) (now : Instant)
    (tick : Tick) : Socket :=
  { session := session, user := user, heard := now, nextBeat := tick + settings.pingInterval }

def send (s : Socket) (out : Outgoing) : Socket := { s with sent := s.sent ++ [out] }

def stop (s : Socket) : Socket := { s with isOpen := false }

/-! ## From the client -/

/-- The sizes of the frames of a message. -/
def frameSizes : Incoming → List Nat
  | .text s => [s.utf8ByteSize]
  | .binary size => [size]
  | .fragments sizes => sizes
  | .ping payload | .pong payload => [payload.utf8ByteSize]
  | .close (some (_, description)) => [2 + description.utf8ByteSize]
  | .close none | .malformed | .gone => []

/-- Whether a code may be given for a close: those of the protocol that
say something, and those of libraries and applications. -/
def isCloseCode (code : Nat) : Bool :=
  (1000 ≤ code && code ≤ 1003) || (1007 ≤ code && code ≤ 1014) || (3000 ≤ code && code ≤ 4999)

/-- Whether a message breaks the rules for its frames. -/
def isRefused (settings : SocketSettings) (m : Incoming) : Bool :=
  ((frameSizes m).any fun size => settings.greatestFrame < size) ||
    match m with
    | .ping payload | .pong payload => greatestControl < payload.utf8ByteSize
    | .close (some (code, description)) =>
      greatestControl < 2 + description.utf8ByteSize || !isCloseCode code
    | .malformed => true
    | _ => false

/-- What a client event asks for. -/
def effectsOf (user : UserId) : ClientEvent → List Effect
  | .ping => []
  | .typing target =>
    if target ≤ 0 ∨ target = user then []
    else [.relay target ⟨EventKind.typing, .obj [("from_user_id", .int user)]⟩]
  | .readReceipt target conversation message =>
    if Pair.counterpart? conversation user = some target then
      [.relay target ⟨EventKind.readReceipt, .obj [("from_user_id", .int user),
        ("conversation_id", .str conversation), ("message_id", Json.ofOption .int message)]⟩]
    else []

/-- Takes a client event. -/
def handle (s : Socket) (now : Instant) (e : ClientEvent) : Socket × List Effect :=
  match e with
  | .ping => (s.send (.text (Envelope.pong now.second).frame), [])
  | e => (s, effectsOf s.user e)

/-- The answer to a close. -/
def closing : Option (Nat × String) → Outgoing
  | none => .close none
  | some (code, description) =>
    .close (some (code, if description = "" then none else some description))

/-- Notes that the client was heard. -/
def hear (s : Socket) (now : Instant) : Socket := { s with heard := now }

/-- Takes what the client sends. -/
def receive (settings : SocketSettings) (now : Instant) (m : Incoming) (s : Socket) :
    Socket × List Effect :=
  if !s.isOpen then (s, [])
  else if isRefused settings m then (s.stop, [])
  else match m with
    | .text text =>
      match ClientEvent.ofText? text with
      | some e =>
        let (s, effects) := (s.hear now).handle now e
        (s, .touch :: effects)
      | none => (s.hear now, [.touch])
    | .ping payload => ((s.hear now).send (.pong payload), [.touch])
    | .pong _ => (s.hear now, [.touch])
    | .binary _ | .fragments _ => (s, [])
    | .close reason => ((s.send (closing reason)).stop, [])
    | .malformed | .gone => (s.stop, [])

/-! ## From the hub -/

/-- Takes what the hub has for the session. -/
def deliver (s : Socket) : Hub.Reading → Socket
  | .frame text => s.send (.text text)
  | .empty => s
  | .ended => (s.send (.close (some (goingAway, none)))).stop

/-! ## Timers -/

/-- The pings that are due. -/
def dueBeats (settings : SocketSettings) (tick : Tick) (s : Socket) : Nat :=
  if s.nextBeat ≤ tick then (tick - s.nextBeat) / settings.pingInterval + 1 else 0

/-- Sends the pings that are due, or stops when the client was not heard
for too long. -/
def beat (settings : SocketSettings) (now : Instant) (tick : Tick) (s : Socket) : Socket :=
  if !s.isOpen then s
  else match s.dueBeats settings tick with
    | 0 => s
    | due =>
      if (settings.clientTimeout : Int) * 1000000 < now.since s.heard then s.stop
      else
        { s with
          sent := s.sent ++ List.replicate due (.ping "")
          nextBeat := s.nextBeat + due * settings.pingInterval }

end Socket

/-! ## Effects -/

/-- Passes an event on to another user, if the two have a conversation with
each other: whether a session took it. -/
def relay (user target : UserId) (event : Envelope) : Action Bool := do
  if ← Messaging.sharesConversation user target then Action.offer target event else pure false

/-- Brings about an effect of a socket. A relay that fails is passed over. -/
def Effect.perform (session : SessionId) (user : UserId) : Effect → Program Surroundings.signature Unit
  | .touch => (Program.query (S := Surroundings.signature) (.touch session)).bind fun _ => .done ()
  | .relay target event => (Parley.relay user target event).run.bind fun _ => .done ()

namespace Socket

/-- Brings about several effects. -/
def performAll (s : Socket) : List Effect → Program Surroundings.signature Unit
  | [] => .done ()
  | e :: effects => (e.perform s.session s.user).bind fun _ => s.performAll effects

/-- Takes what the client sends and brings about what follows from it. -/
def react (settings : SocketSettings) (now : Instant) (m : Incoming) (s : Socket) :
    Program Surroundings.signature Socket :=
  let (s', effects) := s.receive settings now m
  (s.performAll effects).bind fun _ => .done s'

end Socket
end Parley
