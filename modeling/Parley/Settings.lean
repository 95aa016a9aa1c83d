/-
The settings of the service.

Durations are in milliseconds. `Settings.ofEnvironment` reads them and
refuses a short secret, a queue without room, and a ping interval that is
not below the client timeout.
-/
import Parley.Environment
import Parley.Failure

namespace Parley

open Text (IntRange)

abbrev Milliseconds := Nat

/-- The settings of the hub. -/
structure HubSettings where
  /-- The frames that may wait for a session before it is evicted. -/
  outboundQueue : Nat := 256
  reapInterval : Milliseconds := 30000
  /-- A session that is idle for longer is evicted. -/
  staleAfter : Milliseconds := 300000
deriving DecidableEq, Repr

/-- The commands that may wait for the hub. Here the hub takes each command as it is sent, so
that there always is room: with a full queue calls would wait, and it would not be noted that
a session was active. -/
def commandQueue : Nat := 1024

/-- The settings of a socket. -/
structure SocketSettings where
  pingInterval : Milliseconds := 54000
  clientTimeout : Milliseconds := 60000
  greatestFrame : Nat := 512
deriving DecidableEq, Repr

/-- The settings of messages. -/
structure MessageSettings where
  /-- How long a message can be recalled. -/
  recallWindow : Milliseconds := 120000
  greatestContent : Nat := 5000
  /-- How long an offer may take before it counts as not taken. The setting is read, but
  nothing works by it: offers are answered at once (`Server.answer`). -/
  pushTimeout : Milliseconds := 5000
deriving DecidableEq, Repr

/-- The settings that the service works by. -/
structure Configuration where
  message : MessageSettings := {}
  hub : HubSettings := {}
  socket : SocketSettings := {}
  /-- The secret that access tokens are signed with. -/
  secret : String := ""
  /-- The key of internal requests; without one they are all refused. -/
  internalKey : Option String := none
deriving DecidableEq, Repr

/-- All settings: those of the service, and where it and others are found. -/
structure Settings extends Configuration where
  listenPort : Nat
  /-- Without one, messages are kept in memory. -/
  databaseUrl : Option String
  friendService : String
  userService : String
deriving DecidableEq, Repr

namespace Settings

open Environment in
/-- A duration given in seconds. -/
def seconds (env : Environment) (name : String) (absent : Milliseconds) : Milliseconds :=
  match env.optional? (natural .word64) name with
  | some n => n * 1000
  | none => absent

open Environment in
/-- A count. -/
def count (env : Environment) (name : String) (absent : Nat) : Nat :=
  env.withDefault (natural .word64) name absent

open Environment in
/-- The message settings. -/
def messageOf (env : Environment) : MessageSettings :=
  let defaults : MessageSettings := {}
  { recallWindow := seconds env "MESSAGE_RECALL_WINDOW_SECS" defaults.recallWindow
    greatestContent := count env "MESSAGE_MAX_CONTENT_BYTES" defaults.greatestContent
    pushTimeout := count env "PUSH_TIMEOUT_MS" defaults.pushTimeout }

/-- The hub settings. -/
def hubOf (env : Environment) : HubSettings :=
  let defaults : HubSettings := {}
  { outboundQueue := count env "HUB_OUTBOUND_QUEUE" defaults.outboundQueue
    reapInterval := seconds env "HUB_REAP_INTERVAL_SECS" defaults.reapInterval
    staleAfter := seconds env "HUB_STALE_AFTER_SECS" defaults.staleAfter }

/-- The socket settings. -/
def socketOf (env : Environment) : SocketSettings :=
  let defaults : SocketSettings := {}
  { pingInterval := seconds env "WS_PING_INTERVAL_SECS" defaults.pingInterval
    clientTimeout := seconds env "WS_CLIENT_TIMEOUT_SECS" defaults.clientTimeout
    greatestFrame := count env "WS_MAX_FRAME_BYTES" defaults.greatestFrame }

/-- The least number of octets in a secret. -/
def leastSecret : Nat := 16

open Environment in
/-- All settings of an environment. -/
def ofEnvironment (env : Environment) : Except Failure Settings :=
  match env.required text "JWT_SECRET" with
  | .error reason => .error (.configuration reason)
  | .ok secret =>
    if secret.utf8ByteSize < leastSecret then
      .error (.configuration "JWT_SECRET must be at least 16 bytes")
    else
      let settings : Settings :=
        { listenPort := env.withDefault (natural .word16) "PORT" 8005
          databaseUrl := env.optional? text "DATABASE_URL"
          friendService := (env.get? "FRIEND_SERVICE_URL").getD "http://friend-service:8080"
          userService := (env.get? "USER_SERVICE_URL").getD "http://user-service:8080"
          secret := secret
          internalKey := env.optional? text "INTERNAL_API_KEY"
          message := messageOf env
          hub := hubOf env
          socket := socketOf env }
      if settings.hub.outboundQueue = 0 then
        .error (.configuration "HUB_OUTBOUND_QUEUE must be positive")
      else if settings.socket.clientTimeout ≤ settings.socket.pingInterval then
        .error (.configuration "WS_PING_INTERVAL_SECS must be shorter than WS_CLIENT_TIMEOUT_SECS")
      else .ok settings

end Settings
end Parley
