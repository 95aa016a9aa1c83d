/-
The service over HTTP.

A request is first checked by the guard of its area. What the guard lets
pass is answered with the id of the request, its own or a new one; what it
refuses is answered without one. A request for a websocket opens a session
and hands it over, unless the handshake fails.

The service is that of the routes with their guards and their request ids. The
layer for requests from pages of other origins, which a deployment puts around
the routes, is left out: it answers preflights (`OPTIONS` with an origin and the
method that is asked for) with 200 before any guard and without any change, and
adds headers to other responses.
-/
import Parley.AccessToken
import Parley.Http.Endpoint
import Parley.Http.Upgrade
import Parley.Settings

namespace Parley.Http

open Time (Instant)

/-- The outcome of a request. -/
inductive Outcome where
  | response (r : Response)
  /-- The connection becomes the socket of a session. -/
  | upgraded (session : SessionId) (user : UserId)
deriving Repr

/-- A reply with a request id. -/
def Reply.respond (requestId : Option String) (r : Reply) : Outcome :=
  .response ⟨r.status, r.body, requestId⟩

/-! ## Guards -/

/-- The user of a token, or the failure to be told. -/
def userOf (c : Configuration) (now : Instant) (token : Option String) : Except Failure UserId :=
  match token.bind (AccessToken.verify? c.secret now.second) with
  | some user => .ok user
  | none => .error .unauthorized

/-- The user whom the authorization of a request names. -/
def guardUser (c : Configuration) (now : Instant) (r : Request) : Except Failure UserId :=
  userOf c now r.headers.bearer?

/-- Whether a request has the key of internal requests. -/
def guardServices (c : Configuration) (r : Request) : Bool :=
  match c.internalKey with
  | some key => key ≠ "" && r.headers.internalKey = key
  | none => false

/-! ## Websockets -/

/-- The token of a request for a socket: of its authorization, or of its
query. -/
def socketToken (r : Request) (queryToken : Option String) : Option String :=
  r.headers.bearer?.or queryToken

/-- Answers a request for a websocket. -/
def openSocket (c : Configuration) (now : Instant) (requestId : String) (r : Request) :
    Answering Outcome :=
  let reply (x : Reply) : Answering Outcome := .done (x.respond (some requestId))
  match single (fields r.query) "token" with
  | none => reply (.text 400)
  | some queryToken =>
    match userOf c now (socketToken r queryToken) with
    | .error f => reply (.failure now f)
    | .ok user =>
      (Action.openSession user).run.bind fun
        | .error f => reply (.failure now f)
        | .ok session =>
          match handshakeFault? r.headers with
          | none => .done (.upgraded session user)
          | some status =>
            (Program.query (S := Surroundings.signature) (.closeSession session)).bind fun _ =>
              reply (.empty status)

/-! ## Requests -/

/-- The id of a request: its own, if it is text, or a new one. -/
def requestIdOf (r : Request) (fresh : String) : String :=
  (r.headers.text? "x-request-id").getD fresh

/-- The request id that is sent back with an outcome. A handshake that succeeds is
a response as well, with the id of its request. -/
def Outcome.requestId? (r : Request) (fresh : String) : Outcome → Option String
  | .response x => x.requestId
  | .upgraded _ _ => some (requestIdOf r fresh)

/-- Answers a request at a time. -/
def serve (c : Configuration) (now : Instant) (fresh : String) (r : Request) : Answering Outcome :=
  let requestId := requestIdOf r fresh
  let pass (x : Answering Reply) : Answering Outcome :=
    x.bind fun reply => .done (reply.respond (some requestId))
  let refuse : Answering Outcome := .done ((Reply.failure now .unauthorized).respond none)
  let unknown : Answering Outcome := pass (.done (.empty 404))
  let (area, rest) := areaOf r.path
  match area with
  | .services =>
    if guardServices c r then
      match endpoint? area r.method rest with
      | some e => pass (e.forServices now r)
      | none => unknown
    else refuse
  | .users =>
    match guardUser c now r with
    | .error _ => refuse
    | .ok user =>
      match endpoint? area r.method rest with
      | some e => pass (e.forUser c.message now user r)
      | none => unknown
  | .everyone =>
    match endpoint? area r.method rest with
    | some .socket => openSocket c now requestId r
    | some e => pass e.forEveryone
    | none => unknown

end Parley.Http
