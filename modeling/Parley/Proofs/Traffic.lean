/-
The service with requests under way.

`Traffic` is a server with the requests that it has not answered yet, each with
what is left of its program. `Work` is what the service does by itself, step by
step: requests have their turns, sockets take what the hub has for them, and the
sessions of sockets that have stopped are ended. `Incident` is what comes from
around it: requests arrive, clients send and go away, frames are offered, timers
go off, and the hub is shut down. Steps of both kinds stand in any order
(`Reaches`), so that either side of a socket may be the first to end. The service
is `Settled` when no work is left.
-/
import Mathlib.Logic.Function.Basic
import Mathlib.Logic.Relation
import Parley.Proofs.Http.Access

namespace Parley

open Surroundings (Ask signature)
open Time (Instant)

/-! ## Requests under way -/

namespace Http

/-- The session that was opened for a request and is neither handed over nor
closed yet. -/
def held : Answering Outcome → List SessionId
  | .done (.upgraded session _) => [session]
  | .ask (.closeSession session) _ => [session]
  | _ => []

/-- How far a request has come. -/
inductive Stage (c : Configuration) (now : Instant) (r : Request) : Answering Outcome → Prop
  /-- It neither has a session nor asks for one. -/
  | apart {p : Answering Outcome}
    (h : p.Obeys LeavesSessions (fun _ _ => True) fun outcome => ∃ x, outcome = .response x) : Stage c now r p
  | opening {requestId : String} {user : UserId} (h : Names c now r user) :
    Stage c now r (.ask (.openSession user) (handover now requestId r user))
  | opened {session : SessionId} {user : UserId} (h : Names c now r user) :
    Stage c now r (.done (.upgraded session user))
  /-- The handshake has failed. -/
  | closing {session : SessionId} {x : Response} :
    Stage c now r (.ask (.closeSession session) fun _ => .done (.response x))

theorem held_of_leaves_sessions {p : Answering Outcome} {A : (q : Ask) → signature.Reply q → Prop}
    (h : p.Obeys LeavesSessions A fun outcome => ∃ x, outcome = .response x) : held p = [] := by
  cases p with
  | done outcome =>
    obtain ⟨x, rfl⟩ := h
    rfl
  | ask q next =>
    cases q with
    | closeSession session => exact absurd rfl (h.1.2 session)
    | _ => rfl

theorem serve_stage (c : Configuration) (now : Instant) (fresh : String) (r : Request) :
    Stage c now r (serve c now fresh r) ∧ held (serve c now fresh r) = [] := by
  rcases serve_cases c now fresh r with he | ⟨hmethod, hpath, he⟩ | ⟨x, he, hx⟩
  · obtain ⟨body, hrefusal⟩ := refusal_eq now
    rw [he, hrefusal]
    exact ⟨.apart ⟨_, rfl⟩, rfl⟩
  · rcases openSocket_cases c now (requestIdOf r fresh) hmethod hpath with
      ⟨x, hsocket⟩ | ⟨user, hnames, hsocket⟩
    · rw [he, hsocket]
      exact ⟨.apart ⟨x, rfl⟩, rfl⟩
    · rw [he, hsocket]
      exact ⟨.opening hnames, rfl⟩
  · have hpassing : (serve c now fresh r).Obeys LeavesSessions (fun _ _ => True)
        fun outcome => ∃ x, outcome = .response x := by
      rw [he]
      exact (hx fun _ _ => True).bind fun reply _ => ⟨⟨reply.status, reply.body, _⟩, rfl⟩
    exact ⟨.apart hpassing, held_of_leaves_sessions hpassing⟩

end Http

/-- A request under way, with what is left of its program. -/
structure Visit where
  request : Http.Request
  came : Instant
  rest : Http.Answering Http.Outcome

namespace Visit

def start (c : Configuration) (now : Instant) (fresh : String) (r : Http.Request) : Visit :=
  ⟨r, now, Http.serve c now fresh r⟩

def holds (v : Visit) : List SessionId := Http.held v.rest

end Visit

/-! ## Steps -/

/-- A server with requests under way. What was `opened` and `accepted` is for
the record: no step looks at it. -/
structure Traffic (B : Backend) where
  server : Server B
  visits : List Visit := []
  /-- The request for which a session got its socket, and when it came. -/
  opened : SessionId → Option (Http.Request × Instant) := fun _ => none
  /-- The frames that the queue of a session was given. -/
  accepted : SessionId → List String := fun _ => []

namespace Traffic

variable {B : Backend}

/-- Answers a question. -/
def ask (s : Traffic B) (q : Ask) : Traffic B :=
  { s with
    server := (Server.answer q s.server).2
    accepted := fun id => s.accepted id ++ s.server.hub.given id q }

/-- Puts another hub in place. -/
def withHub (s : Traffic B) (h : Hub) : Traffic B := { s with server := { s.server with hub := h } }

/-- Puts a socket in place of the one of its session. -/
def putSocket (s : Traffic B) (w : Socket) : Traffic B := { s with server := s.server.putSocket w }

/-- Hands a session over to its socket, in answer to a request. -/
def handOver (s : Traffic B) (v : Visit) (session : SessionId) (user : UserId) : Traffic B :=
  { s with
    server := s.server.openSocket session user
    opened := Function.update s.opened session (some (v.request, v.came)) }

/-- What the service does by itself. -/
inductive Work : Traffic B → Traffic B → Prop
  /-- A question of a request is answered. -/
  | turn {s : Traffic B} {front behind : List Visit} {v : Visit} {q : Ask}
    {next : signature.Reply q → Http.Answering Http.Outcome} (hv : s.visits = front ++ v :: behind)
    (hrest : v.rest = .ask q next) :
    Work s { s.ask q with
      visits := front ++ { v with rest := next (Server.answer q s.server).1 } :: behind }
  /-- A request gets its response. -/
  | respond {s : Traffic B} {front behind : List Visit} {v : Visit} {x : Http.Response}
    (hv : s.visits = front ++ v :: behind) (hrest : v.rest = .done (.response x)) :
    Work s { s with visits := front ++ behind }
  /-- A request gets its socket. -/
  | upgrade {s : Traffic B} {front behind : List Visit} {v : Visit} {session : SessionId} {user : UserId}
    (hv : s.visits = front ++ v :: behind) (hrest : v.rest = .done (.upgraded session user)) :
    Work s { s.handOver v session user with visits := front ++ behind }
  /-- A socket takes the next frame that waits for it, or the end. -/
  | take {s : Traffic B} {w : Socket} (hw : w ∈ s.server.sockets) (hopen : w.isOpen = true)
    (hread : (s.server.hub.read w.session).1 ≠ .empty) :
    Work s ((s.withHub (s.server.hub.read w.session).2).putSocket
      (w.deliver (s.server.hub.read w.session).1))
  /-- The session of a socket that has stopped is ended. -/
  | release {s : Traffic B} {w : Socket} (hw : w ∈ s.server.sockets) (hclosed : w.isOpen = false)
    (hlive : (s.server.hub.session? w.session).isSome) :
    Work s { s with server := (s.server.command (.unregister w.session)).2 }

/-- What happens around the service, at any time. -/
inductive Incident : Traffic B → Traffic B → Prop
  | arrive {s : Traffic B} (fresh : String) (r : Http.Request) :
    Incident s { s with
      visits := s.visits ++ [Visit.start s.server.configuration s.server.now fresh r] }
  /-- A client goes away whose request holds no session. One that holds a session goes on to
  its response or its socket. -/
  | giveUp {s : Traffic B} {front behind : List Visit} {v : Visit} (hv : s.visits = front ++ v :: behind)
    (hholds : v.holds = []) : Incident s { s with visits := front ++ behind }
  /-- A client is gone when a session is about to be handed over. -/
  | vanish {s : Traffic B} (user : UserId) :
    Incident s { s with server := (s.server.command (.register user true)).2 }
  /-- Something else in the service asks a question, such as a relay that
  offers a frame. -/
  | ask {s : Traffic B} (q : Ask) (hq : Http.LeavesSessions q) : Incident s (s.ask q)
  /-- A client sends something. -/
  | hear {s : Traffic B} {w : Socket} (hw : w ∈ s.server.sockets) (m : Incoming) :
    Incident s (s.putSocket (w.receive s.server.configuration.socket s.server.now m).1)
  /-- The timers of a socket go off. -/
  | beat {s : Traffic B} {w : Socket} (hw : w ∈ s.server.sockets) :
    Incident s (s.putSocket (w.beat s.server.configuration.socket s.server.now s.server.tick))
  /-- A socket takes all frames that wait for it at once. -/
  | takeAll {s : Traffic B} {w : Socket} (hw : w ∈ s.server.sockets) (hopen : w.isOpen = true) :
    Incident s ((s.withHub (s.server.hub.readAll w.session).2.2).putSocket
      ((s.server.hub.readAll w.session).1.foldl (fun w frame => w.deliver (.frame frame)) w))
  /-- The reader of a socket that has stopped goes away. -/
  | leave {s : Traffic B} {w : Socket} (hw : w ∈ s.server.sockets) (hclosed : w.isOpen = false) :
    Incident s (s.withHub (s.server.hub.dropReader w.session))
  /-- The reaper comes, if it is due. -/
  | wake {s : Traffic B} : Incident s (s.withHub (s.server.hub.wake s.server.tick))
  | shutdown {s : Traffic B} : Incident s { s with server := (s.server.command .shutdown).2 }
  /-- The clocks move, and others change the directory and the archive. -/
  | elsewhere {s : Traffic B} (directory : Directory) (archive : B.State) (now recallTime : Instant)
    (tick : Tick) :
    Incident s { s with
      server := { s.server with directory := directory, archive := archive, now := now,
                                recallTime := recallTime, tick := tick } }

/-- A step of either kind. -/
def Step (s s' : Traffic B) : Prop := Work s s' ∨ Incident s s'

/-- What can come behind a state. -/
def Reaches : Traffic B → Traffic B → Prop := Relation.ReflTransGen Step

/-- What the service can come to by itself. -/
def Works : Traffic B → Traffic B → Prop := Relation.ReflTransGen Work

/-- No work is left. -/
def Settled (s : Traffic B) : Prop := ∀ s', ¬ Work s s'

end Traffic

/-! ## Sockets -/

namespace Socket

variable {w w' : Socket}

/-- A socket goes on: it is of the same session and user, and while it is open
it has sent what it had sent, and more. -/
structure Continues (w w' : Socket) : Prop where
  session : w'.session = w.session
  user : w'.user = w.user
  more : w'.isOpen = true → w.isOpen = true ∧ w.sent <+: w'.sent

theorem Continues.refl (w : Socket) : w.Continues w := ⟨rfl, rfl, fun hopen => ⟨hopen, List.prefix_refl _⟩⟩

theorem Continues.trans {w'' : Socket} (h : w.Continues w') (h' : w'.Continues w'') : w.Continues w'' := by
  refine ⟨h'.session.trans h.session, h'.user.trans h.user, fun hopen => ?_⟩
  obtain ⟨hopen', hsent'⟩ := h'.more hopen
  obtain ⟨hopen'', hsent⟩ := h.more hopen'
  exact ⟨hopen'', hsent.trans hsent'⟩

theorem continues_stop : w.Continues w.stop := ⟨rfl, rfl, nofun⟩

theorem continues_send (out : Outgoing) : w.Continues (w.send out) :=
  ⟨rfl, rfl, fun hopen => ⟨hopen, List.prefix_append _ _⟩⟩

theorem continues_hear (now : Instant) : w.Continues (w.hear now) :=
  ⟨rfl, rfl, fun hopen => ⟨hopen, List.prefix_refl _⟩⟩

theorem handle_continues (now : Instant) (e : ClientEvent) : w.Continues (w.handle now e).1 := by
  cases e with
  | ping => exact continues_send _
  | _ => exact .refl w

theorem receive_continues (settings : SocketSettings) (now : Instant) (m : Incoming) :
    w.Continues (w.receive settings now m).1 := by
  have hheard : w.Continues (w.hear now) := continues_hear now
  unfold receive
  split
  · exact .refl w
  split
  · exact continues_stop
  cases m with
  | text text =>
    simp only
    split
    · exact hheard.trans (handle_continues now _)
    · exact hheard
  | ping payload => exact hheard.trans (continues_send _)
  | pong payload => exact hheard
  | close reason => exact ⟨rfl, rfl, nofun⟩
  | malformed | gone => exact continues_stop
  | binary | fragments => exact .refl w

theorem beat_continues (settings : SocketSettings) (now : Instant) (tick : Tick) :
    w.Continues (w.beat settings now tick) := by
  unfold beat
  split
  · exact .refl w
  · split
    · exact .refl w
    · split
      · exact continues_stop
      · exact ⟨rfl, rfl, fun hopen => ⟨hopen, List.prefix_append _ _⟩⟩

theorem deliverAll_eq (frames : List String) : frames.foldl (fun w frame => w.deliver (.frame frame)) w =
    { w with sent := w.sent ++ frames.map .text } := by
  induction frames generalizing w with
  | nil => simp
  | cons frame frames ih =>
    rw [List.foldl_cons, ih]
    simp [deliver, send]

end Socket
end Parley
