/-
The running service: an archive, the hub, the sockets and the clocks.

A `Backend` says how the archive answers: `Backend.memory` is the store,
`Backend.database` runs scripts.
`Server.answer` answers what programs of the service ask. `settle` lets
every open socket take what the hub has for it, and ends the sessions of
sockets that have stopped; `advance` moves the clock of timers.
-/
import Parley.Database.Archive
import Parley.Directory
import Parley.Http.Service
import Parley.Socket
import Parley.Store

namespace Parley

open Time (Instant)

/-- What an archive holds, and how it answers at a time. -/
structure Backend where
  State : Type
  answer : Instant → Program.Handler Archive.signature State

/-- The archive in memory. -/
def Backend.memory : Backend := ⟨Store, Store.answer⟩

/-- The archive in a database, whose clock is its own. -/
def Backend.database {σ : Type} (h : Program.Handler Database.signature σ) : Backend :=
  ⟨σ, fun _ => Database.answer h⟩

structure Server (B : Backend) where
  configuration : Configuration
  directory : Directory
  archive : B.State
  hub : Hub
  sockets : List Socket := []
  /-- The time at which the next change is made. -/
  now : Instant
  /-- The time that decides about recalling. -/
  recallTime : Instant
  /-- The clock of timers. -/
  tick : Tick := 0

namespace Server

variable {B : Backend} {α : Type}

def start (configuration : Configuration) (directory : Directory) (archive : B.State)
    (now : Instant) : Server B :=
  { configuration := configuration, directory := directory, archive := archive,
    hub := Hub.start configuration.hub 0, now := now, recallTime := now }

/-! ## Answering programs -/

/-- The time between two changes, in nanoseconds. -/
def instantStep : Int := 100

/-- Answers a question to the archive. -/
def answerArchive (q : Archive.Ask) (s : Server B) : Archive.signature.Reply q × Server B :=
  let (reply, archive) := B.answer s.now q s.archive
  (reply, { s with archive := archive, now := s.now.later instantStep })

/-- Answers a question.

An offer is answered at once, by what the hub says. What asks for it would wait no longer
than `pushTimeout` and then go on as if nobody had taken the frame: to a program, an offer
that is late is one that is answered `false`. -/
def answer : Program.Handler Surroundings.signature (Server B)
  | .archive q, s => s.answerArchive q
  | .areFriends user target, s => (s.directory.areFriends user target, s)
  | .profile user, s => (s.directory.profile user, s)
  | .time, s => (s.recallTime, s)
  | .offer user frame, s =>
    let (taken, hub) := s.hub.send user frame s.tick
    (taken, { s with hub := hub })
  | .isOnline user, s => (s.hub.online user s.tick, s)
  | .stats, s => (s.hub.count s.tick, s)
  | .openSession user, s =>
    let (session, hub) := s.hub.open? user s.tick
    (session, { s with hub := hub })
  | .closeSession id, s => ((), { s with hub := (s.hub.take s.tick (.unregister id)).2 })
  | .touch id, s => ((), { s with hub := (s.hub.take s.tick (.touch id)).2 })

/-- Runs a program. -/
def run (s : Server B) (p : Program Surroundings.signature α) : α × Server B :=
  Program.run answer p s

/-- Sends a command to the hub. -/
def command (s : Server B) (c : Hub.Command) : Hub.Answer × Server B :=
  let (a, hub) := s.hub.take s.tick c
  (a, { s with hub := hub })

/-! ## Sockets -/

/-- The socket of a session. -/
def socket? (s : Server B) (session : SessionId) : Option Socket :=
  s.sockets.find? fun w => w.session == session

/-- Puts a socket in place of the one of its session. -/
def putSocket (s : Server B) (w : Socket) : Server B :=
  { s with sockets := s.sockets.map fun v => if v.session = w.session then w else v }

/-- Ends the session of a socket that has stopped. -/
def release (s : Server B) (w : Socket) : Server B :=
  if w.isOpen then s
  else
    let s := (s.command (.unregister w.session)).2
    { s with hub := s.hub.dropReader w.session }

/-- Lets an open socket take what the hub has for it. -/
def drain (s : Server B) (w : Socket) : Server B :=
  if w.isOpen then
    let (frames, ended, hub) := s.hub.readAll w.session
    let w := frames.foldl (fun w frame => w.deliver (.frame frame)) w
    let w := if ended then w.deliver .ended else w
    ({ s with hub := hub }.putSocket w).release w
  else s

/-- Lets every socket take what the hub has for it. -/
def settle (s : Server B) : Server B := s.sockets.foldl drain s

/-- Opens a socket for a session. -/
def openSocket (s : Server B) (session : SessionId) (user : UserId) : Server B :=
  let w := Socket.start s.configuration.socket session user s.now s.tick
  { s with sockets := s.sockets ++ [w] }

/-- Answers an HTTP request, and opens the socket that it asks for. -/
def serve (s : Server B) (fresh : String) (r : Http.Request) : Http.Outcome × Server B :=
  let (outcome, s) := s.run (Http.serve s.configuration s.now fresh r)
  match outcome with
  | .upgraded session user => (outcome, s.openSocket session user)
  | .response _ => (outcome, s)

/-- Hands a message of the client to the socket of a session. -/
def receive (s : Server B) (session : SessionId) (m : Incoming) : Server B :=
  match s.socket? session with
  | none => s
  | some w =>
    let (w, s) := s.run (w.react s.configuration.socket s.now m)
    (s.putSocket w).release w

/-- What a socket has sent since the last look. -/
def look (s : Server B) (session : SessionId) : List Outgoing × Server B :=
  match s.socket? session with
  | none => ([], s)
  | some w => (w.sent, s.putSocket { w with sent := [] })

/-! ## Timers -/

/-- Lets the timers of a socket go off. -/
def beatSocket (s : Server B) (w : Socket) : Server B :=
  let w := w.beat s.configuration.socket s.now s.tick
  (s.putSocket w).release w

/-- Moves the clock of timers: the timers of the sockets go off, the
reaper comes if it is due, and then the sockets take what the hub has for
them. -/
def advance (s : Server B) (by_ : Milliseconds) : Server B :=
  let s := { s with tick := s.tick + by_ }
  let s := s.sockets.foldl beatSocket s
  { s with hub := s.hub.wake s.tick }.settle

end Server
end Parley
