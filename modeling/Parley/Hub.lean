/-
The hub of live sessions.

A user may have several sessions. Each has a queue of frames that wait for
its reader; a session whose queue is full, or whose reader is gone, is
evicted when a frame is offered to it, and the reaper evicts sessions that
are idle for too long. A queue outlives its session: what waits in it can
still be read, and then it ends.

Commands are taken one at a time. Once the hub has stopped, every command
gets the answer of a hub without sessions.
-/
import Parley.Settings
import Parley.Surroundings

namespace Parley

/-- A moment on the clock of timers, in milliseconds. -/
abbrev Tick := Nat

/-- A live session. -/
structure Session where
  user : UserId
  lastSeen : Tick
deriving DecidableEq, Repr

/-- The frames that wait for the reader of a session. -/
structure Queue where
  waiting : List String := []
  /-- Whether there still is a reader. -/
  reading : Bool := true
deriving DecidableEq, Repr

structure Hub where
  settings : HubSettings
  sessions : List (SessionId × Session) := []
  /-- The sessions of each user who has one. -/
  users : List (UserId × List SessionId) := []
  /-- The queues of all sessions that ever were. -/
  queues : List (SessionId × Queue) := []
  nextId : SessionId := 0
  running : Bool := true
  /-- When the reaper comes next. -/
  nextReap : Tick := 0
deriving Repr

namespace Hub

/-- The greatest number of frames that a queue can be made for. -/
def greatestQueue : Nat := 0x1FFFFFFFFFFFFFFF

/-- A hub at a time. Without an interval for the reaper it stops at once. One
that is to make greater queues than there can be stops at the first session,
and has nothing else to tell before. -/
def start (settings : HubSettings) (now : Tick) : Hub :=
  { settings := settings
    running := 0 < settings.reapInterval && settings.outboundQueue ≤ greatestQueue
    nextReap := now + settings.reapInterval }

/-! ## Looking up -/

def session? (h : Hub) (id : SessionId) : Option Session := h.sessions.lookup id

def queue? (h : Hub) (id : SessionId) : Option Queue := h.queues.lookup id

/-- The sessions of a user. -/
def sessionsOf (h : Hub) (user : UserId) : List SessionId := (h.users.lookup user).getD []

/-- The number of frames that may wait for a session. -/
def capacity (h : Hub) : Nat := max 1 h.settings.outboundQueue

def stats (h : Hub) : HubStats := ⟨h.users.length, h.sessions.length⟩

/-! ## Changing the indexes -/

/-- Adds a session to those of a user. -/
def addUser (user : UserId) (id : SessionId) :
    List (UserId × List SessionId) → List (UserId × List SessionId)
  | [] => [(user, [id])]
  | (u, ids) :: rest =>
    if u = user then (u, ids ++ [id]) :: rest else (u, ids) :: addUser user id rest

/-- Takes a session from those of a user, and the user if none is left. -/
def removeUser (user : UserId) (id : SessionId) :
    List (UserId × List SessionId) → List (UserId × List SessionId)
  | [] => []
  | (u, ids) :: rest =>
    if u = user then
      let ids := ids.filter (· ≠ id)
      if ids.isEmpty then rest else (u, ids) :: rest
    else (u, ids) :: removeUser user id rest

/-- Opens a session. -/
def register (h : Hub) (user : UserId) (now : Tick) : SessionId × Hub :=
  let id := h.nextId
  (id,
    { h with
      sessions := h.sessions ++ [(id, ⟨user, now⟩)]
      users := addUser user id h.users
      queues := h.queues ++ [(id, {})]
      nextId := id + 1 })

/-- Ends a session; an unknown one is passed over. -/
def unregister (h : Hub) (id : SessionId) : Hub :=
  match h.session? id with
  | none => h
  | some s =>
    { h with
      sessions := h.sessions.filter fun p => p.1 ≠ id
      users := removeUser s.user id h.users }

/-- Notes that a session was active. -/
def touch (h : Hub) (id : SessionId) (now : Tick) : Hub :=
  { h with
    sessions := h.sessions.map fun (i, s) => if i = id then (i, { s with lastSeen := now }) else (i, s) }

/-- Changes the queue of a session. -/
def updateQueue (h : Hub) (id : SessionId) (f : Queue → Queue) : Hub :=
  { h with queues := h.queues.map fun (i, q) => if i = id then (i, f q) else (i, q) }

/-- Whether a session takes one more frame. -/
def accepts (h : Hub) (id : SessionId) : Bool :=
  match h.queue? id with
  | some q => q.reading && q.waiting.length < h.capacity
  | none => false

/-- Offers a frame to the sessions of a user, and evicts those that do not
take it: whether one took it. -/
def offer (h : Hub) (user : UserId) (frame : String) : Bool × Hub :=
  let ids := h.sessionsOf user
  let taking := ids.filter h.accepts
  let refusing := ids.filter fun id => !h.accepts id
  let h' := taking.foldl
    (fun h id => h.updateQueue id fun q => { q with waiting := q.waiting ++ [frame] }) h
  (!taking.isEmpty, refusing.foldl unregister h')

/-- Evicts the sessions that are idle for too long. -/
def reap (h : Hub) (now : Tick) : Hub :=
  let stale := h.sessions.filter fun p => h.settings.staleAfter < now - p.2.lastSeen
  (stale.map (·.1)).foldl unregister h

/-- Ends all sessions. -/
def closeAll (h : Hub) : Hub := { h with sessions := [], users := [] }

/-! ## Commands -/

inductive Command where
  /-- Opens a session; the caller may be gone when it is handed over. -/
  | register (user : UserId) (callerGone : Bool)
  | unregister (id : SessionId)
  | touch (id : SessionId)
  | offer (user : UserId) (frame : String)
  | isOnline (user : UserId)
  | stats
  /-- Stops the hub, as it stops when nobody is left to send commands. -/
  | shutdown
deriving DecidableEq, Repr

/-- What a command is answered with. -/
inductive Answer where
  | session (id : Option SessionId)
  | delivered (b : Bool)
  | online (b : Bool)
  | stats (s : HubStats)
  | done
deriving DecidableEq, Repr

/-- The answer of a hub that has stopped. -/
def stopped : Command → Answer
  | .register _ _ => .session none
  | .offer _ _ => .delivered false
  | .isOnline _ => .online false
  | .stats => .stats ⟨0, 0⟩
  | .unregister _ | .touch _ | .shutdown => .done

/-- Takes a command at a time. -/
def take (h : Hub) (now : Tick) (c : Command) : Answer × Hub :=
  if h.running then
    match c with
    | .register user callerGone =>
      let (id, h) := h.register user now
      if callerGone then (.session none, h.unregister id) else (.session (some id), h)
    | .unregister id => (.done, h.unregister id)
    | .touch id => (.done, h.touch id now)
    | .offer user frame => let (taken, h) := h.offer user frame; (.delivered taken, h)
    | .isOnline user => (.online (h.users.lookup user).isSome, h)
    | .stats => (.stats h.stats, h)
    | .shutdown => (.done, { h.closeAll with running := false })
  else (stopped c, h)

/-- Lets the reaper come, if it is due. It comes once however late it is. -/
def wake (h : Hub) (now : Tick) : Hub :=
  if h.running ∧ h.nextReap ≤ now then
    { h.reap now with nextReap := now + h.settings.reapInterval }
  else h

/-! ## Reading a queue -/

/-- What a reader finds in its queue. -/
inductive Reading where
  | frame (text : String)
  /-- Nothing yet. -/
  | empty
  /-- Nothing any more. -/
  | ended
deriving DecidableEq, Repr

/-- Takes the first frame that waits for a session. -/
def read (h : Hub) (id : SessionId) : Reading × Hub :=
  match h.queue? id with
  | some ⟨frame :: rest, reading⟩ => (.frame frame, h.updateQueue id fun _ => ⟨rest, reading⟩)
  | _ => (if (h.session? id).isSome then .empty else .ended, h)

/-- Takes all frames that wait for a session, and tells whether it has ended. -/
def readAll (h : Hub) (id : SessionId) : List String × Bool × Hub :=
  let waiting := ((h.queue? id).map (·.waiting)).getD []
  (waiting, (h.session? id).isNone, h.updateQueue id fun q => { q with waiting := [] })

/-- Ends reading: what waits is lost. -/
def dropReader (h : Hub) (id : SessionId) : Hub := h.updateQueue id fun _ => ⟨[], false⟩

/-! ## Calls -/

/-- The failure of calls that need a running hub. -/
def stoppedFailure : Failure := .unavailable "connection hub stopped"

/-- Opens a session for a user, or tells that the hub has stopped. -/
def open? (h : Hub) (user : UserId) (now : Tick) : Except Failure SessionId × Hub :=
  match h.take now (.register user false) with
  | (.session (some id), h) => (.ok id, h)
  | (_, h) => (.error stoppedFailure, h)

/-- Offers a frame by command. -/
def send (h : Hub) (user : UserId) (frame : String) (now : Tick) : Bool × Hub :=
  match h.take now (.offer user frame) with
  | (.delivered taken, h) => (taken, h)
  | (_, h) => (false, h)

/-- Whether a user has a session, by command. -/
def online (h : Hub) (user : UserId) (now : Tick) : Bool :=
  match (h.take now (.isOnline user)).1 with
  | .online b => b
  | _ => false

/-- The numbers of users and sessions, by command. -/
def count (h : Hub) (now : Tick) : HubStats :=
  match (h.take now .stats).1 with
  | .stats s => s
  | _ => ⟨0, 0⟩

end Hub
end Parley
