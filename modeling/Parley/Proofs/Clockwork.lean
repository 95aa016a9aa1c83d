/-
Sockets and the hub on one clock.

`Clockwork` is the hub with its queue of commands, which never fills, and
the sockets, on a clock of milliseconds. What happens at a time happens in
any order (`Act`): clients send, the hub is told things and takes them one
by one, sessions get their sockets, timers go off. Time passes only when
nothing is left to do at it (`AtRest`), so no timer is skipped, but nothing
says when in a millisecond it goes off.

For the record it is noted which clients owe an answer to a ping, which of
them let time pass, and when a client was last heard and a session last
touched. No act looks at the record.
-/
import Mathlib.Logic.Function.Basic
import Parley.Proofs.Hub.Presence
import Parley.Proofs.Traffic

namespace Parley

open Time (Instant)

/-- A text, a ping or a pong: what tells that a client is alive. -/
def Incoming.isSign : Incoming → Bool
  | .text _ | .ping _ | .pong _ => true
  | _ => false

def Incoming.isPong : Incoming → Bool
  | .pong _ => true
  | _ => false

structure Clockwork where
  settings : SocketSettings
  /-- When the clock was started. -/
  origin : Instant
  hub : Hub
  sockets : List Socket := []
  /-- Sessions that wait for their sockets, with their users. -/
  granted : List (SessionId × UserId) := []
  /-- What the hub was told and has not taken yet. -/
  commands : List Hub.Command := []
  time : Tick := 0
  /-- The sessions whose clients were sent a ping and have not answered. -/
  owing : List SessionId := []
  /-- The sessions whose clients have owed an answer when time passed. -/
  late : List SessionId := []
  /-- When a client last gave a sign of life, or its socket was opened. -/
  heardAt : SessionId → Tick := fun _ => 0
  /-- When the hub last took a touch of a session, or opened it. -/
  touchedAt : SessionId → Tick := fun _ => 0

namespace Clockwork

def start (hub : HubSettings) (socket : SocketSettings) (origin : Instant) : Clockwork :=
  { settings := socket, origin := origin, hub := Hub.start hub 0 }

/-! ## Acts -/

/-- The instant at a time of the clock. -/
def instantAt (s : Clockwork) (t : Tick) : Instant := s.origin.later ((t : Int) * 1000000)

def socket? (s : Clockwork) (id : SessionId) : Option Socket := s.sockets.find? fun w => w.session == id

/-- Puts a socket in place of the one of its session. -/
def putSocket (s : Clockwork) (w : Socket) : Clockwork :=
  { s with sockets := s.sockets.map fun v => if v.session = w.session then w else v }

/-- What can happen at a time. -/
inductive Act where
  /-- A client sends something. -/
  | hear (id : SessionId) (m : Incoming)
  /-- The timer of a socket goes off. -/
  | beat (id : SessionId)
  /-- A socket takes the next frame that waits for it, or the end. -/
  | read (id : SessionId)
  /-- The reader of a session goes away. -/
  | leave (id : SessionId)
  /-- The hub is told something, by whoever it may be. -/
  | tell (c : Hub.Command)
  /-- The hub takes the next command. -/
  | take
  /-- The timer of the reaper goes off. -/
  | reap
  /-- A session gets its socket. -/
  | connect (id : SessionId)
  /-- The client of a session is gone before there is a socket. -/
  | decline (id : SessionId)
  /-- Time passes. -/
  | pass
deriving DecidableEq

/-- What an effect tells the hub at once. An event that is passed on is told later. -/
def toldBy (id : SessionId) : Effect → Option Hub.Command
  | .touch => some (.touch id)
  | .relay _ _ => none

/-- An open socket hears its client. -/
def hearing (s : Clockwork) (w : Socket) (m : Incoming) : Clockwork :=
  let (w', effects) := w.receive s.settings (s.instantAt s.time) m
  { s.putSocket w' with
    commands := s.commands ++ effects.filterMap (toldBy w.session)
    owing := if m.isPong then s.owing.filter (· ≠ w.session) else s.owing
    heardAt := if m.isSign then Function.update s.heardAt w.session s.time else s.heardAt }

/-- The timer of a socket goes off. Whoever is sent a ping owes an answer. -/
def beating (s : Clockwork) (w : Socket) : Clockwork :=
  let w' := w.beat s.settings (s.instantAt s.time) s.time
  { s.putSocket w' with owing := if w'.sent = w.sent then s.owing else w.session :: s.owing }

/-- A socket takes what the hub has for its session. -/
def reading (s : Clockwork) (w : Socket) : Clockwork :=
  { s.putSocket (w.deliver (s.hub.read w.session).1) with hub := (s.hub.read w.session).2 }

/-- The session that the hub opened, with its user. -/
def opened? : Hub.Command → Hub.Answer → Option (SessionId × UserId)
  | .register user _, .session (some id) => some (id, user)
  | _, _ => none

/-- The session that a command opens or touches. -/
def seenBy? : Hub.Command → Hub.Answer → Option SessionId
  | .touch id, _ => some id
  | .register _ _, .session id => id
  | _, _ => none

/-- The hub takes a command. -/
def taking (s : Clockwork) (c : Hub.Command) (rest : List Hub.Command) : Clockwork :=
  let (answer, hub) := s.hub.take s.time c
  { s with
    hub := hub
    commands := rest
    granted := s.granted ++ (opened? c answer).toList
    touchedAt := match seenBy? c answer with
      | some id => Function.update s.touchedAt id s.time
      | none => s.touchedAt }

/-- What comes of an act. -/
def act (s : Clockwork) : Act → Clockwork
  | .hear id m =>
    match s.socket? id with
    | some w => if w.isOpen then s.hearing w m else s
    | none => s
  | .beat id =>
    match s.socket? id with
    | some w => s.beating w
    | none => s
  | .read id =>
    match s.socket? id with
    | some w => if w.isOpen then s.reading w else s
    | none => s
  | .leave id => { s with hub := s.hub.dropReader id }
  | .tell c => { s with commands := s.commands ++ [c] }
  | .take =>
    match s.commands with
    | c :: rest => s.taking c rest
    | [] => s
  | .reap => { s with hub := s.hub.wake s.time }
  | .connect id =>
    match s.granted.lookup id with
    | some user =>
      { s with
        granted := s.granted.filter fun g => g.1 ≠ id
        sockets := s.sockets ++ [Socket.start s.settings id user (s.instantAt s.time) s.time]
        heardAt := Function.update s.heardAt id s.time }
    | none => s
  | .decline id =>
    { s with granted := s.granted.filter fun g => g.1 ≠ id, commands := s.commands ++ [.unregister id] }
  | .pass => { s with time := s.time + 1, late := s.owing ++ s.late }

/-- Nothing is left to do at this time. -/
structure AtRest (s : Clockwork) : Prop where
  taken : s.commands = []
  connected : s.granted = []
  beaten : ∀ w ∈ s.sockets, w.isOpen = true → s.time < w.nextBeat
  /-- The session of a socket that has stopped is ended. -/
  released : ∀ w ∈ s.sockets, w.isOpen = false → s.hub.session? w.session = none
  reaped : s.hub.running = true → s.time < s.hub.nextReap

instance (s : Clockwork) : Decidable s.AtRest :=
  decidable_of_iff (s.commands = [] ∧ s.granted = [] ∧ (∀ w ∈ s.sockets, w.isOpen = true → s.time < w.nextBeat) ∧
      (∀ w ∈ s.sockets, w.isOpen = false → s.hub.session? w.session = none) ∧
      (s.hub.running = true → s.time < s.hub.nextReap))
    ⟨fun ⟨h₁, h₂, h₃, h₄, h₅⟩ => ⟨h₁, h₂, h₃, h₄, h₅⟩, fun h => ⟨h.1, h.2, h.3, h.4, h.5⟩⟩

/-- What can come behind the start. -/
inductive Reachable (hub : HubSettings) (socket : SocketSettings) (origin : Instant) : Clockwork → Prop
  | start : Reachable hub socket origin (start hub socket origin)
  | step {s : Clockwork} (before : Reachable hub socket origin s) (a : Act) (rest : a = .pass → s.AtRest) :
    Reachable hub socket origin (s.act a)

/-- Acts in their order, in which time passes only when nothing is left to do. -/
def Lawful (s : Clockwork) : List Act → Prop
  | [] => True
  | a :: acts => (a = .pass → s.AtRest) ∧ (s.act a).Lawful acts

instance decidableLawful (s : Clockwork) : (acts : List Act) → Decidable (s.Lawful acts)
  | [] => .isTrue trivial
  | a :: acts =>
    have := decidableLawful (s.act a) acts
    inferInstanceAs (Decidable ((a = .pass → s.AtRest) ∧ (s.act a).Lawful acts))

theorem Reachable.after {hub : HubSettings} {socket : SocketSettings} {origin : Instant} {s : Clockwork}
    (reached : Reachable hub socket origin s) {acts : List Act} (lawful : s.Lawful acts) :
    Reachable hub socket origin (acts.foldl act s) := by
  induction acts generalizing s with
  | nil => exact reached
  | cons a acts ih => exact ih (reached.step a lawful.1) lawful.2

end Clockwork
end Parley
