/-
Sockets and sessions match.

When no request is under way and the sessions of stopped sockets are ended,
settling all sockets does all the work that is left (`Traffic.settled_settle`).
The main result puts together what holds in every state that a server can come to
from its start (`Traffic.sockets_match`).
-/
import Parley.Proofs.Traffic.Endings
import Parley.Proofs.Traffic.Operations
import Parley.Proofs.Traffic.Settling

namespace Parley

/-! ## Settling all sockets -/

namespace Server

variable {B : Backend} {s s' s'' : Server B} {u w : Socket} {id : SessionId}

/-- What belongs to a session is left alone. -/
structure Spares (s s' : Server B) (id : SessionId) : Prop where
  waiting : s'.hub.waiting id = s.hub.waiting id
  session : s'.hub.session? id = s.hub.session? id
  socket : ∀ u ∈ s'.sockets, u.session = id → u ∈ s.sockets

theorem Spares.trans (h : s.Spares s' id) (h' : s'.Spares s'' id) : s.Spares s'' id where
  waiting := h'.waiting.trans h.waiting
  session := h'.session.trans h.session
  socket u hu hid := h.socket u (h'.socket u hu hid) hid

theorem emptied_spares (hne : id ≠ w.session) : s.Spares (s.emptied w) id :=
  ⟨Hub.waiting_updateQueue_of_ne hne, rfl, fun _ hu _ => hu⟩

theorem putSocket_spares (hne : id ≠ w.session) : s.Spares (s.putSocket w) id := by
  refine ⟨rfl, rfl, fun u hu hid => ?_⟩
  obtain ⟨v, hv, rfl⟩ := List.mem_map.mp hu
  split at hid
  · exact absurd hid.symm hne
  · next he =>
    rw [if_neg he]
    exact hv

theorem release_spares (hs : s.hub.Sound) (hne : id ≠ w.session) : s.Spares (s.release w) id := by
  refine ⟨?_, ?_, fun u hu _ => s.release_sockets w ▸ hu⟩
  · have hwaiting : (s.hub.take s.tick (.unregister w.session)).2.waiting id = s.hub.waiting id :=
      hs.waiting_take nofun
    unfold Server.release
    split
    · rfl
    · exact (Hub.waiting_updateQueue_of_ne hne).trans hwaiting
  · have hsession := hs.session?_release s.tick w.session id
    rw [if_neg hne] at hsession
    unfold Server.release
    split
    · rfl
    · exact hsession

theorem drain_spares (hs : s.hub.Sound) (hne : id ≠ w.session) : s.Spares (s.drain w) id := by
  cases hopen : w.isOpen with
  | false =>
    have hsame : s.drain w = s := if_neg (by simp [hopen])
    rw [hsame]
    exact ⟨rfl, rfl, fun _ hu _ => hu⟩
  | true =>
    cases hlive : s.hub.session? w.session with
    | some x =>
      rw [drain_of_live hopen (by rw [hlive]; rfl)]
      exact (emptied_spares hne).trans (putSocket_spares hne)
    | none =>
      have hput : s.Spares ((s.emptied w).putSocket ((s.served w).deliver .ended)) id :=
        (emptied_spares hne).trans (putSocket_spares hne)
      rw [drain_of_ended hopen hlive]
      exact hput.trans (release_spares (emptied_sound hs) hne)

/-- A socket has nothing to do: it finds nothing yet, or its session is ended. -/
structure Rests (s : Server B) (w : Socket) : Prop where
  taken : w.isOpen = true → (s.hub.read w.session).1 = .empty
  ended : w.isOpen = false → s.hub.session? w.session = none

theorem Rests.spared (h : s.Rests u) (hspares : s.Spares s' u.session) : s'.Rests u := by
  refine ⟨fun hopen => ?_, fun hclosed => hspares.session.trans (h.ended hclosed)⟩
  rw [← h.taken hopen, Hub.read_fst, Hub.read_fst, hspares.waiting, hspares.session]

theorem session?_release (hs : s.hub.Sound) (hclosed : w.isOpen = false) (id : SessionId) :
    (s.release w).hub.session? id = if id = w.session then none else s.hub.session? id := by
  split
  · next he => exact he ▸ release_ended hs hclosed
  · next hne => exact (release_spares hs hne).session

theorem drain_rests (hs : s.hub.Sound) (distinct : (s.sockets.map (·.session)).Nodup) (hw : w ∈ s.sockets)
    (hended : w.isOpen = false → s.hub.session? w.session = none) (hu : u ∈ (s.drain w).sockets)
    (hsession : u.session = w.session) : (s.drain w).Rests u := by
  have hput : ∀ w' : Socket, w'.session = w.session → u ∈ ((s.emptied w).putSocket w').sockets → u = w' := by
    intro w' he hu
    rcases (mem_putSocket (s := s.emptied w) hw he).mp hu with rfl | ⟨-, hne⟩
    · rfl
    · exact absurd hsession hne
  cases hopen : w.isOpen with
  | false =>
    have hsame : s.drain w = s := if_neg (by simp [hopen])
    rw [hsame] at hu ⊢
    obtain rfl : u = w := eq_of_session distinct hu hw hsession
    exact ⟨fun h => absurd (hopen.symm.trans h) (by decide), hended⟩
  | true =>
    cases hlive : s.hub.session? w.session with
    | some x =>
      rw [drain_of_live hopen (by rw [hlive]; rfl)] at hu ⊢
      obtain rfl : u = s.served w := hput _ rfl hu
      refine ⟨fun _ => ?_, fun h => absurd (hopen.symm.trans h) (by decide)⟩
      have hread := Traffic.read_of_nothing (emptied_nothing (s := s) (w := w))
      have hstill : (s.emptied w).hub.session? w.session = some x := hlive
      rw [hstill] at hread
      exact congrArg Prod.fst hread
    | none =>
      rw [drain_of_ended hopen hlive] at hu ⊢
      rw [release_sockets] at hu
      obtain rfl : u = (s.served w).deliver .ended := hput _ rfl hu
      have hsound : ((s.emptied w).putSocket ((s.served w).deliver .ended)).hub.Sound := emptied_sound hs
      exact ⟨nofun, fun _ => release_ended hsound rfl⟩

end Server

namespace Traffic

open Time (Instant)

variable {B : Backend} {s s' : Traffic B} {w : Socket} {id : SessionId}

theorem drainAll_rests (hs : s.Kept) (ws : List Socket) (hws : ∀ w ∈ ws, w ∈ s.server.sockets)
    (distinct : (ws.map (·.session)).Nodup)
    (hended : ∀ w ∈ ws, w.isOpen = false → s.server.hub.session? w.session = none) :
    (∀ id, id ∉ ws.map (·.session) → s.server.Spares (ws.foldl Server.drain s.server) id) ∧
      ∀ u ∈ (ws.foldl Server.drain s.server).sockets, u.session ∈ ws.map (·.session) →
        (ws.foldl Server.drain s.server).Rests u := by
  induction ws generalizing s with
  | nil => exact ⟨fun id _ => ⟨rfl, rfl, fun _ hu _ => hu⟩, nofun⟩
  | cons w ws ih =>
    obtain ⟨hw, hrest⟩ := List.forall_mem_cons.mp hws
    obtain ⟨hnew, hdistinct⟩ := List.nodup_cons.mp distinct
    obtain ⟨s', run, hserver, -⟩ := comes_drain hs hw
    have hs' : s'.Kept := hs.reaches run
    have hspares : ∀ id, id ≠ w.session → s.server.Spares s'.server id := fun id hne =>
      hserver ▸ Server.drain_spares hs.sound hne
    have hne : ∀ u ∈ ws, u.session ≠ w.session := fun u hu he => hnew (List.mem_map.mpr ⟨u, hu, he⟩)
    have hmem : ∀ u ∈ ws, u ∈ s'.server.sockets := fun u hu =>
      hserver ▸ tends_drain.others hs hw (hrest u hu) (hne u hu)
    obtain ⟨hspared, hrests⟩ := ih hs' hmem hdistinct fun u hu hclosed => by
      rw [(hspares _ (hne u hu)).session]
      exact hended u (List.mem_cons_of_mem _ hu) hclosed
    rw [List.foldl_cons, ← hserver]
    refine ⟨fun id hid => ?_, fun u hu hsession => ?_⟩
    · obtain ⟨hfirst, hlater⟩ := not_or.mp (List.mem_cons.not.mp hid)
      exact (hspares id hfirst).trans (hspared id hlater)
    · by_cases hlater : u.session ∈ ws.map (·.session)
      · exact hrests u hu hlater
      · have hfirst : u.session = w.session := (List.mem_cons.mp hsession).resolve_right hlater
        have hthere : u ∈ s'.server.sockets := (hspared _ hlater).socket u hu rfl
        have hrested : s'.server.Rests u := by
          rw [hserver] at hthere ⊢
          exact Server.drain_rests hs.sound hs.distinct hw (hended w List.mem_cons_self) hthere hfirst
        exact hrested.spared (hspared _ hlater)

theorem settled_of_rests (hvisits : s.visits = []) (hrests : ∀ w ∈ s.server.sockets, s.server.Rests w) :
    s.Settled := by
  intro s' work
  cases work with
  | turn hv | respond hv | upgrade hv => simp [hvisits] at hv
  | take hw hopen hread => exact hread ((hrests _ hw).taken hopen)
  | release hw hclosed hlive => simp [(hrests _ hw).ended hclosed] at hlive

/-- **Settling all sockets does all work that is left**, when no request is under
way and the sessions of stopped sockets are ended. -/
theorem settled_settle (hs : s.Kept) (hended : s.server.Released) (hserver : s'.server = s.server.settle) (hvisits : s'.visits = []) :
    s'.Settled := by
  obtain ⟨hspares, hrests⟩ := drainAll_rests hs s.server.sockets (fun _ hw => hw) hs.distinct hended
  refine settled_of_rests hvisits fun u hu => ?_
  rw [hserver] at hu ⊢
  refine hrests u hu ?_
  by_contra hnew
  exact hnew (List.mem_map_of_mem ((hspares _ hnew).socket u hu rfl))

/-! ## At any time -/

/-- **How sockets and sessions match.** -/
structure Matches (s : Traffic B) : Prop where
  /-- Work comes to an end, whatever is done first. -/
  ends : Acc (fun s' s => Work s s') s
  settles : ∃ s', s.Works s' ∧ s'.Settled
  /-- When no work is left, the sessions are those of the open sockets. -/
  corresponds : s.Settled →
    s.server.hub.members.Perm ((s.server.sockets.filter (·.isOpen)).map Socket.seat)
  /-- No two sockets have one session. -/
  distinct : (s.server.sockets.map (·.session)).Nodup
  /-- The user of a socket is the one whom the token of its request names. -/
  named : ∀ w ∈ s.server.sockets, ∃ r came, s.opened w.session = some (r, came) ∧
    Http.Names s.server.configuration came r w.user
  /-- A request that does not get its socket leaves the sessions as they were. -/
  unopened : ∀ fresh r, r.path = "/ws" →
    (∀ session user, (s.server.serve fresh r).1 ≠ .upgraded session user) →
    (s.server.serve fresh r).2.hub.sessions = s.server.hub.sessions ∧
      (s.server.serve fresh r).2.hub.users = s.server.hub.users
  /-- With a socket that has stopped goes its own session, and no other. -/
  released : ∀ w ∈ s.server.sockets, w.isOpen = false → ∀ id,
    (s.server.release w).hub.session? id = if id = w.session then none else s.server.hub.session? id
  /-- Whatever happens, a session ends for a reason of its own. -/
  caused : ∀ s' id, s.Step s' → (s.server.hub.session? id).isSome → s'.server.hub.session? id = none →
    s.Cause s' id
  /-- What the queue of an open socket was given has been sent in this order, or waits. -/
  streamed : ∀ w ∈ s.server.sockets, w.isOpen = true → ∃ passed,
    s.accepted w.session = passed ++ s.server.hub.waiting w.session ∧ (passed.map .text).Sublist w.sent
  /-- A socket whose session the hub has ended sends what waits, and closes. -/
  evicted : ∀ w ∈ s.server.sockets, w.isOpen = true → s.server.hub.session? w.session = none →
    ∀ s', s.Works s' → s'.Settled → ∃ w' ∈ s'.server.sockets, w'.session = w.session ∧ w'.isOpen = false ∧
      w'.sent = w.sent ++ (s.server.hub.waiting w.session).map .text ++
        [.close (some (Socket.goingAway, none))]

theorem Kept.matches (hs : s.Kept) : s.Matches where
  ends := hs.acc
  settles := hs.settles
  corresponds := hs.corresponds
  distinct := hs.distinct
  named := hs.named
  unopened _ _ hpath := Server.serve_sessions_eq hs.sound hpath
  released _ _ hclosed := Server.session?_release hs.sound hclosed
  caused _ _ step := hs.cause step
  streamed := hs.sent
  evicted _ hw hopen hended _ works hsettled := hs.evicted hw hopen hended works hsettled

/-- A server without requests under way. -/
def start (server : Server B) : Traffic B := { server := server }

/-- What holds in every state that can be reached. -/
def Always (P : Traffic B → Prop) (s : Traffic B) : Prop := ∀ s', s.Reaches s' → P s'

/-- **Sockets and sessions match** in every state that a server can come to from
its start, in whatever order requests, clients, frames, timers, the reaper and the end of
the hub come. So they do behind all operations of a server, when its sockets have settled.

A client may go away as long as its request holds no session (`Incident.giveUp`), or when
the hub is about to hand one over (`Incident.vanish`). That a client goes away between the
hub's answer and the handshake stands outside: the session would then have no socket that
ends it, and only the reaper would. -/
theorem sockets_match (configuration : Configuration) (directory : Directory) (archive : B.State)
    (now : Instant) :
    (start (Server.start configuration directory archive now)).Always Matches ∧
    ∀ ops : List Server.Operation,
      let server := (ops.foldl Server.operate (Server.start configuration directory archive now)).settle
      server.hub.members.Perm ((server.sockets.filter (·.isOpen)).map Socket.seat) := by
  have hstart : (start (Server.start configuration directory archive now)).Kept :=
    kept_start configuration directory archive now
  refine ⟨fun s run => (hstart.reaches run).matches, fun ops => ?_⟩
  have hreleased : (Server.start configuration directory archive now).Released := nofun
  have hleads := leads_operations hstart ops
  obtain ⟨s, run, hserver, hvisits⟩ := hleads.comes
  have hs : s.Kept := hstart.reaches run
  obtain ⟨s', run', hserver', hvisits'⟩ := (leads_settle hs).comes
  have hidle : s'.visits = [] := hvisits'.trans hvisits
  have hended : s.server.Released := hserver ▸ hleads.released hreleased
  have hsettled : s'.Settled := settled_settle hs hended hserver' hidle
  have hcorresponds := (hs.reaches run').corresponds hsettled
  rw [hserver', hserver] at hcorresponds
  exact hcorresponds

end Traffic
end Parley
