/-
What a client can do to others through its socket.

A text on a socket writes nothing, and only a ping is answered, on the socket
itself. An event for another user (`ClientEvent.Addresses`) is told to that user
if a message was ever stored between the two (`System.Met`), and what is told
names the user of the socket (`ClientEvent.Addresses.signed`). `Server.Confined`
says so of a text that is dealt with at once, and `System.Relays` of a relay that
takes its turns among other calls. Since what was stored stays, two users who
had met when the relay began are found to have met at its turn (`Run.finds`).
-/
import Parley.Proofs.Concern
import Parley.Proofs.Framing
import Parley.Proofs.Retirement
import Parley.Proofs.Traffic.Operations

namespace Parley

open Surroundings (Ask signature)
open Text (IntRange)

/-! ## Events for another user -/

namespace ClientEvent

variable {user target : UserId} {client : ClientEvent} {event : Envelope} {text : String}

/-- The event is for another user, and this is what that user is told. -/
inductive Addresses (user target : UserId) : ClientEvent → Envelope → Prop
  | typing : Addresses user target (.typing target) ⟨EventKind.typing, .obj [("from_user_id", .int user)]⟩
  /-- The conversation that was read is the one of the two. -/
  | readReceipt {conversation : String} {message : Option Int}
    (pair : Pair.ofId? conversation = some (min user target, max user target)) :
    Addresses user target (.readReceipt target conversation message)
      ⟨EventKind.readReceipt, .obj [("from_user_id", .int user), ("conversation_id", .str conversation),
        ("message_id", Json.ofOption .int message)]⟩

theorem Addresses.effectsOf (h : client.Addresses user target event) (positive : 0 < target)
    (other : target ≠ user) : Socket.effectsOf user client = [.relay target event] := by
  cases h with
  | typing => exact if_neg (not_or.mpr ⟨Int.not_le.mpr positive, other⟩)
  | readReceipt pair =>
    refine if_pos ?_
    rw [Pair.counterpart?_of_ofId? pair (by omega)]
    congr 1
    split <;> omega

theorem addresses_of_effectsOf (h : Socket.effectsOf user client = [.relay target event]) :
    client.Addresses user target event := by
  unfold Socket.effectsOf at h
  cases client with
  | ping => cases h
  | typing target' =>
    simp only at h
    split at h
    · cases h
    · cases h
      exact .typing
  | readReceipt target' conversation message =>
    simp only at h
    split at h
    · next hother =>
      cases h
      obtain ⟨low, high, hread, huser⟩ := Pair.counterpart?_eq_some_iff.mp hother
      have hle := (Pair.ofId?_bounds hread).2.1
      refine .readReceipt ?_
      rw [hread, Option.some.injEq, Prod.mk.injEq]
      omega
    · cases h

theorem bounds_of_orNull {v : Json} {m : Int} (h : Json.Record.orNull Json.int64? v = some (some m)) :
    IntRange.int64.least ≤ m ∧ m ≤ IntRange.int64.greatest := by
  cases v with
  | int i => exact Text.IntRange.bounds_of_check (by simpa [Json.Record.orNull, Json.int64?, Json.int?] using h)
  | null => cases h
  | _ => simp [Json.Record.orNull, Json.int64?, Json.int?] at h

theorem message_bounds {conversation : String} {m : Int}
    (h : ofText? text = some (.readReceipt target conversation (some m))) :
    IntRange.int64.least ≤ m ∧ m ≤ IntRange.int64.greatest := by
  obtain ⟨v, -, h⟩ := Option.bind_eq_some_iff.mp h
  obtain ⟨⟨name, fields⟩, -, h⟩ := Option.bind_eq_some_iff.mp h
  simp only [ofFields?] at h
  split at h
  · simp at h
  split at h
  · simp [Option.bind_eq_some_iff] at h
  split at h
  · obtain ⟨r, -, h⟩ := Option.bind_eq_some_iff.mp h
    obtain ⟨_, -, h⟩ := Option.bind_eq_some_iff.mp h
    obtain ⟨_, -, h⟩ := Option.bind_eq_some_iff.mp h
    obtain ⟨message, hmessage, h⟩ := Option.bind_eq_some_iff.mp h
    cases h
    unfold Json.Record.defaulted at hmessage
    split at hmessage
    · exact bounds_of_orNull hmessage
    · cases hmessage
  · cases h

theorem Addresses.signed (h : client.Addresses user target event) (hread : ofText? text = some client)
    (huser : IntRange.int64.contains user = true) : ∃ content,
      Envelope.ofFrame? event.frame = some ⟨event.kind, content⟩ ∧
        content.member? "from_user_id" = some (.int user) := by
  have hfits : ∀ i : Int, IntRange.int64.least ≤ i ∧ i ≤ IntRange.int64.greatest → (Json.int i).Fits :=
    fun i hi => ⟨hi.1, hi.2.trans (by decide)⟩
  have huser := hfits user (IntRange.contains_iff.mp huser)
  cases h with
  | typing =>
    refine ⟨_, Envelope.ofFrame?_frame ?_ rfl, rfl⟩
    exact .obj (by simpa using Json.Readable.scalar huser)
  | @readReceipt conversation message pair =>
    have hmessage : (Json.ofOption .int message).Fits := by
      cases message with
      | none => trivial
      | some m => exact hfits m (message_bounds hread)
    have hnormal : (Json.obj [("from_user_id", .int user), ("conversation_id", .str conversation),
        ("message_id", Json.ofOption .int message)]).normal = .obj [("conversation_id", .str conversation),
          ("from_user_id", .int user), ("message_id", Json.ofOption .int message)] := by
      cases message <;> simp +decide [Json.normal, Json.normalMembers, Json.insertMember, Json.ofOption]
    refine ⟨_, Envelope.ofFrame?_frame ?_ ?_, ?_⟩
    · refine .obj ?_
      simpa using ⟨Json.Readable.scalar huser, Json.Readable.str _, Json.Readable.scalar hmessage⟩
    · rw [hnormal]
      cases message <;> rfl
    · rw [hnormal]
      rfl

end ClientEvent

/-! ## A text on a socket -/

namespace Socket

variable {settings : SocketSettings} {now : Time.Instant} {text : String} {w : Socket}

theorem receive_tooLong (hopen : w.isOpen = true) (hlong : settings.greatestFrame < text.utf8ByteSize) :
    w.receive settings now (.text text) = (w.stop, []) := by
  have hrefused : isRefused settings (.text text) = true := by simp [isRefused, frameSizes, hlong]
  simp [receive, hopen, hrefused]

theorem receive_text (hopen : w.isOpen = true) (hfits : text.utf8ByteSize ≤ settings.greatestFrame) :
    w.receive settings now (.text text) =
      ((ClientEvent.ofText? text).elim (w.hear now) fun client => ((w.hear now).handle now client).1,
        .touch :: (ClientEvent.ofText? text).elim [] (effectsOf w.user)) := by
  have hrefused : isRefused settings (.text text) = false := by simp [isRefused, frameSizes, hfits]
  simp only [receive, hopen, hrefused]
  cases ClientEvent.ofText? text with
  | none => rfl
  | some client => cases client <;> rfl

end Socket

/-! ## Queues behind an offer -/

namespace Hub

variable {h : Hub} {user : UserId} {frame : String} {now : Tick} {id i : SessionId}

theorem queues_take_touch : (h.take now (.touch id)).2.queues = h.queues := by
  unfold take
  split <;> rfl

theorem queues_take_unregister : (h.take now (.unregister id)).2.queues = h.queues := by
  unfold take
  split
  · exact queues_unregister
  · rfl

theorem Sound.queue?_send (hs : h.Sound) : (h.send user frame now).2.queue? i = h.queue? i ∨
    (∃ x, h.session? i = some x ∧ x.user = user) ∧ (h.send user frame now).2.waiting i = h.waiting i ++ [frame] := by
  rw [send_snd]
  cases hrunning : h.running with
  | false => simp [take_of_stopped hrunning]
  | true =>
    simp only [Hub.take, hrunning, if_true]
    rw [hs.toIndexed.waiting_offer, hs.toIndexed.queue?_offer]
    by_cases htook : i ∈ h.sessionsOf user ∧ h.accepts i
    · exact .inr ⟨(hs.index i user).mp htook.1, if_pos htook⟩
    · simp [htook]

theorem Sound.queue?_touch_send (hs : h.Sound) :
    ((h.take now (.touch id)).2.send user frame now).2.queue? i = h.queue? i ∨
      (∃ x, h.session? i = some x ∧ x.user = user) ∧
        ((h.take now (.touch id)).2.send user frame now).2.waiting i = h.waiting i ++ [frame] := by
  have hqueues : (h.take now (.touch id)).2.queues = h.queues := queues_take_touch
  have htouched : (h.take now (.touch id)).2.Sound := hs.take _
  rcases htouched.queue?_send with hkept | ⟨⟨x, hx, huser⟩, hput⟩
  · exact .inl (hkept.trans (congrArg (List.lookup i) hqueues))
  · obtain ⟨x₀, hx₀, huser₀⟩ := only_take (c := .touch id) nofun i x hx
    exact .inr ⟨⟨x₀, hx₀, huser₀.trans huser⟩, hput.trans (by rw [waiting_of_queues hqueues])⟩

end Hub

/-! ## The server behind a message -/

namespace Server

variable {s : Server Backend.memory} {session : SessionId} {w w' : Socket} {text : String}

theorem socket?_session (hw : s.socket? session = some w) : w.session = session := by
  simpa using List.find?_some hw

theorem socket?_putSocket (i : SessionId) : (s.putSocket w').socket? i =
    (s.socket? i).map fun w => if i = w'.session then w' else w := by
  have hkept : ((fun v : Socket => v.session == i) ∘ fun v => if v.session = w'.session then w' else v) =
      fun v => v.session == i := by
    funext v
    simp only [Function.comp_apply]
    split
    · next he => rw [he]
    · rfl
  rw [socket?, putSocket, List.find?_map, hkept]
  refine Option.map_congr fun v hv => ?_
  rw [socket?_session hv]

theorem receive_eq (hw : s.socket? session = some w) (m : Incoming) : s.receive session m =
    ((s.run (w.performAll (w.receive s.configuration.socket s.now m).2)).2.putSocket
      (w.receive s.configuration.socket s.now m).1).release (w.receive s.configuration.socket s.now m).1 := by
  simp only [receive, hw, run_react]

theorem receive_socket? (hw : s.socket? session = some w) (m : Incoming) (i : SessionId) :
    (s.receive session m).socket? i =
      if i = session then some (w.receive s.configuration.socket s.now m).1 else s.socket? i := by
  have hsession : (w.receive s.configuration.socket s.now m).1.session = session :=
    (w.receive_continues _ _ m).session.trans (socket?_session hw)
  have hsockets := run_sockets (s := s) (w.performAll (w.receive s.configuration.socket s.now m).2)
  rw [receive_eq hw, socket?, release_sockets, ← socket?, socket?_putSocket, hsession, socket?, hsockets, ← socket?]
  split
  · next he => rw [he, hw, Option.map_some]
  · exact Option.map_id'

/-- **A relay offers its event if the two share a conversation**, and does
nothing else. -/
theorem run_relay (s : Server Backend.memory) (user target : UserId) (event : Envelope) :
    ∃ now, (s.run (relay user target event).run).2 =
      { s with
        now := now
        hub := if ¬(user ≤ 0 ∨ target ≤ 0 ∨ user = target) ∧ (s.store.row? (Pair.ownerKey user target)).isSome
          then (s.hub.send target event.frame s.tick).2 else s.hub } := by
  obtain ⟨now, hshares⟩ := s.run_sharesConversation user target
  refine ⟨now, ?_⟩
  rw [relay, run_bind_ok hshares]
  by_cases h : ¬(user ≤ 0 ∨ target ≤ 0 ∨ user = target) ∧ (s.store.row? (Pair.ownerKey user target)).isSome
  · rw [if_pos h, decide_eq_false h.1, h.2]
    rfl
  · have hnot : (!decide (user ≤ 0 ∨ target ≤ 0 ∨ user = target) &&
        (s.store.row? (Pair.ownerKey user target)).isSome) = false := by simpa using h
    rw [if_neg h, hnot]
    rfl

theorem receive_store (session : SessionId) (m : Incoming) : (s.receive session m).store = s.store := by
  rcases tended_receive session m with tended | ⟨w, target, event, s₁, -, -, before, behind⟩
  · exact tended.store
  · obtain ⟨now, hrun⟩ := s₁.run_relay w.user target event
    rw [hrun] at behind
    exact Eq.trans behind.store before.store

theorem receive_tooLong_queue? (hw : s.socket? session = some w) (hopen : w.isOpen = true)
    (hlong : s.configuration.socket.greatestFrame < text.utf8ByteSize) {id : SessionId} (hne : id ≠ w.session) :
    (s.receive session (.text text)).hub.queue? id = s.hub.queue? id := by
  rw [receive_eq hw, Socket.receive_tooLong hopen hlong]
  change ((s.hub.take s.tick (.unregister w.session)).2.dropReader w.session).queue? id = _
  rw [Hub.dropReader, Hub.queue?_updateQueue, Hub.queue?, Hub.queues_take_unregister, ← Hub.queue?]
  simp [hne]

theorem receive_text_hub (hw : s.socket? session = some w) (hopen : w.isOpen = true)
    (hfits : text.utf8ByteSize ≤ s.configuration.socket.greatestFrame) :
    (s.receive session (.text text)).hub =
      (s.run (w.performAll (.touch :: (ClientEvent.ofText? text).elim [] (Socket.effectsOf w.user)))).2.hub := by
  rw [receive_eq hw, Socket.receive_text hopen hfits, release, if_pos]
  · rfl
  · cases ClientEvent.ofText? text with
    | none => exact hopen
    | some client => cases client <;> exact hopen

/-! ## What a text does -/

/-- What a text does on a socket, where `met` are those with whom its user has
exchanged a message. -/
structure Confined (met : UserId → Prop) (w : Socket) (text : String) (s s' : Server Backend.memory) : Prop where
  /-- Nothing is written. -/
  store : s'.store = s.store
  /-- No other socket is sent anything. -/
  bystanders : ∀ i, i ≠ w.session → s'.socket? i = s.socket? i
  /-- A text for which no frame is long enough ends its own socket. -/
  tooLong : s.configuration.socket.greatestFrame < text.utf8ByteSize →
    s'.socket? w.session = some w.stop ∧ ∀ id, id ≠ w.session → s'.hub.queue? id = s.hub.queue? id
  /-- A text that is no event is passed over. -/
  noise : text.utf8ByteSize ≤ s.configuration.socket.greatestFrame → ClientEvent.ofText? text = none →
    s'.socket? w.session = some (w.hear s.now) ∧ s'.hub.queues = s.hub.queues
  /-- A ping is answered by one pong on its own socket. -/
  ping : text.utf8ByteSize ≤ s.configuration.socket.greatestFrame → ClientEvent.ofText? text = some .ping →
    s'.socket? w.session =
        some { w with heard := s.now, sent := w.sent ++ [.text (Envelope.pong s.now.second).frame] } ∧
      s'.hub.queues = s.hub.queues
  /-- Another event changes no queue, or is told to one other user, whom the
  user of the socket has met, and each queue is given it at most once. -/
  told : text.utf8ByteSize ≤ s.configuration.socket.greatestFrame →
    ∀ client, ClientEvent.ofText? text = some client → client ≠ .ping →
      s'.socket? w.session = some (w.hear s.now) ∧
      (s'.hub.queues = s.hub.queues ∨ ∃ target event, client.Addresses w.user target event ∧
        0 < target ∧ target ≠ w.user ∧ met target ∧
        (IntRange.int64.contains w.user = true → ∃ content,
          Envelope.ofFrame? event.frame = some ⟨event.kind, content⟩ ∧
            content.member? "from_user_id" = some (.int w.user)) ∧
        ∀ id, s'.hub.queue? id = s.hub.queue? id ∨
          (∃ x, s.hub.session? id = some x ∧ x.user = target) ∧
            s'.hub.waiting id = s.hub.waiting id ++ [event.frame])
  /-- What is for a user who was met is offered to all sessions of that user. -/
  offered : text.utf8ByteSize ≤ s.configuration.socket.greatestFrame →
    ∀ client target event, ClientEvent.ofText? text = some client → client.Addresses w.user target event →
      0 < target → target ≠ w.user → met target → s.hub.running = true →
        ∃ taken, (s.hub.touch w.session s.tick).Fanout s'.hub target event.frame taken

end Server

namespace System

variable {settings : MessageSettings} {calls : List Call} {server : Server Backend.memory}
  {t : List Event} {s : System} {session : SessionId} {w : Socket}

/-- At one of the turns a message between the two was stored. -/
def Met (t : List Event) (a b : UserId) : Prop := ∃ e ∈ t, ∃ m, e.stored? = some m ∧ m.Between a b

theorem Run.met_iff (run : Run Server.StoreKept (System.start settings calls server) t s)
    (fresh : server.store = .empty) {a b : UserId} :
    Met t a b ↔ (s.store.row? (Pair.ownerKey a b)).isSome = true := by
  rw [(run.inOrder fresh).rows]
  constructor
  · rintro ⟨e, he, m, hstored, hbetween⟩
    obtain ⟨n, hn, rfl⟩ := run.mem_of_stored fresh he hstored
    exact ⟨n, hn, hbetween⟩
  · rintro ⟨m, hm, hbetween⟩
    obtain ⟨e, he, hstored⟩ := run.stored_of_mem fresh hm
    exact ⟨e, he, m.fixed, hstored, hbetween⟩

theorem Run.met_pos (run : Run Server.StoreKept (System.start settings calls server) t s)
    (fresh : server.store = .empty) {a b : UserId} (met : Met t a b) : 0 < a ∧ 0 < b := by
  obtain ⟨e, he, m, hstored, hbetween⟩ := met
  obtain ⟨n, hn, rfl⟩ := run.mem_of_stored fresh he hstored
  have hchecked := (run.inOrder fresh).checked n hn
  rcases hbetween with ⟨rfl, rfl⟩ | ⟨rfl, rfl⟩
  · exact ⟨hchecked.sender, hchecked.recipient⟩
  · exact ⟨hchecked.recipient, hchecked.sender⟩

theorem Run.shares_iff (run : Run Server.StoreKept (System.start settings calls server) t s)
    (fresh : server.store = .empty) {a b : UserId} :
    ¬(a ≤ 0 ∨ b ≤ 0 ∨ a = b) ∧ (s.store.row? (Pair.ownerKey a b)).isSome = true ↔
      0 < b ∧ b ≠ a ∧ Met t a b := by
  rw [← run.met_iff fresh, not_or, not_or, Int.not_le, Int.not_le]
  constructor
  · rintro ⟨⟨-, positive, other⟩, met⟩
    exact ⟨positive, Ne.symm other, met⟩
  · rintro ⟨positive, other, met⟩
    exact ⟨⟨(run.met_pos fresh met).1, positive, Ne.symm other⟩, met⟩

theorem Run.relayed_hub (run : Run Server.StoreKept (System.start settings calls server) t s)
    (fresh : server.store = .empty) (w : Socket) (target : UserId) (event : Envelope) :
    let touched := (s.server.hub.take s.server.tick (.touch w.session)).2
    let behind := (s.server.run (w.performAll [.touch, .relay target event])).2.hub
    (0 < target ∧ target ≠ w.user ∧ Met t w.user target → behind = (touched.send target event.frame s.server.tick).2) ∧
      (¬(0 < target ∧ target ≠ w.user ∧ Met t w.user target) → behind = touched) := by
  intro touched behind
  obtain ⟨now, hrun⟩ := (s.server.command (.touch w.session)).2.run_relay w.user target event
  have hbehind : behind = _ := congrArg Server.hub (Server.run_relaying w target event)
  rw [hbehind, hrun, ← run.shares_iff fresh]
  exact ⟨fun h => if_pos h, fun h => if_neg h⟩

theorem Run.event_reaches (run : Run Server.Tended (System.start settings calls server) t s)
    (fresh : server.store = .empty) (sound : server.hub.Sound) (w : Socket) (client : ClientEvent) :
    let behind := (s.server.run (w.performAll (.touch :: Socket.effectsOf w.user client))).2.hub
    behind.queues = s.server.hub.queues ∨ ∃ target event, client.Addresses w.user target event ∧
      0 < target ∧ target ≠ w.user ∧ Met t w.user target ∧
      ∀ id, behind.queue? id = s.server.hub.queue? id ∨ (∃ x, s.server.hub.session? id = some x ∧ x.user = target) ∧
        behind.waiting id = s.server.hub.waiting id ++ [event.frame] := by
  intro behind
  rcases Socket.effectsOf_cases w.user client with hquiet | ⟨target, event, hrelays⟩
  · simp only [behind, hquiet]
    exact .inl Hub.queues_take_touch
  · obtain ⟨hoffered, hdropped⟩ := (run.mono fun _ _ h => h.store).relayed_hub fresh w target event
    by_cases hmet : 0 < target ∧ target ≠ w.user ∧ Met t w.user target
    · obtain ⟨positive, other, met⟩ := hmet
      refine .inr ⟨target, event, ClientEvent.addresses_of_effectsOf hrelays, positive, other, met, fun id => ?_⟩
      simp only [behind, hrelays, hoffered ⟨positive, other, met⟩]
      exact (run.hub_sound sound).queue?_touch_send
    · simp only [behind, hrelays, hdropped hmet]
      exact .inl Hub.queues_take_touch

theorem Run.event_offered (run : Run Server.Tended (System.start settings calls server) t s)
    (fresh : server.store = .empty) (sound : server.hub.Sound) (w : Socket) {client : ClientEvent} {target : UserId}
    {event : Envelope} (addresses : client.Addresses w.user target event) (positive : 0 < target)
    (other : target ≠ w.user) (met : Met t w.user target) (running : s.server.hub.running = true) :
    ∃ taken, (s.server.hub.touch w.session s.server.tick).Fanout
      (s.server.run (w.performAll (.touch :: Socket.effectsOf w.user client))).2.hub target event.frame taken := by
  have htouch : (s.server.hub.take s.server.tick (.touch w.session)).2 =
      s.server.hub.touch w.session s.server.tick := by simp [Hub.take, running]
  have hoffered := ((run.mono fun _ _ h => h.store).relayed_hub fresh w target event).1 ⟨positive, other, met⟩
  rw [addresses.effectsOf positive other, hoffered, htouch]
  exact ⟨_, (run.hub_sound sound).touch.fanout_send target event.frame s.server.tick⟩

/-- **What a client sends is confined.** -/
theorem Run.confined (run : Run Server.Tended (System.start settings calls server) t s)
    (fresh : server.store = .empty) (sound : server.hub.Sound) (hw : s.server.socket? session = some w)
    (hopen : w.isOpen = true) (text : String) :
    s.server.Confined (Met t w.user) w text (s.server.receive session (.text text)) := by
  have hsession := Server.socket?_session hw
  have hown : (s.server.receive session (.text text)).socket? w.session =
      some (w.receive s.server.configuration.socket s.server.now (.text text)).1 := by
    rw [Server.receive_socket? hw, if_pos hsession]
  constructor
  case store => exact Server.receive_store _ _
  case bystanders =>
    intro i hne
    rw [Server.receive_socket? hw, if_neg (hsession ▸ hne)]
  case tooLong =>
    intro hlong
    refine ⟨?_, fun id hne => Server.receive_tooLong_queue? hw hopen hlong hne⟩
    rw [hown, Socket.receive_tooLong hopen hlong]
  case noise =>
    intro hfits hread
    rw [hown, Socket.receive_text hopen hfits, Server.receive_text_hub hw hopen hfits, hread]
    exact ⟨rfl, Hub.queues_take_touch⟩
  case ping =>
    intro hfits hread
    rw [hown, Socket.receive_text hopen hfits, Server.receive_text_hub hw hopen hfits, hread]
    exact ⟨rfl, Hub.queues_take_touch⟩
  case told =>
    intro hfits client hread hne
    rw [hown, Socket.receive_text hopen hfits, Server.receive_text_hub hw hopen hfits, hread]
    refine ⟨?_, (run.event_reaches fresh sound w client).imp_right ?_⟩
    · cases client with
      | ping => exact absurd rfl hne
      | _ => rfl
    · rintro ⟨target, event, haddresses, positive, other, met, hqueues⟩
      exact ⟨target, event, haddresses, positive, other, met, haddresses.signed hread, hqueues⟩
  case offered =>
    intro hfits client target event hread haddresses positive other met running
    rw [Server.receive_text_hub hw hopen hfits, hread]
    exact run.event_offered fresh sound w haddresses positive other met running

/-! ## Relays that take turns -/

/-- The row of one user for another is found. -/
def Finds (user target : UserId) : (q : Ask) → signature.Reply q → Prop
  | .archive (.row a b), r => a = user → b = target → ∃ row, r = .ok (some row)
  | _, _ => True

section

open Parley.Action (obeys_pure obeys_bind)

variable {A : (q : Ask) → signature.Reply q → Prop} {P : Ask → Prop} {user target : UserId} {event : Envelope}

theorem sharesConversation_decides (h : P (.archive (.row user target))) :
    (Messaging.sharesConversation user target).run.Obeys P A fun x =>
      (x = .ok true → 0 < target ∧ target ≠ user ∧ ∃ row, A (.archive (.row user target)) (.ok (some row))) ∧
      (0 < user → 0 < target → target ≠ user →
        (∀ r, A (.archive (.row user target)) r → ∃ row, r = .ok (some row)) → x = .ok true) := by
  unfold Messaging.sharesConversation
  split
  · next hnot =>
    refine obeys_pure ⟨nofun, fun hu ht hne => ?_⟩
    rcases hnot with hnot | hnot | hnot
    · exact absurd hu (Int.not_lt.mpr hnot)
    · exact absurd ht (Int.not_lt.mpr hnot)
    · exact absurd hnot.symm hne
  · next hnot =>
    obtain ⟨-, ht, hne⟩ := (not_or.mp hnot).imp_right not_or.mp
    refine ⟨h, fun r hr => ?_⟩
    match r with
    | .error f =>
      refine ⟨nofun, fun _ _ _ hfound => ?_⟩
      obtain ⟨row, he⟩ := hfound _ hr
      cases he
    | .ok none =>
      refine obeys_pure ⟨nofun, fun _ _ _ hfound => ?_⟩
      obtain ⟨row, he⟩ := hfound _ hr
      cases he
    | .ok (some row) =>
      exact obeys_pure ⟨fun _ => ⟨Int.not_le.mp ht, Ne.symm hne, row, hr⟩, fun _ _ _ _ => rfl⟩

theorem relay_rule : (relay user target event).run.Obeys
    (fun q : Ask => q = .archive (.row user target) ∨ q = .offer target event.frame ∧ 0 < target ∧ target ≠ user ∧
      ∃ row, A (.archive (.row user target)) (.ok (some row))) A
    fun _ => 0 < user → 0 < target → target ≠ user →
      (∀ r, A (.archive (.row user target)) r → ∃ row, r = .ok (some row)) →
        ∃ taken, A (.offer target event.frame) taken := by
  refine obeys_bind (sharesConversation_decides (.inl rfl)) (fun shared hshared => ?_) fun e he => ?_
  · cases shared with
    | false =>
      refine obeys_pure fun hu ht hne hfound => ?_
      cases hshared.2 hu ht hne hfound
    | true =>
      obtain ⟨ht, hne, hrow⟩ := hshared.1 rfl
      exact ⟨.inr ⟨rfl, ht, hne, hrow⟩, fun taken htaken _ _ _ _ => ⟨taken, htaken⟩⟩
  · intro hu ht hne hfound
    cases he.2 hu ht hne hfound

end

variable {t' : List Event} {s' : System} {i : Nat} {user target : UserId} {event : Envelope}

/-- What a relay does that takes its turns among those of other calls, from a
state in which it has not begun. -/
structure Relays (i : Nat) (user target : UserId) (event : Envelope) (t : List Event) (s : System) (t' : List Event)
    (s' : System) : Prop where
  /-- It looks up a row and offers its event to its target. -/
  asks : ∀ e ∈ t', e.caller = i → e.question = .archive (.row user target) ∨ e.question = .offer target event.frame
  once : t'.countP (fun e => e.caller == i && e.question.isOffer) ≤ 1
  /-- It offers to another user whom the user has met before. -/
  met : ∀ e ∈ t', e.caller = i → e.question.isOffer = true → 0 < target ∧ target ≠ user ∧
    ∃ t₁ t₂, t' ++ t = t₂ ++ e :: t₁ ∧ Met t₁ user target
  /-- If the two had met, the event is offered by the time it has ended. -/
  offered : 0 < target → target ≠ user → Met t user target →
    (∃ r, s'.callers[i]? = some ⟨.relay user target event, .done r⟩) → ∃ t₁ t₂ s₁ s₂ taken,
      Run Server.Tended s t₁ s₁ ∧ Step Server.Tended s₁ (some ⟨i, .offer target event.frame, taken⟩) s₂ ∧
      Run Server.Tended s₂ t₂ s' ∧ s₁.server.hub.Fanout s₂.server.hub target event.frame taken

theorem Met.append {a b : UserId} (met : Met t a b) (t' : List Event) : Met (t' ++ t) a b :=
  let ⟨e, he, hstored⟩ := met
  ⟨e, List.mem_append_right t' he, hstored⟩

theorem Run.finds (run : Run Server.StoreKept (System.start settings calls server) t s)
    (fresh : server.store = .empty) (met : Met t user target) {q : Ask} :
    Finds user target q (Server.answer q s.server).1 := by
  cases q with
  | archive q =>
    cases q with
    | row a b =>
      rintro rfl rfl
      obtain ⟨row, hrow⟩ := Option.isSome_iff_exists.mp ((run.met_iff fresh).mp met)
      exact ⟨row, congrArg Except.ok hrow⟩
    | _ => trivial
  | _ => trivial

theorem Run.relay_asks (run : Run Server.Tended (System.start settings calls server) t s)
    (fresh : server.store = .empty) (hi : calls[i]? = some (.relay user target event)) :
    ∀ e ∈ t, e.caller = i → e.question = .archive (.row user target) ∨
      e.question = .offer target event.frame ∧ 0 < target ∧ target ≠ user ∧
        ∃ t₁ t₂, t = t₂ ++ e :: t₁ ∧ Met t₁ user target := by
  intro e he hcaller
  obtain ⟨t₁, t₂, s₁, s₂, before, turn, -, hsplit⟩ := run.split he
  obtain ⟨call, next, hturn, -, -⟩ := turn.turn_of
  rw [hcaller] at hturn
  obtain rfl : call = .relay user target event := Option.some.inj ((before.call hturn).symm.trans hi)
  have kept := before.mono fun _ _ h => h.store
  rcases (kept.obeys hturn relay_rule kept.told).1 with hrow | ⟨hoffer, ht, hne, row, hfound⟩
  · exact .inl hrow
  · refine .inr ⟨hoffer, ht, hne, t₁, t₂, hsplit, (kept.met_iff fresh).mpr ?_⟩
    exact (kept.inOrder fresh).rows _ _ |>.mpr (kept.between_of_row fresh hfound.2)

theorem Run.relay_offers (run : Run Server.Tended (System.start settings calls server) t s)
    (fresh : server.store = .empty) (sound : server.hub.Sound) (idle : ∀ e ∈ t, e.caller ≠ i)
    (more : Run Server.Tended s t' s') (positive : 0 < target) (other : target ≠ user) (met : Met t user target)
    {r : Except Failure (Call.relay user target event).Answer}
    (hended : s'.callers[i]? = some ⟨.relay user target event, .done r⟩) :
    ∃ t₁ t₂ s₁ s₂ taken, Run Server.Tended s t₁ s₁ ∧
      Step Server.Tended s₁ (some ⟨i, .offer target event.frame, taken⟩) s₂ ∧
      Run Server.Tended s₂ t₂ s' ∧ s₁.server.hub.Fanout s₂.server.hub target event.frame taken := by
  -- All its turns come behind `t`, where the row of the two is found.
  have found : ∀ e ∈ t' ++ t, e.caller = i →
      Finds user target e.question e.reply ∧ ⟨i, e.question, e.reply⟩ ∈ t' := by
    intro e he hcaller
    rcases List.mem_append.mp he with he | he
    · obtain ⟨t₁, t₂, s₁, s₂, before, turn, -, -⟩ := more.split he
      obtain ⟨call, next, -, hreply, -⟩ := turn.turn_of
      rw [hreply]
      refine ⟨Run.finds ((run.trans before).mono fun _ _ h => h.store) fresh (met.append t₁), ?_⟩
      rw [← hreply, ← hcaller]
      exact he
    · exact absurd hcaller (idle e he)
  obtain ⟨taken, htaken⟩ := (run.trans more).obeys hended
    (relay_rule (A := fun q r => Finds user target q r ∧ ⟨i, q, r⟩ ∈ t')) found
    ((run.mono fun _ _ h => h.store).met_pos fresh met).1 positive other fun r hr => hr.1 rfl rfl
  obtain ⟨t₁, t₂, s₁, s₂, before, turn, behind, -⟩ := more.split htaken.2
  refine ⟨t₁, t₂, s₁, s₂, taken, before, turn, behind, ?_⟩
  obtain ⟨call, next, -, hreply, hserver⟩ := turn.turn_of
  obtain rfl : taken = (s₁.server.hub.send target event.frame s₁.server.tick).1 := hreply
  rw [hserver]
  exact ((run.trans before).hub_sound sound).fanout_send target event.frame s₁.server.tick

theorem Run.relays (run : Run Server.Tended (System.start settings calls server) t s)
    (fresh : server.store = .empty) (sound : server.hub.Sound) (hi : calls[i]? = some (.relay user target event))
    (idle : ∀ e ∈ t, e.caller ≠ i) (more : Run Server.Tended s t' s') :
    Relays i user target event t s t' s' := by
  have whole := run.trans more
  have asks := fun e he => whole.relay_asks fresh hi e (List.mem_append_left t he)
  constructor
  case asks => exact fun e he hcaller => (asks e he hcaller).imp_right And.left
  case once =>
    obtain ⟨rest, hrest⟩ := whole.caller hi
    have hcount := whole.asked_at_most hrest (Call.offers_once settings (.relay user target event))
    rw [List.countP_append] at hcount
    exact Nat.le_of_add_right_le hcount
  case met =>
    intro e he hcaller hoffer
    rcases asks e he hcaller with hrow | ⟨-, hmet⟩
    · rw [hrow] at hoffer
      cases hoffer
    · exact hmet
  case offered =>
    rintro positive other met ⟨r, hended⟩
    exact run.relay_offers fresh sound idle more positive other met hended

/-- **What clients send is confined.** However the calls before took turns, a
text on the socket of a user writes nothing; only a ping is answered, on the
socket itself; and an event is told to one other user at most, with whom the
user has exchanged a message, and names the user. If the two have, it is offered
to all sessions of the other. A relay that takes its turns among other calls
asks for no more and offers no less. -/
theorem texts_confined (fresh : server.store = .empty) (sound : server.hub.Sound)
    (run : Run Server.Tended (System.start settings calls server) t s)
    (hw : s.server.socket? session = some w) (hopen : w.isOpen = true) (text : String) :
    s.server.Confined (Met t w.user) w text (s.server.receive session (.text text)) ∧
    ∀ i target event t' s', calls[i]? = some (.relay w.user target event) → (∀ e ∈ t, e.caller ≠ i) →
      Run Server.Tended s t' s' → Relays i w.user target event t s t' s' :=
  ⟨run.confined fresh sound hw hopen text,
    fun _ _ _ _ _ hi idle more => run.relays fresh sound hi idle more⟩

/-- A user has written to another, whose socket is there. -/
def written : System :=
  System.start {} [.send ⟨2, 1, 1, "hello", none⟩] { Server.fresh [1, 2] with sockets := [writer] }

/-- A client that claims to be somebody else. -/
def forged : String := "\x7b\"type\":\"typing\",\"from_user_id\":9,\"to_user_id\":2\x7d"

/-- The other has never answered, and types under the number of a third user. -/
theorem texts_confined_of_forged_sender : ∃ t s, Run Server.Tended written t s ∧
    s.store.messages.map (fun m => (m.sender, m.recipient)) = [(2, 1)] ∧
    s.server.socket? 0 = some writer ∧ writer.isOpen = true ∧
    s.server.Confined (Met t 1) writer forged (s.server.receive 0 (.text forged)) ∧
    (s.server.receive 0 (.text forged)).hub.waiting 1 = [typing.frame] := by
  obtain ⟨t, run⟩ := Run.play (.nil : Run Server.Tended written [] written) [0, 0, 0, 0]
  have sound : written.server.hub.Sound := ((Hub.Sound.start _).register rfl).register rfl
  have hw : (written.play [0, 0, 0, 0]).server.socket? 0 = some writer := by with_unfolding_all rfl
  refine ⟨t, _, run, by decide +kernel, hw, rfl, (texts_confined rfl sound run hw rfl forged).1, ?_⟩
  decide +kernel

end System
end Parley
