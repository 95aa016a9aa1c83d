/-
Where the frames in the queues of sessions come from.

A queue accepts a frame at a turn that offers it. `Call.Offers` lists what
each call offers: a send offers the message that it stored, once; recalling
and deleting offer their notices, which are told apart by their kind; an
event that is pushed or relayed is offered as it is. So the frame of a
stored message is accepted at one turn only, that of the send that stored
it (`Run.content_offered`).

That turn is not tied to the archive: nobody looks again whether the message
was recalled since it was stored. `recallRace` has two schedules in which
the content stands in a queue after the recall: it is accepted behind the
notice, or it was accepted before the recall and is not read yet.
-/
import Parley.Proofs.Frame
import Parley.Proofs.Hub.Tending
import Parley.Proofs.Lifecycle
import Parley.Proofs.Log

namespace Parley

open Surroundings (Ask signature)

/-! ## Around the calls -/

/-- The archive is as it was, and no queue holds a frame once more. -/
structure Server.Quiet (s s' : Server Backend.memory) : Prop where
  store : s.StoreKept s'
  queues : ∀ frame, ¬Hub.Gains frame s.hub s'.hub

theorem Server.Tended.quiet {s s' : Server Backend.memory} (h : s.Tended s') : s.Quiet s' :=
  ⟨h.store, fun _ => h.not_gains⟩

/-! ## What calls offer -/

/-- Whether a question is an offer. -/
def Surroundings.Ask.isOffer : Ask → Bool
  | .offer _ _ => true
  | _ => false

/-- All that is offered is as `O` says. -/
def OnlyOffers (O : UserId → String → Prop) : Ask → Prop
  | .offer user frame => O user frame
  | _ => True

/-- What a call may offer, by the answers that `A` admits. -/
def Call.Offers (A : (q : Ask) → signature.Reply q → Prop) : Call → UserId → String → Prop
  | .send _, user, frame => ∃ draft m,
    A (.archive (.store draft)) (.ok m) ∧ user = m.recipient ∧ frame = m.newFrame
  | .recallMessage _ _, _, frame =>
    ∃ content, frame = (Envelope.mk EventKind.messageRecalled content).frame
  | .deleteMessage _ _, _, frame =>
    ∃ content, frame = (Envelope.mk EventKind.messageDeleted content).frame
  | .push request, user, frame =>
    user = request.user ∧ frame = (Envelope.mk request.kind request.content).frame
  | .relay _ target event, user, frame => user = target ∧ frame = event.frame
  | _, _, _ => False

section

open Messaging

open Parley.Action (obeys_pure obeys_throw obeys_ofExcept obeys_bind)

variable {A : (q : Ask) → signature.Reply q → Prop} {O : UserId → String → Prop}
  {settings : MessageSettings}

theorem Messaging.send_offers {request : SendRequest}
    (h : ∀ draft m, A (.archive (.store draft)) (.ok m) → O m.recipient m.newFrame) :
    (send settings request).run.Obeys (OnlyOffers O) A fun _ => True :=
  send_rule (fun _ _ => trivial) (fun _ _ => trivial) h fun _ _ _ _ => trivial

theorem Messaging.retirement_offers {α : Type} {check : Message → Action Unit} {target : Status}
    {id : Int} {n : Nat} {next : Message → Action α}
    (hcheck : ∀ m, (check m).run.Obeys (OnlyOffers O) A fun _ => True)
    (hnext : ∀ m, (next m).run.Obeys (OnlyOffers O) A fun _ => True) :
    (existing id >>= fun m => retireChecked check target n m >>= next).run.Obeys (OnlyOffers O) A
      fun _ => True :=
  obeys_bind (existing_obeys trivial)
    (fun m _ => obeys_bind (retireChecked_asks (fun _ _ => trivial) hcheck n m)
      (fun m' _ => hnext m') fun _ _ => trivial) fun _ _ => trivial

/-- **Every call offers what its kind does**, however it is answered. -/
theorem Call.offers (settings : MessageSettings) (c : Call) :
    (c.action settings).run.Obeys (OnlyOffers (c.Offers A)) A fun _ => True := by
  cases c with
  | send request => exact send_offers fun draft m hm => ⟨draft, m, hm, rfl, rfl⟩
  | history viewer conversation before limit => exact history_obeys fun _ _ => trivial
  | conversations user page limit => exact Inbox.conversations_obeys (fun _ _ => trivial) fun _ => trivial
  | markRead reader conversation upTo => exact markRead_obeys trivial
  | recallMessage user id =>
    refine retirement_offers (fun m => ?_) fun m => ?_
    · exact (recallCheck_obeys trivial).imp fun _ _ => trivial
    · exact obeys_bind (notify_obeys fun content => ⟨content, rfl⟩) (fun _ _ => obeys_pure trivial)
        fun _ _ => trivial
  | deleteMessage user id =>
    refine retirement_offers (fun m => obeys_ofExcept trivial) fun m => ?_
    exact (notify_obeys fun content => ⟨content, rfl⟩).imp fun _ _ => trivial
  | unread user conversation => exact unread_obeys fun _ => trivial
  | sharesConversation user peer => exact sharesConversation_obeys trivial
  | push request => exact push_obeys ⟨rfl, rfl⟩
  | relay user target event => exact relay_obeys trivial fun _ _ _ => ⟨rfl, rfl⟩

end

section

open Messaging

open Parley.Action (asksAtMost_bind)

theorem Messaging.deliver_offers_once (m : Message) : (deliver m).run.AsksAtMost Ask.isOffer 1 := by
  refine .ask fun taken => ?_
  cases taken with
  | false => exact .done
  | true =>
    refine .free rfl fun r => ?_
    cases r with
    | error e => exact .done
    | ok moved => cases moved <;> exact .done

theorem Messaging.send_offers_once (settings : MessageSettings) (request : SendRequest) :
    (send settings request).run.AsksAtMost Ask.isOffer 1 := by
  refine (asksAtMost_bind (m := 0) (n := 1) .done fun draft => ?_).mono (by omega)
  refine (asksAtMost_bind (m := 0) (n := 1) (.free rfl fun _ => .done) fun friends => ?_).mono (by omega)
  cases friends with
  | false => exact .done
  | true =>
    have hstore : (storeRetrying draft (storeAttempts - 1)).run.AsksAtMost Ask.isOffer 0 :=
      (storeRetrying_obeys (P := fun q => q.isOffer = false) rfl _).asksAtMost
    exact (asksAtMost_bind hstore deliver_offers_once).mono (by omega)

end

/-- The call passes an event on whose frame has this text. -/
def Call.PassesOn (frame : String) : Call → Prop
  | .push request => (Envelope.mk request.kind request.content).frame = frame
  | .relay _ _ event => event.frame = frame
  | _ => False

/-- The event tells that a user types, or has read, and names the user. -/
def Envelope.IsFrom (e : Envelope) (user : UserId) : Prop :=
  (e.kind = EventKind.typing ∨ e.kind = EventKind.readReceipt) ∧
    ∃ rest, e.content = .obj (("from_user_id", .int user) :: rest)

theorem Socket.isFrom_of_effectsOf {user target : UserId} {client : ClientEvent} {event : Envelope}
    (h : .relay target event ∈ effectsOf user client) : event.IsFrom user := by
  unfold effectsOf at h
  cases client with
  | ping => cases h
  | typing target' =>
    simp only at h
    split at h
    · cases h
    · cases List.mem_singleton.mp h
      exact ⟨.inl rfl, _, rfl⟩
  | readReceipt target' conversation message =>
    simp only at h
    split at h
    · cases List.mem_singleton.mp h
      exact ⟨.inr rfl, _, rfl⟩
    · cases h

theorem Socket.isFrom_of_relayed {settings : SocketSettings} {now : Time.Instant} {i : Incoming}
    {w : Socket} {target : UserId} {event : Envelope}
    (h : .relay target event ∈ (w.receive settings now i).2) : event.IsFrom w.user := by
  rcases w.receive_effects settings now i with hnone | ⟨client, hclient⟩
  · rw [hnone] at h
    cases h
  · rw [hclient] at h
    exact isFrom_of_effectsOf (by simpa using h)

theorem Socket.relayed_ne_newFrame {settings : SocketSettings} {now : Time.Instant} {i : Incoming}
    {w : Socket} {target : UserId} {event : Envelope}
    (h : .relay target event ∈ (w.receive settings now i).2) (m : Message) : event.frame ≠ m.newFrame := by
  refine Envelope.frame_ne_newFrame ?_ m
  rcases (isFrom_of_relayed h).1 with hkind | hkind <;> rw [hkind] <;> decide

/-! ## Runs -/

namespace System

variable {settings : MessageSettings} {calls : List Call} {server : Server Backend.memory}
  {t : List Event} {s s' : System} {e : Option Event} {m : Message}

/-- **A queue accepts the frame of a stored message at one turn only**, that
of the send that stored it: it offers the message to its recipient, and has
offered nothing before. An event of the same text that is passed on is the
one exception. -/
theorem Run.content_offered (run : Run Server.Quiet (System.start settings calls server) t s)
    (fresh : server.store = .empty) {e₀ : Event} (he₀ : e₀ ∈ t) (stored : e₀.stored? = some m)
    (step : Step Server.Quiet s e s') (hgains : Hub.Gains m.newFrame s.server.hub s'.server.hub) :
    s'.store = s.store ∧ ∃ i c user taken, e = some ⟨i, .offer user m.newFrame, taken⟩ ∧
      calls[i]? = some c ∧
      (c.PassesOn m.newFrame ∨
        (∃ request, c = .send request) ∧ i = e₀.caller ∧ user = m.recipient ∧
          ∀ e' ∈ t, e'.caller = i → e'.question.isOffer = false) := by
  have hrun := run.mono fun _ _ h => h.store
  cases step with
  | elsewhere h => exact absurd hgains (h.queues _)
  | @turn callers server' i c q next hi =>
    obtain ⟨user, rfl⟩ := Server.answer_gains hgains
    refine ⟨rfl, i, c, user, _, rfl, run.call hi, ?_⟩
    have hoffers : c.Offers (Told t i) user m.newFrame :=
      (run.obeys hi (Call.offers settings c) run.told).1
    cases c with
    | send request =>
      obtain ⟨draft, n, ⟨-, hn⟩, huser, hframe⟩ := hoffers
      -- The call stored a message whose frame has the same text.
      have hsame := hrun.stored_once fresh he₀ hn stored rfl (Message.id_of_newFrame hframe)
      subst hsame
      cases stored
      exact .inr ⟨⟨request, rfl⟩, rfl, huser,
        run.asked_first hi (Messaging.send_offers_once settings request) rfl⟩
    | recallMessage user' id =>
      obtain ⟨content, hframe⟩ := hoffers
      have hkind : EventKind.messageRecalled ≠ EventKind.newMessage := by decide
      exact absurd hframe.symm (Envelope.frame_ne_newFrame hkind m)
    | deleteMessage user' id =>
      obtain ⟨content, hframe⟩ := hoffers
      have hkind : EventKind.messageDeleted ≠ EventKind.newMessage := by decide
      exact absurd hframe.symm (Envelope.frame_ne_newFrame hkind m)
    | push request => exact .inl hoffers.2.symm
    | relay user' target event => exact .inl hoffers.2.symm
    | _ => exact hoffers.elim

/-- **A recalled message is offered to its recipient at most once more.**
However the calls take turns, a message whose recall was applied is and
stays recalled or deleted. If a queue still accepts its frame, then at the
one offer of the send that stored it, which leaves the archive as it is. Once
that offer was made, no queue accepts the frame any more; an event of the
same text that is passed on is the exception. -/
theorem content_comes_from_its_send (fresh : server.store = .empty)
    (run : Run Server.Quiet (System.start settings calls server) t s) {e₀ e₁ : Event} (he₀ : e₀ ∈ t)
    (stored : e₀.stored? = some m) (he₁ : e₁ ∈ t) (recalled : e₁.Retires m.id .recalled) :
    (∃ n, s.store.message? m.id = some n ∧ (n.status = .recalled ∨ n.status = .deleted)) ∧
    ∀ e s', Step Server.Quiet s e s' → Hub.Gains m.newFrame s.server.hub s'.server.hub →
      s'.store = s.store ∧ ∃ i c user taken, e = some ⟨i, .offer user m.newFrame, taken⟩ ∧
        calls[i]? = some c ∧
        (c.PassesOn m.newFrame ∨
          (∃ request, c = .send request) ∧ i = e₀.caller ∧ user = m.recipient ∧
            ∀ e' ∈ t, e'.caller = i → e'.question.isOffer = false) := by
  have hrun := run.mono fun _ _ h => h.store
  refine ⟨?_, fun e s' step hgains => run.content_offered fresh he₀ stored step hgains⟩
  obtain ⟨n, hn, hid, hs⟩ := hrun.retired fresh e₁ he₁ recalled
  exact ⟨n, hid ▸ (hrun.sound fresh).message?_eq hn, Status.retired_of_le (Status.toInt_le hs)⟩

/-! ## A recall between storing and offering -/

/-- A user sends a message and recalls it; its recipient has a session. -/
def recallRace : System :=
  start {} [.send ⟨1, 2, 1, "secret", none⟩, .recallMessage 1 1] (Server.fresh [2])

/-- The message as it is stored. -/
def secret : Message := Store.empty.messageOf ⟨1, 2, .text, "secret", none⟩ ⟨0, 0⟩

/-- The notice of the recall. -/
def recallNotice : String :=
  (Envelope.mk EventKind.messageRecalled (.obj [("message_id", .int 1), ("conversation_id", .str "1_2"),
    ("operator_id", .int 1)])).frame

theorem recallRace_events (run : Run Server.Quiet recallRace t s)
    (hstored : s.store.messages.map Message.fixed = [secret])
    (hrecalled : s.callers[1]?.any Caller.succeeded = true) :
    (∃ e ∈ t, e.stored? = some secret) ∧ ∃ e ∈ t, e.Retires secret.id .recalled := by
  have hrun := run.mono fun _ _ h => h.store
  obtain ⟨m, hm, hfixed⟩ := List.map_eq_singleton_iff.mp hstored
  obtain ⟨e, he, hevent⟩ := hrun.stored_of_mem rfl (m := m) (by simp [hm])
  obtain ⟨a, ha⟩ := hrun.succeeded (i := 1) rfl hrecalled
  obtain ⟨e', he', -, hretires⟩ := hrun.retires_of_ended ha fun A h => h
  exact ⟨⟨e, he, hfixed ▸ hevent⟩, e', he', hretires⟩

theorem step_of_gains {around : Server Backend.memory → Server Backend.memory → Prop} {i : Nat}
    {frame : String} (hgains : Hub.Gains frame s.server.hub (s.turn i).server.hub) :
    ∃ e, Step around s (some e) (s.turn i) := by
  refine (turn_cases s i).resolve_left fun he => ?_
  rw [he] at hgains
  exact Hub.not_gains_of_queues rfl hgains

/-- The message was stored and recalled, and the notice was offered. The
message was not. -/
def recalledFirst : System := recallRace.play [0, 0, 1, 1, 1, 1]

theorem waiting_recalledFirst : recalledFirst.server.hub.waiting 0 = [recallNotice] := by
  with_unfolding_all rfl

theorem waiting_recalledFirst_turn :
    (recalledFirst.turn 0).server.hub.waiting 0 = [recallNotice, secret.newFrame] := by
  with_unfolding_all rfl

theorem gains_recalledFirst :
    Hub.Gains secret.newFrame recalledFirst.server.hub (recalledFirst.turn 0).server.hub := by
  refine ⟨0, ?_⟩
  rw [waiting_recalledFirst, waiting_recalledFirst_turn]
  simp [List.count_cons]

/-- The message is recalled before it is offered: its frame is accepted
behind the notice, at the send's only offer. -/
theorem content_comes_from_its_send_behind_the_notice : ∃ t s e s',
    Run Server.Quiet recallRace t s ∧ Step Server.Quiet s e s' ∧
    s'.server.hub.waiting 0 = [recallNotice, secret.newFrame] ∧
    (∃ n, s'.store.message? 1 = some n ∧ (n.status = .recalled ∨ n.status = .deleted)) ∧
    ∃ i user taken, e = some ⟨i, .offer user secret.newFrame, taken⟩ ∧
      ∀ e' ∈ t, e'.caller = i → e'.question.isOffer = false := by
  obtain ⟨t, run⟩ : ∃ t, Run Server.Quiet recallRace t recalledFirst := Run.play .nil _
  obtain ⟨e, step⟩ := step_of_gains gains_recalledFirst
  refine ⟨t, _, some e, _, run, step, waiting_recalledFirst_turn, ?_⟩
  obtain ⟨⟨e₀, he₀, stored⟩, e₁, he₁, recalled⟩ :=
    recallRace_events run (by decide +kernel) (by decide +kernel)
  obtain ⟨⟨n, hn, hs⟩, honly⟩ := content_comes_from_its_send rfl run he₀ stored he₁ recalled
  obtain ⟨hstore, i, c, user, taken, he, hi, hsource⟩ := honly _ _ step gains_recalledFirst
  refine ⟨⟨n, hstore ▸ hn, hs⟩, i, user, taken, he, ?_⟩
  -- Neither call passes an event on.
  match i, hi with
  | 0, rfl => exact (hsource.resolve_left id).2.2.2
  | 1, rfl => exact (hsource.resolve_left id).2.2.2

/-- A recall does not keep the content from the recipient. The frame may be
accepted behind the notice, and what was accepted before is still read behind
the recall. -/
theorem content_behind_its_recall :
    (∃ t s e s', Run Server.Quiet recallRace t s ∧ (∃ e ∈ t, e.stored? = some secret) ∧
      (∃ e ∈ t, e.Retires secret.id .recalled) ∧ s.server.hub.waiting 0 = [recallNotice] ∧
      Step Server.Quiet s e s' ∧ Hub.Gains secret.newFrame s.server.hub s'.server.hub ∧
      s'.server.hub.waiting 0 = [recallNotice, secret.newFrame]) ∧
    (∃ t s, Run Server.Quiet recallRace t s ∧ (∃ e ∈ t, e.stored? = some secret) ∧
      (∃ e ∈ t, e.Retires secret.id .recalled) ∧
      s.server.hub.waiting 0 = [secret.newFrame, recallNotice]) := by
  constructor
  · obtain ⟨t, run⟩ : ∃ t, Run Server.Quiet recallRace t recalledFirst := Run.play .nil _
    obtain ⟨stored, recalled⟩ := recallRace_events run (by decide +kernel) (by decide +kernel)
    obtain ⟨e, step⟩ := step_of_gains gains_recalledFirst
    exact ⟨t, _, some e, _, run, stored, recalled, waiting_recalledFirst, step, gains_recalledFirst,
      waiting_recalledFirst_turn⟩
  · obtain ⟨t, run⟩ : ∃ t, Run Server.Quiet recallRace t _ := Run.play .nil [0, 0, 0, 0, 1, 1, 1, 1]
    obtain ⟨stored, recalled⟩ := recallRace_events run (by decide +kernel) (by decide +kernel)
    exact ⟨t, _, run, stored, recalled, by with_unfolding_all rfl⟩

end System
end Parley
