/-
The hub while calls take turns.

Around the calls sessions are opened and closed, sockets take what waits for
them, clients send, and timers go off: anything but an offer may happen to the
hub, and the archive stays as it is (`Server.Tended`). What a client wants to
be passed on is a call of its own (`Server.tended_receive`). So a hub that was sound stays
sound through a run, and a queue is given a frame at a turn that offers it to
the user of its session, at its end (`Step.puts`).
-/
import Parley.Proofs.Hub.Sessions
import Parley.Proofs.Turns

namespace Parley

open Surroundings (Ask)

/-! ## Offers -/

namespace Hub

variable {h : Hub} {user : UserId} {now : Tick} {id : SessionId} {frame g : String}

/-- Whether a frame is offered. -/
def Happening.isOffer : Happening → Bool
  | .command _ (.offer _ _) => true
  | _ => false

theorem not_gains_read : ¬Gains g h (h.read id).2 := by
  unfold read
  split
  · next hq =>
    rintro ⟨i, hlt⟩
    rw [waiting, waiting, queue?_updateQueue] at hlt
    by_cases he : i = id
    · subst he
      simp only [hq, Option.map_some, Option.getD_some, if_true] at hlt
      exact absurd hlt (Nat.not_lt.mpr List.count_le_count_cons)
    · simp [he] at hlt
  · exact not_gains_of_queues rfl

theorem happen_gains {x : Happening} (hgains : Gains g h (h.happen x)) : x.isOffer = true := by
  cases x with
  | command now c =>
    obtain ⟨user, rfl⟩ := take_gains hgains
    rfl
  | reaping now next => exact absurd hgains (not_gains_of_queues (queues_unregisterAll _))
  | reading id => exact absurd hgains not_gains_read
  | readingAll id => exact absurd hgains not_gains_readAll
  | readerGone id => exact absurd hgains not_gains_dropReader

theorem after_gains {history : List Happening} (hgains : Gains g h (h.after history)) :
    ∃ x ∈ history, x.isOffer = true := by
  induction history generalizing h with
  | nil => exact absurd hgains (not_gains_of_queues rfl)
  | cons x history ih =>
    rcases hgains.of_trans (h.happen x) with hgains | hgains
    · exact ⟨x, List.mem_cons_self, happen_gains hgains⟩
    · obtain ⟨y, hy, hoffer⟩ := ih hgains
      exact ⟨y, List.mem_cons_of_mem _ hy, hoffer⟩

/-- **An offer puts its frame, once and at the end, into queues of the user's sessions.** -/
theorem Sound.offered (hs : Sound h)
    (hgains : (h.waiting id).count g < ((h.send user frame now).2.waiting id).count g) : g = frame ∧
      (∃ s, h.session? id = some s ∧ s.user = user) ∧
        (h.send user frame now).2.waiting id = h.waiting id ++ [frame] := by
  rw [send_snd] at hgains ⊢
  cases hrunning : h.running with
  | false => simp [take_of_stopped hrunning] at hgains
  | true =>
    simp only [Hub.take, hrunning, if_true, hs.toIndexed.waiting_offer] at hgains ⊢
    split at hgains
    · next htook =>
      rw [if_pos htook]
      refine ⟨?_, (hs.index id user).mp htook.1, rfl⟩
      by_contra hne
      simp [List.count_append, Ne.symm hne] at hgains
    · exact absurd hgains (Nat.lt_irrefl _)

end Hub

/-! ## What clients send -/

namespace Socket

theorem effectsOf_cases (user : UserId) (client : ClientEvent) :
    effectsOf user client = [] ∨ ∃ target event, effectsOf user client = [.relay target event] := by
  unfold effectsOf
  cases client with
  | ping => exact .inl rfl
  | typing target =>
    simp only
    split
    · exact .inl rfl
    · exact .inr ⟨_, _, rfl⟩
  | readReceipt target conversation message =>
    simp only
    split
    · exact .inr ⟨_, _, rfl⟩
    · exact .inl rfl

theorem receive_effects (w : Socket) (settings : SocketSettings) (now : Time.Instant) (m : Incoming) :
    (w.receive settings now m).2 = [] ∨
      ∃ client, (w.receive settings now m).2 = .touch :: effectsOf w.user client := by
  unfold receive
  split
  · exact .inl rfl
  split
  · exact .inl rfl
  cases m with
  | text text =>
    simp only
    split
    · next client _ =>
      refine .inr ⟨client, ?_⟩
      cases client <;> rfl
    · exact .inr ⟨.ping, rfl⟩
  | ping | pong => exact .inr ⟨.ping, rfl⟩
  | _ => exact .inl rfl

end Socket

/-! ## Around the calls -/

/-- The archive is as it was, and anything but offers happened to the hub. -/
structure Server.Tended (s s' : Server Backend.memory) : Prop where
  store : s.StoreKept s'
  hub : ∃ history : List Hub.Happening, (∀ x ∈ history, x.isOffer = false) ∧ s'.hub = s.hub.after history

namespace Server

variable {s s' s'' : Server Backend.memory}

theorem tended_of_hub (hstore : s.StoreKept s') (hhub : s'.hub = s.hub) : s.Tended s' :=
  ⟨hstore, [], fun _ hx => absurd hx List.not_mem_nil, hhub⟩

theorem Tended.refl (s : Server Backend.memory) : s.Tended s := tended_of_hub rfl rfl

theorem Tended.trans (h : s.Tended s') (h' : s'.Tended s'') : s.Tended s'' := by
  obtain ⟨earlier, hearlier, hhub⟩ := h.hub
  obtain ⟨later, hlater, hhub'⟩ := h'.hub
  refine ⟨Eq.trans h'.store h.store, earlier ++ later, fun x hx => ?_, ?_⟩
  · exact (List.mem_append.mp hx).elim (hearlier x) (hlater x)
  · rw [hhub', hhub, Hub.after_append]

theorem tended_foldl {α : Type} {f : Server Backend.memory → α → Server Backend.memory}
    (hf : ∀ s a, Tended s (f s a)) (l : List α) : s.Tended (l.foldl f s) := by
  induction l generalizing s with
  | nil => exact .refl s
  | cons a l ih => exact (hf s a).trans ih

theorem tended_happen {hub : Hub} (x : Hub.Happening) (hx : x.isOffer = false) (hhub : hub = s.hub.happen x) :
    s.Tended { s with hub := hub } :=
  ⟨rfl, [x], fun _ hy => List.mem_singleton.mp hy ▸ hx, hhub⟩

theorem tended_command {c : Hub.Command} (hc : ∀ user frame, c ≠ .offer user frame) :
    s.Tended (s.command c).2 := by
  refine tended_happen (.command s.tick c) ?_ rfl
  cases c with
  | offer user frame => exact absurd rfl (hc user frame)
  | _ => rfl

theorem tended_putSocket (w : Socket) : s.Tended (s.putSocket w) := tended_of_hub rfl rfl

theorem tended_release (w : Socket) : s.Tended (s.release w) := by
  unfold release
  split
  · exact .refl s
  · exact (tended_command (c := .unregister w.session) nofun).trans
      (tended_happen (.readerGone w.session) rfl rfl)

theorem tended_drain (w : Socket) : s.Tended (s.drain w) := by
  unfold drain
  split
  · simp only
    exact ((tended_happen (.readingAll w.session) rfl rfl).trans (tended_putSocket _)).trans (tended_release _)
  · exact .refl s

theorem tended_settle : s.Tended s.settle := tended_foldl (fun _ w => tended_drain w) _

theorem tended_beatSocket (w : Socket) : s.Tended (s.beatSocket w) := by
  unfold beatSocket
  simp only
  exact (tended_putSocket _).trans (tended_release _)

theorem tended_wake (now : Tick) : s.Tended { s with hub := s.hub.wake now } := by
  rcases Hub.wake_cases (h := s.hub) with hkept | ⟨next, hreaped⟩
  · exact tended_of_hub rfl hkept
  · exact tended_happen (.reaping now next) rfl hreaped

/-- **Sockets and timers only tend the hub.** -/
theorem tended_advance (by_ : Milliseconds) : s.Tended (s.advance by_) := by
  unfold advance
  simp only
  have later : s.Tended { s with tick := s.tick + by_ } := tended_of_hub rfl rfl
  have beaten := later.trans (tended_foldl (fun _ w => tended_beatSocket w) s.sockets)
  exact (beaten.trans (tended_wake _)).trans tended_settle

theorem run_react (w : Socket) (settings : SocketSettings) (now : Time.Instant) (m : Incoming) :
    s.run (w.react settings now m) =
      ((w.receive settings now m).1, (s.run (w.performAll (w.receive settings now m).2)).2) :=
  Program.run_bind _ _ _ _

theorem run_relaying (w : Socket) (target : UserId) (event : Envelope) :
    (s.run (w.performAll [.touch, .relay target event])).2 =
      ((s.command (.touch w.session)).2.run (relay w.user target event).run).2 := by
  change (Program.run answer (((relay w.user target event).run.bind fun _ => .done ()).bind
    fun _ => .done ()) (s.command (.touch w.session)).2).2 = _
  rw [Program.run_bind, Program.run_bind]
  rfl

/-- **What a client sends tends the hub**, but for an event that is relayed. -/
theorem tended_receive (session : SessionId) (m : Incoming) : s.Tended (s.receive session m) ∨
    ∃ w target event s₁, s.socket? session = some w ∧
      .relay target event ∈ (w.receive s.configuration.socket s.now m).2 ∧
      s.Tended s₁ ∧ (s₁.run (relay w.user target event).run).2.Tended (s.receive session m) := by
  unfold receive
  split
  · exact .inl (.refl s)
  · next w hw =>
    have htouch : s.Tended (s.command (.touch w.session)).2 := tended_command nofun
    simp only [run_react]
    rcases w.receive_effects s.configuration.socket s.now m with hnone | ⟨client, hclient⟩
    · rw [hnone]
      exact .inl ((tended_putSocket _).trans (tended_release _))
    rcases Socket.effectsOf_cases w.user client with hquiet | ⟨target, event, hrelays⟩
    · rw [hclient, hquiet]
      exact .inl ((htouch.trans (tended_putSocket _)).trans (tended_release _))
    · rw [hclient, hrelays]
      refine .inr ⟨w, target, event, _, hw, by simp [hclient, hrelays], htouch, ?_⟩
      rw [run_relaying]
      exact (tended_putSocket _).trans (tended_release _)

theorem Tended.sound (h : s.Tended s') (hs : s.hub.Sound) : s'.hub.Sound := by
  obtain ⟨history, -, hhub⟩ := h.hub
  rw [hhub]
  exact hs.after history

theorem Tended.not_gains (h : s.Tended s') {frame : String} : ¬Hub.Gains frame s.hub s'.hub := by
  obtain ⟨history, hquiet, hhub⟩ := h.hub
  rw [hhub]
  intro hgains
  obtain ⟨x, hx, hoffer⟩ := Hub.after_gains hgains
  exact absurd ((hquiet x hx).symm.trans hoffer) (by decide)

theorem answer_gains {q : Ask} {frame : String} (hgains : Hub.Gains frame s.hub (answer q s).2.hub) :
    ∃ user, q = .offer user frame := by
  cases q with
  | offer user frame' =>
    change Hub.Gains frame s.hub (s.hub.send user frame' s.tick).2 at hgains
    rw [Hub.send_snd] at hgains
    obtain ⟨user', hoffer⟩ := Hub.take_gains hgains
    cases hoffer
    exact ⟨user, rfl⟩
  | openSession user =>
    change Hub.Gains frame s.hub (s.hub.open? user s.tick).2 at hgains
    rw [Hub.open?_snd] at hgains
    obtain ⟨_, hoffer⟩ := Hub.take_gains hgains
    cases hoffer
  | closeSession id =>
    obtain ⟨_, hoffer⟩ := Hub.take_gains hgains
    cases hoffer
  | touch id =>
    obtain ⟨_, hoffer⟩ := Hub.take_gains hgains
    cases hoffer
  | _ => exact absurd hgains (Hub.not_gains_of_queues rfl)

end Server

/-! ## Runs -/

namespace System

variable {first s s' : System} {t : List Event} {e : Option Event}

theorem Step.hub_sound (step : Step Server.Tended s e s') (hs : s.server.hub.Sound) : s'.server.hub.Sound := by
  cases step with
  | turn => exact Server.answer_sound hs _
  | elsewhere h => exact h.sound hs

theorem Run.hub_sound (run : Run Server.Tended first t s) (hs : first.server.hub.Sound) :
    s.server.hub.Sound := by
  induction run with
  | nil => exact hs
  | step _ step ih => exact step.hub_sound ih

/-- **A queue is given a frame at a turn that offers it to the user of the
session**, and is given it once, at the end. -/
theorem Step.puts (step : Step Server.Tended s e s') (hs : s.server.hub.Sound) {id : SessionId} {frame : String}
    (hgains : (s.server.hub.waiting id).count frame < (s'.server.hub.waiting id).count frame) :
    ∃ i user taken w, e = some ⟨i, .offer user frame, taken⟩ ∧ s.server.hub.session? id = some w ∧
      w.user = user ∧ s'.server.hub.waiting id = s.server.hub.waiting id ++ [frame] := by
  cases step with
  | elsewhere h => exact absurd ⟨id, hgains⟩ h.not_gains
  | @turn callers server i call q next hi =>
    obtain ⟨user, rfl⟩ := Server.answer_gains ⟨id, hgains⟩
    obtain ⟨-, ⟨w, hw, huser⟩, hwaiting⟩ := hs.offered hgains
    exact ⟨i, user, _, w, rfl, hw, huser, hwaiting⟩

theorem Step.took {i : Nat} {user : UserId} {frame : String}
    (step : Step Server.Tended s (some ⟨i, .offer user frame, true⟩) s') (hs : s.server.hub.Sound) :
    s.server.hub.Took s'.server.hub user frame := by
  obtain ⟨-, -, -, hreply, hserver⟩ := step.turn_of
  rw [hserver]
  exact (hs.send_taken user frame s.server.tick).mp hreply.symm

end System
end Parley
