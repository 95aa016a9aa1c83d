/-
Why sessions end.

A session ends because its own socket has stopped, because the handshake of its
own request has failed, because its own queue does not take a frame, because it was
idle for too long, or because the hub stops (`Kept.cause`): what happens to one
session of a user is no reason for another to end. A request for a socket that
does not get one leaves the sessions as they were (`Server.serve_sessions_eq`).
-/
import Parley.Proofs.Traffic.Kept

namespace Parley

open Surroundings (Ask signature)
open Time (Instant)

/-! ## Commands -/

namespace Hub

variable {h : Hub} {id : SessionId} {now : Tick}

theorem Sound.take_ends (hs : Sound h) {c : Command} (hlive : (h.session? id).isSome)
    (hended : (h.take now c).2.session? id = none) :
    c = .unregister id ∨
      (∃ x frame, h.session? id = some x ∧ c = .offer x.user frame ∧ h.accepts id = false) ∨ c = .shutdown := by
  have hkept : h.session? id ≠ none := Option.isSome_iff_ne_none.mp hlive
  have hrunning := hs.running_of_session hlive
  have hnew := hs.unused (Nat.le_refl _)
  have hne : id ≠ h.nextId := by
    rintro rfl
    exact hkept hnew
  simp only [Hub.take, hrunning, if_true] at hended
  cases c with
  | register user gone =>
    have hregistered : (h.register user now).2.session? id = h.session? id :=
      (session?_register hnew).trans (if_neg hne)
    cases gone with
    | false => exact absurd (hregistered.symm.trans hended) hkept
    | true =>
      have hunregistered : ((h.register user now).2.unregister h.nextId).session? id = none := hended
      rw [session?_unregister, if_neg hne, hregistered] at hunregistered
      exact absurd hunregistered hkept
  | unregister i =>
    rw [session?_unregister] at hended
    split at hended
    · next he => exact .inl (he ▸ rfl)
    · exact absurd hended hkept
  | touch i =>
    rw [session?_touch, Option.map_eq_none_iff] at hended
    exact absurd hended hkept
  | offer user frame =>
    rw [session?_offer] at hended
    split at hended
    · next hrefused =>
      obtain ⟨x, hx, rfl⟩ := (hs.index id user).mp hrefused.1
      exact .inr (.inl ⟨x, frame, hx, rfl, by simpa using hrefused.2⟩)
    · exact absurd hended hkept
  | isOnline | stats => exact absurd hended hkept
  | shutdown => exact .inr (.inr rfl)

theorem Sound.wake_ends (hs : Sound h) (hlive : (h.session? id).isSome)
    (hended : (h.wake now).session? id = none) :
    ∃ x, h.session? id = some x ∧ h.settings.staleAfter < now - x.lastSeen := by
  have hkept : h.session? id ≠ none := Option.isSome_iff_ne_none.mp hlive
  unfold wake at hended
  split at hended
  · have hreaped : (h.reap now).session? id = none := hended
    rw [Hub.reap, session?_unregisterAll] at hreaped
    split at hreaped
    · next hmem =>
      obtain ⟨⟨i, x⟩, hstale, rfl⟩ := List.mem_map.mp hmem
      obtain ⟨hx, hidle⟩ := List.mem_filter.mp hstale
      exact ⟨x, lookup_of_mem hs.ids hx, by simpa using hidle⟩
    · exact absurd hreaped hkept
  · exact absurd hended hkept

end Hub

/-! ## Steps -/

namespace Traffic

variable {B : Backend} {s s' : Traffic B} {id : SessionId}

/-- Why a session ends in a step. -/
inductive Cause (s s' : Traffic B) (id : SessionId) : Prop
  /-- Its socket has stopped. -/
  | stopped {w : Socket} (hw : w ∈ s.server.sockets) (hsession : w.session = id) (hclosed : w.isOpen = false)
  /-- The handshake of its request has failed. -/
  | unopened {v : Visit} {next : Unit → Http.Answering Http.Outcome} (hv : v ∈ s.visits)
    (hrest : v.rest = .ask (.closeSession id) next)
  /-- Its user was offered a frame that its queue does not take. -/
  | refused {x : Session} {frame : String} (hx : s.server.hub.session? id = some x)
    (hoffered : s'.server.hub = (s.server.hub.take s.server.tick (.offer x.user frame)).2)
    (hrefused : s.server.hub.accepts id = false)
  /-- It was idle for too long, and the reaper came. -/
  | idle {x : Session} (hx : s.server.hub.session? id = some x)
    (hreaped : s'.server.hub = s.server.hub.wake s.server.tick)
    (hidle : s.server.hub.settings.staleAfter < s.server.tick - x.lastSeen)
  /-- The hub stops. -/
  | shutdown (hstopped : s'.server.hub.running = false)

theorem cause_of_answer (hs : s.server.hub.Sound) {q : Ask} (hhub : s'.server.hub = (Server.answer q s.server).2.hub)
    (hlive : (s.server.hub.session? id).isSome) (hended : s'.server.hub.session? id = none) :
    q = .closeSession id ∨ s.Cause s' id := by
  rw [Server.answer_hub] at hhub
  rw [hhub] at hended
  cases hc : Server.commandFor? q with
  | none =>
    rw [hc] at hended
    simp [hended] at hlive
  | some c =>
    rw [hc] at hended hhub
    rcases hs.take_ends hlive hended with rfl | ⟨x, frame, hx, rfl, hrefused⟩ | rfl
    · cases q <;> simp [Server.commandFor?] at hc
      exact .inl (by rw [hc])
    · exact .inr (.refused hx hhub hrefused)
    · cases q <;> simp [Server.commandFor?] at hc

/-- **A session ends for a reason of its own**, or because the hub stops. -/
theorem Kept.cause (hs : s.Kept) (step : Step s s') (hlive : (s.server.hub.session? id).isSome)
    (hended : s'.server.hub.session? id = none) : s.Cause s' id := by
  have hkept : s'.server.hub.session? id ≠ s.server.hub.session? id := by
    intro he
    rw [hended] at he
    simp [← he] at hlive
  rcases step with work | incident
  · cases work with
    | respond | upgrade => exact absurd rfl hkept
    | @turn front behind v q next hv hrest =>
      rcases cause_of_answer hs.sound (q := q) rfl hlive hended with rfl | hcause
      · exact .unopened (v := v) (by simp [hv]) hrest
      · exact hcause
    | take => exact absurd Hub.session?_read hkept
    | @release w hw hclosed _ =>
      have hreleased : (s.server.hub.take s.server.tick (.unregister w.session)).2.session? id = none := hended
      rcases hs.sound.take_ends hlive hreleased with he | ⟨_, _, _, he, _⟩ | he
      · exact .stopped hw (Hub.Command.unregister.inj he) hclosed
      · cases he
      · cases he
  · cases incident with
    | arrive | giveUp | hear | beat | takeAll | leave | elsewhere => exact absurd rfl hkept
    | vanish user =>
      have hvanished : (s.server.hub.take s.server.tick (.register user true)).2.session? id = none := hended
      rcases hs.sound.take_ends hlive hvanished with he | ⟨_, _, _, he, _⟩ | he <;> cases he
    | ask q hq =>
      rcases cause_of_answer hs.sound (q := q) rfl hlive hended with rfl | hcause
      · exact absurd rfl (hq.2 id)
      · exact hcause
    | wake =>
      obtain ⟨x, hx, hidle⟩ := hs.sound.wake_ends hlive hended
      exact .idle hx rfl hidle
    | shutdown =>
      refine .shutdown ?_
      cases hrunning : s.server.hub.running <;> simp [Server.command, Hub.take, hrunning]

end Traffic

/-! ## Requests that do not get their socket -/

namespace Http

theorem serve_socket (c : Configuration) (now : Instant) (fresh : String) {r : Request} (hpath : r.path = "/ws") : (∃ x, serve c now fresh r = .done (.response x)) ∨
    ∃ user requestId, serve c now fresh r = .ask (.openSession user) (handover now requestId r user) := by
  have harea : areaOf r.path = (.everyone, "/ws".toList) := by
    rw [hpath]
    decide
  by_cases hmethod : r.method = "GET"
  · have hserve : serve c now fresh r = openSocket c now (requestIdOf r fresh) r := by
      simp only [serve, harea, hmethod]
      rfl
    rw [hserve]
    rcases openSocket_cases c now (requestIdOf r fresh) hmethod hpath with hdone | ⟨user, -, hasks⟩
    · exact .inl hdone
    · exact .inr ⟨user, _, hasks⟩
  · have hendpoint : endpoint? .everyone r.method "/ws".toList = none := by
      unfold endpoint?
      split <;> simp_all
    refine .inl ⟨⟨404, .empty, some (requestIdOf r fresh)⟩, ?_⟩
    simp only [serve, harea, hendpoint]
    rfl

end Http

namespace Server

variable {B : Backend} {s : Server B} {fresh : String} {r : Http.Request}

theorem serve_sessions_eq (hs : s.hub.Sound) (hpath : r.path = "/ws")
    (hrefused : ∀ session user, (s.serve fresh r).1 ≠ .upgraded session user) :
    (s.serve fresh r).2.hub.sessions = s.hub.sessions ∧ (s.serve fresh r).2.hub.users = s.hub.users := by
  rw [serve_snd_hub]
  rw [serve_fst] at hrefused
  rcases Http.serve_socket s.configuration s.now fresh hpath with ⟨x, he⟩ | ⟨user, requestId, he⟩
  · rw [he]
    exact ⟨rfl, rfl⟩
  · have hnew := hs.unused (Nat.le_refl _)
    have hopen : (s.run (.ask (.openSession user) (Http.handover s.now requestId r user))) =
        { s with hub := (s.hub.open? user s.tick).2 }.run
          (Http.handover s.now requestId r user (s.hub.open? user s.tick).1) := rfl
    rw [he, hopen] at hrefused ⊢
    rw [Hub.open?_eq] at hrefused ⊢
    cases hrunning : s.hub.running with
    | false => exact ⟨rfl, rfl⟩
    | true =>
      rw [hrunning] at hrefused
      simp only [if_true, Http.handover] at hrefused ⊢
      cases hfault : Http.handshakeFault? r.headers with
      | none =>
        rw [hfault] at hrefused
        exact absurd rfl (hrefused s.hub.nextId user)
      | some status =>
        have hclosed : (((s.hub.register user s.tick).2.take s.tick (.unregister s.hub.nextId)).2) =
            (s.hub.register user s.tick).2.unregister s.hub.nextId := by
          have hstill : (s.hub.register user s.tick).2.running = true := hrunning
          simp only [Hub.take, hstill, if_true]
        change (((s.hub.register user s.tick).2.take s.tick (.unregister s.hub.nextId)).2).sessions = _ ∧
          (((s.hub.register user s.tick).2.take s.tick (.unregister s.hub.nextId)).2).users = _
        rw [hclosed]
        exact hs.toIndexed.unregister_register hnew

end Server
end Parley
