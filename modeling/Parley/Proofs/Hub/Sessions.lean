/-
Which sessions a hub has behind what happens to it.

Nothing but opening makes a session, and a session keeps its user: what is
there afterwards was there before, with the same user (`Hub.Only`). Opening
adds one session, under the next number (`open?_sessions`). So a question of a
program makes a session only if it asks for one (`Server.answer_only`).
-/
import Parley.Proofs.Hub.Stream
import Parley.Server

namespace Parley

namespace Hub

variable {h h' h'' : Hub} {user : UserId} {now : Tick} {id i : SessionId}

/-- Every session of one hub is a session of the other, of the same user. -/
def Only (h h' : Hub) : Prop :=
  ∀ id s', h'.session? id = some s' → ∃ s, h.session? id = some s ∧ s.user = s'.user

theorem Only.refl (h : Hub) : h.Only h := fun _ s hs => ⟨s, hs, rfl⟩

theorem Only.trans (h₁ : h.Only h') (h₂ : h'.Only h'') : h.Only h'' := by
  intro id s'' hs''
  obtain ⟨s', hs', hu'⟩ := h₂ id s'' hs''
  obtain ⟨s, hs, hu⟩ := h₁ id s' hs'
  exact ⟨s, hs, hu.trans hu'⟩

theorem Only.of_sessions (he : h'.sessions = h.sessions) : h.Only h' := by
  intro id s hs
  rw [session?, he] at hs
  exact ⟨s, hs, rfl⟩

theorem only_of_none_or (he : ∀ i, h'.session? i = none ∨ h'.session? i = h.session? i) : h.Only h' := by
  intro id s hs
  rcases he id with hnone | hsame
  · rw [hnone] at hs
    cases hs
  · exact ⟨s, hsame ▸ hs, rfl⟩

theorem only_unregister : h.Only (h.unregister id) := by
  refine only_of_none_or fun i => ?_
  rw [session?_unregister]
  split
  · exact .inl rfl
  · exact .inr rfl

theorem only_unregisterAll (ids : List SessionId) : h.Only (ids.foldl unregister h) := by
  refine only_of_none_or fun i => ?_
  rw [session?_unregisterAll]
  split
  · exact .inl rfl
  · exact .inr rfl

theorem only_touch : h.Only (h.touch id now) := by
  intro i s' hs'
  rw [session?_touch] at hs'
  obtain ⟨s, hs, rfl⟩ := Option.map_eq_some_iff.mp hs'
  refine ⟨s, hs, ?_⟩
  split <;> rfl

theorem only_offer {frame : String} : h.Only (h.offer user frame).2 := by
  refine only_of_none_or fun i => ?_
  rw [session?_offer]
  split
  · exact .inl rfl
  · exact .inr rfl

theorem only_closeAll {running : Bool} : h.Only { h.closeAll with running := running } :=
  fun _ _ hs => (nomatch hs)

theorem only_take {c : Command} (hc : ∀ user gone, c ≠ .register user gone) : h.Only (h.take now c).2 := by
  cases hrunning : h.running with
  | false =>
    rw [take_of_stopped hrunning]
    exact Only.refl h
  | true =>
    simp only [take, hrunning, if_true]
    cases c with
    | register user gone => exact (hc user gone rfl).elim
    | unregister id => exact only_unregister
    | touch id => exact only_touch
    | offer user frame => exact only_offer
    | isOnline user => exact Only.refl h
    | stats => exact Only.refl h
    | shutdown => exact only_closeAll

/-- What happens leaves a session behind that was not there. -/
def Happening.opens : Happening → Bool
  | .command _ (.register _ callerGone) => !callerGone
  | _ => false

theorem Sound.only_happen (hs : Sound h) {x : Happening} (hx : x.opens = false) : h.Only (h.happen x) := by
  cases x with
  | command now c =>
    by_cases hc : ∃ user gone, c = .register user gone
    · obtain ⟨user, gone, rfl⟩ := hc
      obtain rfl : gone = true := by simpa [Happening.opens] using hx
      have hnew := hs.unused (Nat.le_refl _)
      refine only_of_none_or fun i => ?_
      cases hrunning : h.running with
      | false => simp [Hub.happen, take_of_stopped hrunning]
      | true =>
        simp only [Hub.happen, Hub.take, hrunning, if_true]
        rw [session?_unregister]
        split
        · exact .inl rfl
        · next hi => exact .inr ((session?_register hnew).trans (if_neg hi))
    · exact only_take fun user gone he => hc ⟨user, gone, he⟩
  | reaping now next => exact (only_unregisterAll _).trans (Only.of_sessions rfl)
  | reading i => exact only_of_none_or fun _ => .inr session?_read
  | readingAll i => exact Only.of_sessions rfl
  | readerGone i => exact Only.of_sessions rfl

theorem Sound.session?_release (hs : Sound h) (now : Tick) (id i : SessionId) :
    (h.take now (.unregister id)).2.session? i = if i = id then none else h.session? i := by
  cases hrunning : h.running with
  | false => simp [take_of_stopped hrunning, hs.closed hrunning]
  | true =>
    simp only [Hub.take, hrunning, if_true]
    exact session?_unregister

theorem open?_eq : h.open? user now =
    if h.running then (.ok h.nextId, (h.register user now).2) else (.error stoppedFailure, h) := by
  cases hrunning : h.running with
  | true => simp [open?, take, hrunning, register]
  | false => simp [open?, take_of_stopped hrunning, stopped]

theorem open?_sessions {s : Session} (hs : (h.open? user now).2.session? i = some s) :
    (∃ s₀, h.session? i = some s₀ ∧ s₀.user = s.user) ∨ (h.open? user now).1 = .ok i ∧ s.user = user := by
  rw [open?_eq] at hs ⊢
  split at hs
  · next hrunning =>
    simp only [session?, register, List.lookup_append, Option.or_eq_some_iff] at hs
    rcases hs with hs | ⟨-, hs⟩
    · exact .inl ⟨s, hs, rfl⟩
    · refine .inr ?_
      rw [if_pos hrunning]
      have hmem := mem_of_lookup hs
      simp only [List.mem_singleton, Prod.mk.injEq] at hmem
      obtain ⟨rfl, rfl⟩ := hmem
      exact ⟨rfl, rfl⟩
  · exact .inl ⟨s, hs, rfl⟩

/-- The frames that a question puts into the queue of a session. -/
def given (h : Hub) (id : SessionId) : Surroundings.Ask → List String
  | .offer user frame => if id ∈ h.sessionsOf user ∧ h.accepts id then [frame] else []
  | _ => []

theorem Sound.notMem_sessionsOf (hs : Sound h) (hended : h.session? id = none) (user : UserId) :
    id ∉ h.sessionsOf user := by
  intro hmem
  obtain ⟨x, hx, -⟩ := (hs.index id user).mp hmem
  rw [hended] at hx
  cases hx

theorem Sound.given_of_ended (hs : Sound h) (hended : h.session? id = none) (q : Surroundings.Ask) :
    h.given id q = [] := by
  cases q with
  | offer user frame => simp [given, hs.notMem_sessionsOf hended]
  | _ => rfl

end Hub

namespace Server

open Surroundings (Ask)

variable {B : Backend} {s : Server B}

/-- The command that answers a question, if the hub takes one for it. -/
def commandFor? : Ask → Option Hub.Command
  | .offer user frame => some (.offer user frame)
  | .openSession user => some (.register user false)
  | .closeSession id => some (.unregister id)
  | .touch id => some (.touch id)
  | _ => none

theorem answer_hub (q : Ask) : (answer q s).2.hub =
    match commandFor? q with
    | some c => (s.hub.take s.tick c).2
    | none => s.hub := by
  cases q with
  | offer user frame => exact Hub.send_snd
  | openSession user => exact Hub.open?_snd
  | _ => rfl

theorem waiting_answer (hs : s.hub.Sound) (q : Ask) (id : SessionId) :
    (answer q s).2.hub.waiting id = s.hub.waiting id ++ s.hub.given id q := by
  rw [answer_hub]
  cases q with
  | offer user frame =>
    cases hrunning : s.hub.running with
    | false =>
      rw [hs.given_of_ended (hs.closed hrunning id)]
      simp [commandFor?, Hub.take_of_stopped hrunning]
    | true =>
      simp only [commandFor?, Hub.take, hrunning, if_true, Hub.given]
      rw [hs.toIndexed.waiting_offer]
      split
      · rfl
      · exact (List.append_nil _).symm
  | openSession user =>
    exact (hs.waiting_take (c := .register user false) (by simp)).trans (List.append_nil _).symm
  | closeSession i => exact (hs.waiting_take (c := .unregister i) (by simp)).trans (List.append_nil _).symm
  | touch i => exact (hs.waiting_take (c := .touch i) (by simp)).trans (List.append_nil _).symm
  | _ => exact (List.append_nil _).symm

theorem answer_sound (hs : s.hub.Sound) (q : Ask) : (answer q s).2.hub.Sound := by
  rw [answer_hub]
  split
  · exact hs.take _
  · exact hs

theorem answer_only {q : Ask} (hq : ∀ user, q ≠ .openSession user) : s.hub.Only (answer q s).2.hub := by
  rw [answer_hub]
  cases q with
  | openSession user => exact (hq user rfl).elim
  | offer user frame => exact Hub.only_take fun _ _ => nofun
  | closeSession id => exact Hub.only_take fun _ _ => nofun
  | touch id => exact Hub.only_take fun _ _ => nofun
  | _ => exact Hub.Only.refl _

theorem answer_sessions {q : Ask} {id : SessionId} {x : Session}
    (hx : (answer q s).2.hub.session? id = some x) :
    (∃ x₀, s.hub.session? id = some x₀ ∧ x₀.user = x.user) ∨ q = .openSession x.user := by
  by_cases hq : ∃ user, q = .openSession user
  · obtain ⟨user, rfl⟩ := hq
    exact (Hub.open?_sessions hx).imp_right fun h => by rw [h.2]
  · exact .inl (answer_only (fun user he => hq ⟨user, he⟩) id x hx)

end Server
end Parley
