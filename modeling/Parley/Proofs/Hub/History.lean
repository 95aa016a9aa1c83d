/-
Whatever happens to a hub keeps its parts together.

Commands are taken, the reaper comes, and readers take frames or go away, in
any order and at any time (`Happening`). `Sound` says what holds of the hub
throughout: the indexes agree, every session has a queue, no queue holds
more than it may, and a hub that has stopped has no session.
-/
import Parley.Proofs.Hub.Shape

namespace Parley

/-- A queue holds no more than it may, and nothing for a reader who is gone. -/
structure Queue.Fits (q : Queue) (capacity : Nat) : Prop where
  bounded : q.waiting.length ≤ capacity
  gone : q.reading = false → q.waiting = []

namespace Hub

variable {h h' : Hub} {user : UserId} {now : Tick} {id i : SessionId} {frame : String}

/-- What holds of a hub throughout. -/
structure Sound (h : Hub) : Prop extends Indexed h where
  /-- Every session has a queue. -/
  queued : ∀ id, (h.session? id).isSome → (h.queue? id).isSome
  fits : ∀ id q, h.queue? id = some q → q.Fits h.capacity
  /-- The next session has no queue yet. -/
  fresh : ∀ id, h.nextId ≤ id → h.queue? id = none
  /-- A hub that has stopped has no session. -/
  closed : h.running = false → ∀ id, h.session? id = none

theorem Sound.start (settings : HubSettings) : Sound (start settings now) where
  ids := List.nodup_nil
  users := List.nodup_nil
  index _ _ := by simp [sessionsOf, session?, Hub.start]
  distinct _ := List.nodup_nil
  listed _ := by simp [Hub.start]
  queued _ h := by simp [session?, Hub.start] at h
  fits _ _ h := by simp [queue?, Hub.start] at h
  fresh _ _ := rfl
  closed _ _ := rfl

theorem running_start_iff {settings : HubSettings} : (start settings now).running = true ↔
    0 < settings.reapInterval ∧ settings.outboundQueue ≤ greatestQueue := by
  simp only [start, Bool.and_eq_true, decide_eq_true_eq]

theorem Sound.unused (hs : Sound h) (hid : h.nextId ≤ id) : h.session? id = none := by
  have hqueued := hs.queued id
  rw [hs.fresh id hid] at hqueued
  cases hsession : h.session? id with
  | none => rfl
  | some s => exact absurd (hqueued (by rw [hsession]; rfl)) (by decide)

theorem Sound.running_of_session (hs : Sound h) (hlive : (h.session? id).isSome) : h.running = true := by
  cases hrunning : h.running with
  | true => rfl
  | false =>
    rw [hs.closed hrunning] at hlive
    cases hlive

theorem Sound.of_queues (hs : Sound h) (hi : Indexed h') (hcore : h'.core = h.core)
    (hsessions : ∀ id, (h'.session? id).isSome → (h.session? id).isSome) (f : SessionId → Queue → Queue)
    (hqueues : ∀ id, h'.queue? id = (h.queue? id).map (f id))
    (hf : ∀ id q, h.queue? id = some q → q.Fits h.capacity → (f id q).Fits h.capacity) : Sound h' := by
  obtain ⟨hsettings, hnext, hrunning⟩ :
      h'.settings = h.settings ∧ h'.nextId = h.nextId ∧ h'.running = h.running := by
    simpa [core] using hcore
  refine ⟨hi, fun id hid => ?_, fun id q hq => ?_, fun id hid => ?_, fun hstopped id => ?_⟩
  · rw [hqueues, Option.isSome_map]
    exact hs.queued id (hsessions id hid)
  · rw [hqueues] at hq
    obtain ⟨q₀, hq₀, rfl⟩ := Option.map_eq_some_iff.mp hq
    rw [capacity, hsettings, ← capacity]
    exact hf id q₀ hq₀ (hs.fits id q₀ hq₀)
  · rw [hqueues, hs.fresh id (hnext ▸ hid)]
    rfl
  · have hnone := hs.closed (hrunning ▸ hstopped) id
    cases hsome : h'.session? id with
    | none => rfl
    | some s => exact absurd (hsessions id (by rw [hsome]; rfl)) (by rw [hnone]; decide)

theorem Sound.of_same_queues (hs : Sound h) (hi : Indexed h') (hcore : h'.core = h.core)
    (hsessions : ∀ id, (h'.session? id).isSome → (h.session? id).isSome)
    (hqueues : h'.queues = h.queues) : Sound h' :=
  hs.of_queues hi hcore hsessions (fun _ q => q) (fun id => by rw [queue?, hqueues, ← queue?]; simp)
    fun _ _ _ hfits => hfits

/-! ## Parts -/

theorem Sound.register (hs : Sound h) (hrunning : h.running = true) : Sound (h.register user now).2 where
  toIndexed := hs.toIndexed.register (hs.unused (Nat.le_refl _))
  queued id hid := by
    rw [queue?_register (hs.fresh _ (Nat.le_refl _))]
    rw [session?_register (hs.unused (Nat.le_refl _))] at hid
    split
    · rfl
    · next hne => exact hs.queued id (by rwa [if_neg hne] at hid)
  fits id q hq := by
    rw [queue?_register (hs.fresh _ (Nat.le_refl _))] at hq
    split at hq
    · cases hq
      exact ⟨Nat.zero_le _, nofun⟩
    · exact hs.fits id q hq
  fresh id hid := by
    have hlt : h.nextId < id := hid
    rw [queue?_register (hs.fresh _ (Nat.le_refl _)), if_neg (Nat.ne_of_gt hlt)]
    exact hs.fresh id (Nat.le_of_lt hlt)
  closed hstopped := absurd (hrunning.symm.trans hstopped) (by decide)

theorem Sound.unregisterAll (hs : Sound h) (ids : List SessionId) : Sound (ids.foldl Hub.unregister h) := by
  refine hs.of_same_queues (hs.toIndexed.unregisterAll ids) (core_unregisterAll ids) (fun id hid => ?_)
    (queues_unregisterAll ids)
  rw [session?_unregisterAll] at hid
  split at hid
  · cases hid
  · exact hid

theorem Sound.unregister (hs : Sound h) : Sound (h.unregister id) := hs.unregisterAll [id]

theorem Sound.touch (hs : Sound h) : Sound (h.touch id now) := by
  refine hs.of_same_queues hs.toIndexed.touch rfl (fun i hi => ?_) rfl
  rwa [session?_touch, Option.isSome_map] at hi

theorem accepts_iff : h.accepts id = true ↔
    ∃ q, h.queue? id = some q ∧ q.reading = true ∧ q.waiting.length < h.capacity := by
  unfold accepts
  split
  · next q hq => simp [hq]
  · next hq => simp [hq]

theorem Sound.offer (hs : Sound h) : Sound (h.offer user frame).2 := by
  refine hs.of_queues hs.toIndexed.offer core_offer (fun id hid => ?_) _
    (fun _ => hs.toIndexed.queue?_offer) fun id q hq hfits => ?_
  · rw [session?_offer] at hid
    split at hid
    · cases hid
    · exact hid
  · split
    · next htaken =>
      obtain ⟨q', hq', hreading, hroom⟩ := accepts_iff.mp htaken.2
      cases hq.symm.trans hq'
      refine ⟨?_, fun hgone => absurd (hreading.symm.trans hgone) (by decide)⟩
      rw [List.length_append]
      exact hroom
    · exact hfits

theorem Sound.updateQueue (hs : Sound h) (f : Queue → Queue)
    (hf : ∀ q, h.queue? id = some q → q.Fits h.capacity → (f q).Fits h.capacity) :
    Sound (h.updateQueue id f) := by
  refine hs.of_queues (hs.toIndexed.of_eq rfl rfl) rfl (fun _ hid => hid) _ (fun _ => queue?_updateQueue f)
    fun i q hq hfits => ?_
  split
  · next he => exact hf q (he ▸ hq) hfits
  · exact hfits

theorem Sound.shutdown (hs : Sound h) : Sound { h.closeAll with running := false } where
  ids := List.nodup_nil
  users := List.nodup_nil
  index _ _ := by simp [sessionsOf, session?, closeAll]
  distinct _ := List.nodup_nil
  listed _ := by simp [closeAll]
  queued _ hid := by simp [session?, closeAll] at hid
  fits := hs.fits
  fresh := hs.fresh
  closed _ _ := rfl

theorem Sound.reap (hs : Sound h) : Sound (h.reap now) := hs.unregisterAll _

/-! ## Commands and readers -/

theorem take_of_stopped {c : Command} (hstopped : h.running = false) : h.take now c = (stopped c, h) := by
  simp [take, hstopped]

theorem read_fst : (h.read id).1 = match h.waiting id with
    | [] => if (h.session? id).isSome then .empty else .ended
    | frame :: _ => .frame frame := by
  unfold read waiting
  cases h.queue? id with
  | none => rfl
  | some q =>
    obtain ⟨_ | ⟨frame, rest⟩, reading⟩ := q <;> rfl

theorem waiting_read : (h.read id).2.waiting id = (h.waiting id).tail := by
  unfold read
  split
  · next frame rest reading hq => simp [waiting, queue?_updateQueue, hq]
  · next hq =>
    unfold waiting
    cases hfound : h.queue? id with
    | none => rfl
    | some q =>
      obtain ⟨_ | ⟨frame, rest⟩, reading⟩ := q
      · rfl
      · exact absurd hfound (hq _ _ _)

theorem session?_read : (h.read id).2.session? i = h.session? i := by
  unfold read
  split <;> rfl

/-! ## Histories -/

/-- What may happen to a hub. -/
inductive Happening where
  | command (now : Tick) (c : Command)
  /-- The reaper comes, and says when it comes next. -/
  | reaping (now next : Tick)
  /-- A reader takes the first frame that waits. -/
  | reading (id : SessionId)
  /-- A reader takes all that waits. -/
  | readingAll (id : SessionId)
  /-- A reader goes away. -/
  | readerGone (id : SessionId)
deriving DecidableEq, Repr

def happen (h : Hub) : Happening → Hub
  | .command now c => (h.take now c).2
  | .reaping now next => { h.reap now with nextReap := next }
  | .reading id => (h.read id).2
  | .readingAll id => (h.readAll id).2.2
  | .readerGone id => h.dropReader id

/-- The hub after a history, the earliest happening first. -/
def after (h : Hub) (history : List Happening) : Hub := history.foldl happen h

theorem after_append (earlier later : List Happening) :
    h.after (earlier ++ later) = (h.after earlier).after later :=
  List.foldl_append

theorem Sound.take (hs : Sound h) (c : Command) : Sound (h.take now c).2 := by
  unfold Hub.take
  split
  · next hrunning =>
    cases c with
    | register user callerGone =>
      cases callerGone with
      | false => exact hs.register hrunning
      | true => exact (hs.register hrunning).unregister
    | unregister id => exact hs.unregister
    | touch id => exact hs.touch
    | offer user frame => exact hs.offer
    | isOnline user => exact hs
    | stats => exact hs
    | shutdown => exact hs.shutdown
  · exact hs

theorem Sound.read (hs : Sound h) : Sound (h.read id).2 := by
  unfold Hub.read
  split
  · next frame rest reading hq =>
    refine hs.updateQueue (fun _ => ⟨rest, reading⟩) fun q hq' hfits => ?_
    cases hq.symm.trans hq'
    have hlength := hfits.bounded
    exact ⟨Nat.le_of_succ_le hlength, fun hgone => absurd (hfits.gone hgone) (List.cons_ne_nil _ _)⟩
  · exact hs

/-- **Whatever happens keeps a hub sound.** -/
theorem Sound.happen (hs : Sound h) (x : Happening) : Sound (h.happen x) := by
  cases x with
  | command now c => exact hs.take c
  | reaping now next =>
    have hreaped : Sound (h.reap now) := hs.reap
    exact hreaped.of_same_queues (hreaped.toIndexed.of_eq rfl rfl) rfl (fun _ hid => hid) rfl
  | reading id => exact hs.read
  | readingAll id =>
    exact hs.updateQueue (fun q => { q with waiting := [] }) fun _ _ _ => ⟨Nat.zero_le _, fun _ => rfl⟩
  | readerGone id => exact hs.updateQueue (fun _ => ⟨[], false⟩) fun _ _ _ => ⟨Nat.zero_le _, fun _ => rfl⟩

theorem Sound.after (hs : Sound h) (history : List Happening) : Sound (h.after history) := by
  induction history generalizing h with
  | nil => exact hs
  | cons x history ih => exact ih (hs.happen x)

theorem wake_cases : h.wake now = h ∨ ∃ next, h.wake now = h.happen (.reaping now next) := by
  unfold wake
  split
  · exact .inr ⟨_, rfl⟩
  · exact .inl rfl

end Hub
end Parley
