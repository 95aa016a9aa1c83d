/-
What puts frames into the queues of sessions.

A queue gains a frame when it holds the frame once more than before. Of all
that the hub does, only offering a frame makes a queue gain one, and only
that frame (`Hub.take_gains`): opening and ending sessions, reading, and
the reaper leave queues as they are or take from them.
-/
import Parley.Hub

namespace Parley

namespace Hub

variable {h h' h'' : Hub} {frame g : String} {now : Tick} {id i : SessionId}

/-- The frames that wait for a session. -/
def waiting (h : Hub) (id : SessionId) : List String := ((h.queue? id).map (·.waiting)).getD []

/-- Some queue holds the frame once more than before. -/
def Gains (frame : String) (h h' : Hub) : Prop :=
  ∃ id, (h.waiting id).count frame < (h'.waiting id).count frame

theorem Gains.of_trans (h' : Hub) (hgains : Gains g h h'') : Gains g h h' ∨ Gains g h' h'' := by
  obtain ⟨id, hlt⟩ := hgains
  by_cases hle : (h'.waiting id).count g ≤ (h.waiting id).count g
  · exact .inr ⟨id, Nat.lt_of_le_of_lt hle hlt⟩
  · exact .inl ⟨id, Nat.not_le.mp hle⟩

theorem not_gains_of_queues (hq : h'.queues = h.queues) : ¬Gains g h h' := by
  rintro ⟨id, hlt⟩
  simp [waiting, queue?, hq] at hlt

/-! ## Parts -/

theorem lookup_update {β : Type} (f : β → β) (l : List (SessionId × β)) :
    (l.map fun (j, v) => if j = id then (j, f v) else (j, v)).lookup i =
      (l.lookup i).map fun v => if i = id then f v else v := by
  induction l with
  | nil => rfl
  | cons p l ih =>
    obtain ⟨j, v⟩ := p
    have hchanged : (if j = id then (j, f v) else (j, v)) = (j, if j = id then f v else v) := by
      split <;> rfl
    simp only [List.map_cons, hchanged, List.lookup_cons]
    cases hij : i == j with
    | true =>
      obtain rfl : i = j := by simpa using hij
      rfl
    | false => exact ih

theorem queue?_updateQueue (f : Queue → Queue) :
    (h.updateQueue id f).queue? i = (h.queue? i).map fun q => if i = id then f q else q :=
  lookup_update f h.queues

theorem not_gains_updateQueue {f : Queue → Queue} (hf : ∀ q : Queue, (f q).waiting.count g ≤ q.waiting.count g) :
    ¬Gains g h (h.updateQueue id f) := by
  rintro ⟨i, hlt⟩
  rw [waiting, waiting, queue?_updateQueue] at hlt
  cases hq : h.queue? i with
  | none => simp [hq] at hlt
  | some q =>
    simp only [hq, Option.map_some, Option.getD_some] at hlt
    split at hlt
    · exact absurd hlt (Nat.not_lt.mpr (hf q))
    · exact absurd hlt (Nat.lt_irrefl _)

@[simp] theorem queues_unregister : (h.unregister id).queues = h.queues := by
  unfold unregister
  split <;> rfl

theorem queues_unregisterAll (ids : List SessionId) : (ids.foldl unregister h).queues = h.queues := by
  induction ids generalizing h with
  | nil => rfl
  | cons id ids ih => rw [List.foldl_cons, ih, queues_unregister]

theorem not_gains_register {user : UserId} : ¬Gains g h (h.register user now).2 := by
  rintro ⟨i, hlt⟩
  simp only [waiting, queue?, register, List.lookup_append] at hlt
  cases hq : h.queues.lookup i with
  | some q => simp [hq] at hlt
  | none =>
    -- The queue of the new session is empty.
    rw [hq, Option.none_or, List.lookup_cons] at hlt
    cases hi : i == h.nextId <;> simp [hi] at hlt

/-- Puts a frame into the queue of a session. -/
def put (frame : String) (h : Hub) (id : SessionId) : Hub :=
  h.updateQueue id fun q => { q with waiting := q.waiting ++ [frame] }

theorem not_gains_putAll (hne : g ≠ frame) (ids : List SessionId) : ¬Gains g h (ids.foldl (put frame) h) := by
  induction ids generalizing h with
  | nil => exact not_gains_of_queues rfl
  | cons id ids ih =>
    intro hgains
    rcases hgains.of_trans (h.put frame id) with hgains | hgains
    · refine not_gains_updateQueue (fun q => ?_) hgains
      simp [hne.symm]
    · exact ih hgains

theorem offer_gains {user : UserId} (hgains : Gains g h (h.offer user frame).2) : g = frame := by
  refine Decidable.byContradiction fun hne => ?_
  rcases hgains.of_trans (((h.sessionsOf user).filter h.accepts).foldl (put frame) h) with hgains | hgains
  · exact not_gains_putAll hne _ hgains
  · exact not_gains_of_queues (queues_unregisterAll _) hgains

/-! ## Commands -/

theorem take_gains {c : Command} (hgains : Gains g h (h.take now c).2) : ∃ user, c = .offer user g := by
  unfold take at hgains
  split at hgains
  · cases c with
    | offer user frame =>
      rw [offer_gains hgains]
      exact ⟨user, rfl⟩
    | register user callerGone =>
      cases callerGone with
      | false => exact absurd hgains not_gains_register
      | true =>
        rcases hgains.of_trans (h.register user now).2 with hgains | hgains
        · exact absurd hgains not_gains_register
        · exact absurd hgains (not_gains_of_queues queues_unregister)
    | unregister id => exact absurd hgains (not_gains_of_queues queues_unregister)
    | _ => exact absurd hgains (not_gains_of_queues rfl)
  · exact absurd hgains (not_gains_of_queues rfl)

theorem send_snd {user : UserId} : (h.send user frame now).2 = (h.take now (.offer user frame)).2 := by
  unfold send
  split <;> simp_all

theorem open?_snd {user : UserId} : (h.open? user now).2 = (h.take now (.register user false)).2 := by
  unfold open?
  split <;> simp_all

/-! ## Readers -/

theorem not_gains_readAll : ¬Gains g h (h.readAll id).2.2 := not_gains_updateQueue fun _ => by simp

theorem not_gains_dropReader : ¬Gains g h (h.dropReader id) := not_gains_updateQueue fun _ => by simp

end Hub
end Parley
