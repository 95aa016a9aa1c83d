/-
Who is present, and what is left of a hub that has stopped.

In every state that a hub can reach, the list of a user holds the user's
sessions (`Presence`), so both counts and the presence of a user can be told
from either index. Sessions come and end one by one, in both indexes at once
(`Arrivals`, `Departures`), and a hub that was stopped answers every command
as a hub without sessions does, whatever happens to it later (`Final`).
-/
import Mathlib.Data.List.Dedup
import Parley.Proofs.Hub.History

namespace Parley.Hub

variable {h : Hub} {user u : UserId} {now : Tick} {id i : SessionId} {frame : String}

/-! ## Presence -/

/-- The sessions and the users who have one say the same of who is present. -/
structure Presence (h : Hub) : Prop where
  session_once : (h.sessions.map (·.1)).Nodup
  user_once : (h.users.map (·.1)).Nodup
  /-- The list of a user holds the user's sessions, each once, and is not empty. -/
  listed : ∀ u ids, h.users.lookup u = some ids →
    ids ≠ [] ∧ ids.Nodup ∧ ∀ id, id ∈ ids ↔ ∃ s, h.session? id = some s ∧ s.user = u
  unlisted : ∀ u, h.users.lookup u = none → ∀ id s, h.session? id = some s → s.user ≠ u
  online : ∀ now u, h.online u now = true ↔ ∃ id s, h.session? id = some s ∧ s.user = u
  count : ∀ now, h.count now = ⟨(h.sessions.map (·.2.user)).dedup.length, h.sessions.length⟩

theorem Indexed.listed_iff (hi : Indexed h) :
    (h.users.lookup u).isSome ↔ ∃ id s, h.session? id = some s ∧ s.user = u := by
  have hindex := fun id => hi.index id u
  have hlisted := hi.listed u
  rw [sessionsOf] at hindex
  cases hu : h.users.lookup u with
  | none =>
    simp only [hu, Option.getD_none, List.not_mem_nil, false_iff] at hindex
    simpa using hindex
  | some ids =>
    simp only [hu, Option.getD_some] at hindex
    obtain ⟨id, hid⟩ := List.exists_mem_of_ne_nil ids fun hnil => hlisted (hnil ▸ hu)
    exact ⟨fun _ => ⟨id, (hindex id).mp hid⟩, fun _ => rfl⟩

theorem Indexed.length_users (hi : Indexed h) :
    h.users.length = (h.sessions.map (·.2.user)).dedup.length := by
  have hlength : (h.users.map (·.1)).length = h.users.length := List.length_map _
  refine hlength.symm.trans ((List.perm_ext_iff_of_nodup hi.users (List.nodup_dedup _)).mpr fun u => ?_).length_eq
  rw [List.mem_dedup]
  calc u ∈ h.users.map (·.1)
      ↔ (h.users.lookup u).isSome := by
        refine ⟨fun hmem => ?_, fun hsome => ?_⟩
        · cases hu : h.users.lookup u with
          | none => exact absurd hmem (notMem_of_lookup hu)
          | some ids => rfl
        · obtain ⟨ids, hu⟩ := Option.isSome_iff_exists.mp hsome
          exact key_mem (mem_of_lookup hu)
    _ ↔ ∃ id s, h.session? id = some s ∧ s.user = u := hi.listed_iff
    _ ↔ u ∈ h.sessions.map (·.2.user) := by
        refine ⟨?_, fun hmem => ?_⟩
        · rintro ⟨id, s, hs, rfl⟩
          exact List.mem_map.mpr ⟨_, mem_of_lookup hs, rfl⟩
        · obtain ⟨⟨id, s⟩, hs, hu⟩ := List.mem_map.mp hmem
          exact ⟨id, s, lookup_of_mem hi.ids hs, hu⟩

theorem Sound.sessions_nil (hs : Sound h) (hstopped : h.running = false) : h.sessions = [] := by
  cases hsessions : h.sessions with
  | nil => rfl
  | cons p rest =>
    have hnone := hs.closed hstopped p.1
    rw [session?, hsessions, List.lookup_cons_self] at hnone
    cases hnone

theorem Sound.presence (hs : Sound h) : Presence h where
  session_once := hs.ids
  user_once := hs.users
  listed u ids hu := by
    have hindex := fun id => hs.index id u
    have hdistinct := hs.distinct u
    simp only [sessionsOf, hu, Option.getD_some] at hindex hdistinct
    exact ⟨fun hnil => hs.listed u (hnil ▸ hu), hdistinct, hindex⟩
  unlisted u hu id s hsession huser := by
    have hsome := hs.toIndexed.listed_iff.mpr ⟨id, s, hsession, huser⟩
    simp [hu] at hsome
  online now u := by
    cases hrunning : h.running with
    | true =>
      simp only [Hub.online, Hub.take, hrunning, if_true]
      exact hs.toIndexed.listed_iff
    | false => simp [Hub.online, take_of_stopped hrunning, stopped, hs.closed hrunning]
  count now := by
    cases hrunning : h.running with
    | true => simp [Hub.count, Hub.take, hrunning, stats, hs.toIndexed.length_users]
    | false => simp [Hub.count, take_of_stopped hrunning, stopped, hs.sessions_nil hrunning]

/-! ## Arrivals -/

/-- How sessions come to a hub that runs, each under a number that no session has. -/
structure Arrivals (h : Hub) : Prop where
  unused : h.session? h.nextId = none
  answer : h.running = true → ∀ now u, (h.take now (.register u false)).1 = .session (some h.nextId)
  session : h.running = true → ∀ now u i, (h.take now (.register u false)).2.session? i =
    if i = h.nextId then some ⟨u, now⟩ else h.session? i
  /-- The user's list has the session at its end, and all others are as they were. -/
  listed : h.running = true → ∀ now u v, (h.take now (.register u false)).2.sessionsOf v =
    if v = u then h.sessionsOf u ++ [h.nextId] else h.sessionsOf v

theorem take_register (hrunning : h.running = true) : h.take now (.register u false) =
    (.session (some h.nextId), (h.register u now).2) := by
  simp only [take, hrunning, if_true]
  rfl

theorem Sound.arrivals (hs : Sound h) : Arrivals h where
  unused := hs.unused (Nat.le_refl _)
  answer hrunning now u := by rw [take_register hrunning]
  session hrunning now u i := by
    rw [take_register hrunning]
    exact session?_register (hs.unused (Nat.le_refl _))
  listed hrunning now u v := by
    rw [take_register hrunning]
    exact sessionsOf_register

/-! ## Departures -/

/-- How sessions end one by one. -/
structure Departures (h : Hub) : Prop where
  /-- Ending a session takes away that one. -/
  unregister : ∀ now id i, (h.take now (.unregister id)).2.session? i = if i = id then none else h.session? i
  unknown : ∀ now id, h.session? id = none → (h.take now (.unregister id)).2 = h
  /-- The reaper takes away the sessions that are idle for too long. -/
  reap : ∀ t i, (h.reap t).session? i =
    (h.session? i).filter fun s => ¬h.settings.staleAfter < t - s.lastSeen
  wake : ∀ t, h.wake t = if h.running ∧ h.nextReap ≤ t
    then { h.reap t with nextReap := t + h.settings.reapInterval } else h
  /-- A session that cannot be handed over leaves nothing behind. -/
  abandoned : ∀ now u, (h.take now (.register u true)).1 = .session none ∧
    (h.take now (.register u true)).2.sessions = h.sessions ∧ (h.take now (.register u true)).2.users = h.users

theorem Indexed.session?_reap (hi : Indexed h) : (h.reap now).session? i =
    (h.session? i).filter fun s => ¬h.settings.staleAfter < now - s.lastSeen := by
  have hstale : i ∈ (h.sessions.filter fun p => h.settings.staleAfter < now - p.2.lastSeen).map (·.1) ↔
      ∃ s, h.session? i = some s ∧ h.settings.staleAfter < now - s.lastSeen := by
    simp only [List.mem_map, List.mem_filter, decide_eq_true_eq]
    refine ⟨?_, ?_⟩
    · rintro ⟨⟨_, s⟩, ⟨hs, hidle⟩, rfl⟩
      exact ⟨s, lookup_of_mem hi.ids hs, hidle⟩
    · rintro ⟨s, hs, hidle⟩
      exact ⟨(i, s), ⟨mem_of_lookup hs, hidle⟩, rfl⟩
  rw [Hub.reap, session?_unregisterAll]
  cases hs : h.session? i with
  | none => simp
  | some s =>
    simp only [hstale, hs, Option.some.injEq, exists_eq_left', Option.filter_some, decide_not,
      Bool.not_eq_true', decide_eq_false_iff_not, ite_not]

theorem Sound.departures (hs : Sound h) : Departures h where
  unregister now id i := by
    cases hrunning : h.running with
    | true =>
      simp only [Hub.take, hrunning, if_true]
      exact session?_unregister
    | false => simp [take_of_stopped hrunning, hs.closed hrunning]
  unknown now id hnone := by
    unfold Hub.take
    split
    · exact unregister_of_none hnone
    · rfl
  reap _ _ := hs.toIndexed.session?_reap
  wake _ := rfl
  abandoned now u := by
    cases hrunning : h.running with
    | true =>
      simp only [Hub.take, hrunning, if_true]
      exact ⟨trivial, hs.toIndexed.unregister_register (hs.unused (Nat.le_refl _))⟩
    | false =>
      rw [take_of_stopped hrunning]
      exact ⟨rfl, rfl, rfl⟩

/-! ## Stopping -/

/-- A hub that stays stopped: no command changes it, and readers find what
was left for them and then the end. -/
structure Final (h : Hub) : Prop where
  sessions : ∀ id, h.session? id = none
  answers : ∀ now c, h.take now c = (stopped c, h)
  opening : ∀ now u, h.open? u now = (.error (.unavailable "connection hub stopped"), h)
  sending : ∀ now u frame, h.send u frame now = (false, h)
  online : ∀ now u, h.online u now = false
  count : ∀ now, h.count now = ⟨0, 0⟩
  reading : ∀ id, (h.read id).1 = match h.waiting id with
    | [] => .ended
    | frame :: _ => .frame frame
  ended : ∀ id, ((h.after (List.replicate (h.waiting id).length (.reading id))).read id).1 = .ended

theorem read_drained (hended : h.session? id = none) :
    ((h.after (List.replicate (h.waiting id).length (.reading id))).read id).1 = .ended := by
  induction hwaiting : h.waiting id generalizing h with
  | nil =>
    change (h.read id).1 = .ended
    rw [read_fst, hwaiting, hended]
    rfl
  | cons frame rest ih =>
    have hrest : (h.read id).2.waiting id = rest := by rw [waiting_read, hwaiting, List.tail_cons]
    exact ih (session?_read.trans hended) hrest

theorem running_happen (hstopped : h.running = false) (x : Happening) : (h.happen x).running = false := by
  cases x with
  | command now c =>
    simp only [happen, take_of_stopped hstopped]
    exact hstopped
  | reaping now next =>
    exact (congrArg (·.2.2) (core_unregisterAll (h := h) _)).trans hstopped
  | reading id =>
    change (h.read id).2.running = false
    unfold read
    split <;> exact hstopped
  | readingAll id => exact hstopped
  | readerGone id => exact hstopped

theorem running_after (hstopped : h.running = false) (history : List Happening) :
    (h.after history).running = false := by
  induction history generalizing h with
  | nil => exact hstopped
  | cons x history ih => exact ih (running_happen hstopped x)

theorem Sound.final (hs : Sound h) (hstopped : h.running = false) : Final h := by
  have htake : ∀ now c, h.take now c = (stopped c, h) := fun _ _ => take_of_stopped hstopped
  exact
    { sessions := hs.closed hstopped
      answers := htake
      opening := fun now u => by simp [open?, htake, stopped, stoppedFailure]
      sending := fun now u frame => by simp [send, htake, stopped]
      online := fun now u => by simp [Hub.online, htake, stopped]
      count := fun now => by simp [Hub.count, htake, stopped]
      reading := fun id => by rw [read_fst, hs.closed hstopped id]; rfl
      ended := fun id => read_drained (hs.closed hstopped id) }

/-- **Whatever happened to a hub, its indexes agree, sessions come and end one by one,
and a hub that takes the command to stop has stopped for good**, whatever
happens to it later. -/
theorem present_until_stopped (settings : HubSettings) (started : Tick) (history : List Happening) :
    let h := (start settings started).after history
    Presence h ∧ Arrivals h ∧ Departures h ∧
      ∀ now later, Final ((h.take now .shutdown).2.after later) := by
  have hs : Sound ((start settings started).after history) := (Sound.start settings).after history
  refine ⟨hs.presence, hs.arrivals, hs.departures, fun now later => ((hs.take .shutdown).after later).final ?_⟩
  refine running_after ?_ later
  unfold take
  split
  · rfl
  · next hrunning => simpa using hrunning

/-- A socket that closes a session which was evicted before takes no other with it. -/
example : ((start {} 0).after [.command 0 (.register 1 false), .command 0 (.register 1 false), .readerGone 0,
    .command 1 (.offer 1 "frame"), .command 2 (.unregister 0)]).count 3 = ⟨1, 1⟩ := by decide

end Parley.Hub
