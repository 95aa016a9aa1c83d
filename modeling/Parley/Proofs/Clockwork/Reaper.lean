/-
The hub on the clock.

Most acts are quiet: they change nothing on the clock and of the hub the
queues alone (`quiet_act`), so what holds of sessions is shown for commands,
the reaper and the passing of time. `Kept` says that the parts of a
clockwork fit each other, and `Punctual` that the reaper is never late and
that sessions were last seen when the record says so.
-/
import Parley.Proofs.Clockwork

namespace Parley

/-! ## The hub -/

namespace Hub

variable {h : Hub} {now : Tick} {id : SessionId} {x : Session}

theorem Sound.seen_take (hs : Sound h) {c : Command} (hx : (h.take now c).2.session? id = some x) :
    Clockwork.seenBy? c (h.take now c).1 = some id ∧ x.lastSeen = now ∧ (id = h.nextId ∨ (h.session? id).isSome) ∨
      Clockwork.seenBy? c (h.take now c).1 ≠ some id ∧ h.session? id = some x := by
  cases hrunning : h.running with
  | false =>
    rw [take_of_stopped hrunning, hs.closed hrunning] at hx
    cases hx
  | true =>
    simp only [Hub.take, hrunning, if_true] at hx ⊢
    cases c with
    | register user callerGone =>
      have hnew := hs.unused (Nat.le_refl h.nextId)
      cases callerGone with
      | true =>
        have hkept : ((h.register user now).2.unregister h.nextId).sessions = h.sessions :=
          (hs.toIndexed.unregister_register hnew).1
        refine .inr ⟨(Option.some_ne_none id).symm, ?_⟩
        simp only [if_true] at hx
        rwa [session?, show ((h.register user now).2.unregister (h.register user now).1).sessions = h.sessions from hkept] at hx
      | false =>
        simp only [Bool.false_eq_true, if_false] at hx ⊢
        rw [session?_register hnew] at hx
        split at hx
        · next hid =>
          cases hx
          exact .inl ⟨congrArg some hid.symm, rfl, .inl hid⟩
        · next hid => exact .inr ⟨fun he => hid (Option.some.inj he).symm, hx⟩
    | unregister i =>
      simp only [session?_unregister] at hx
      split at hx
      · cases hx
      · exact .inr ⟨(Option.some_ne_none id).symm, hx⟩
    | touch i =>
      simp only [session?_touch] at hx
      obtain ⟨x₀, hx₀, rfl⟩ := Option.map_eq_some_iff.mp hx
      by_cases hid : id = i
      · rw [if_pos hid]
        exact .inl ⟨congrArg some hid.symm, rfl, .inr (by rw [hx₀]; rfl)⟩
      · rw [if_neg hid]
        exact .inr ⟨fun he => hid (Option.some.inj he).symm, hx₀⟩
    | offer user frame =>
      simp only [session?_offer] at hx
      split at hx
      · cases hx
      · exact .inr ⟨(Option.some_ne_none id).symm, hx⟩
    | isOnline | stats => exact .inr ⟨(Option.some_ne_none id).symm, hx⟩
    | shutdown => cases hx

theorem nextReap_unregisterAll (ids : List SessionId) : (ids.foldl unregister h).nextReap = h.nextReap := by
  induction ids generalizing h with
  | nil => rfl
  | cons id ids ih =>
    rw [List.foldl_cons, ih, unregister]
    split <;> rfl

theorem nextReap_offer {user : UserId} {frame : String} : (h.offer user frame).2.nextReap = h.nextReap := by
  rw [offer, nextReap_unregisterAll]
  generalize (h.sessionsOf user).filter h.accepts = ids
  induction ids generalizing h with
  | nil => rfl
  | cons id ids ih => exact ih

theorem take_frame (h : Hub) (now : Tick) (c : Command) : (h.take now c).2.settings = h.settings ∧ (h.take now c).2.nextReap = h.nextReap ∧
    ((h.take now c).2.running = true → h.running = true) ∧ h.nextId ≤ (h.take now c).2.nextId := by
  cases hrunning : h.running with
  | false => simp [take_of_stopped hrunning, hrunning]
  | true =>
    simp only [Hub.take, hrunning, if_true, implies_true, true_and]
    have ended (id : SessionId) (h : Hub) : (h.unregister id).settings = h.settings ∧
        (h.unregister id).nextReap = h.nextReap ∧ (h.unregister id).nextId = h.nextId :=
      ⟨congrArg (·.1) core_unregister, nextReap_unregisterAll [id], congrArg (·.2.1) core_unregister⟩
    cases c with
    | register user callerGone =>
      cases callerGone with
      | true =>
        obtain ⟨hsettings, hreap, hnext⟩ := ended (h.register user now).1 (h.register user now).2
        exact ⟨hsettings, hreap, Nat.le_of_lt (Nat.lt_of_lt_of_eq (Nat.lt_succ_self h.nextId) hnext.symm)⟩
      | false => exact ⟨rfl, rfl, Nat.le_succ _⟩
    | unregister id =>
      obtain ⟨hsettings, hreap, hnext⟩ := ended id h
      exact ⟨hsettings, hreap, Nat.le_of_eq hnext.symm⟩
    | offer user frame =>
      exact ⟨congrArg (·.1) core_offer, nextReap_offer, Nat.le_of_eq (congrArg (·.2.1) core_offer).symm⟩
    | touch | isOnline | stats | shutdown => exact ⟨rfl, rfl, Nat.le_refl _⟩

theorem opened_take {c : Command} {g : SessionId × UserId}
    (hg : Clockwork.opened? c (h.take now c).1 = some g) :
    g.1 = h.nextId ∧ (h.take now c).2.nextId = h.nextId + 1 ∧ Clockwork.seenBy? c (h.take now c).1 = some g.1 := by
  cases c with
  | register user callerGone =>
    unfold Hub.take at hg ⊢
    split at hg
    · next hrunning =>
      simp only [hrunning, if_true] at hg ⊢
      cases callerGone with
      | true => cases hg
      | false =>
        cases hg
        exact ⟨rfl, rfl, rfl⟩
    · cases hg
  | _ => cases hg

theorem Sound.session?_wake (hs : Sound h) (hx : h.session? id = some x) : (h.wake now).session? id =
    if h.nextReap ≤ now ∧ h.settings.staleAfter < now - x.lastSeen then none else some x := by
  have hrunning := hs.running_of_session (Option.isSome_of_eq_some hx)
  by_cases hdue : h.nextReap ≤ now
  · have hreaped : (h.wake now).session? id = (h.reap now).session? id := by
      simp only [wake, hrunning, hdue, and_self, if_true]
      rfl
    rw [hreaped, hs.toIndexed.session?_reap, hx]
    simp only [Option.filter_some, decide_not, Bool.not_eq_true', decide_eq_false_iff_not, hdue, true_and, ite_not]
  · simp [wake, hdue, hx]

theorem Sound.live_of_wake (hs : Sound h) (hx : (h.wake now).session? id = some x) : (h.session? id).isSome := by
  rcases (wake_cases : h.wake now = h ∨ _) with hsame | ⟨next, hreaped⟩
  · rw [← hsame, hx]
    rfl
  · rw [hreaped] at hx
    have hx : (h.reap now).session? id = some x := hx
    rw [hs.toIndexed.session?_reap] at hx
    rw [(Option.filter_eq_some_iff.mp hx).1]
    rfl

theorem read_queues (h : Hub) (id : SessionId) : ∃ queues, (h.read id).2 = { h with queues := queues } := by
  unfold read
  split
  · exact ⟨_, rfl⟩
  · exact ⟨h.queues, rfl⟩

end Hub

namespace Clockwork

variable {hub : HubSettings} {socket : SocketSettings} {s s' : Clockwork} {id : SessionId}

/-! ## Quiet acts -/

theorem mem_of_socket? {w : Socket} (h : s.socket? id = some w) : w ∈ s.sockets ∧ w.session = id :=
  ⟨List.mem_of_find?_eq_some h, by simpa using List.find?_some h⟩

theorem sessions_putSocket (s : Clockwork) (w : Socket) :
    (s.putSocket w).sockets.map (·.session) = s.sockets.map (·.session) := by
  rw [putSocket, List.map_map]
  refine List.map_congr_left fun v _ => ?_
  simp only [Function.comp_apply]
  split
  · next h => exact h.symm
  · rfl

/-- An act changes nothing on the clock, and of the hub the queues alone. -/
structure Quiet (s s' : Clockwork) : Prop where
  settings : s'.settings = s.settings
  origin : s'.origin = s.origin
  time : s'.time = s.time
  hub : ∃ queues, s'.hub = { s.hub with queues := queues }
  sound : s.hub.Sound → s'.hub.Sound
  granted : (s'.granted.map (·.1)).Sublist (s.granted.map (·.1))
  commands : ∀ c ∈ s.commands, c ∈ s'.commands
  late : s'.late = s.late
  touchedAt : s'.touchedAt = s.touchedAt

theorem Quiet.refl (s : Clockwork) : Quiet s s :=
  ⟨rfl, rfl, rfl, ⟨s.hub.queues, rfl⟩, fun h => h, List.Sublist.refl _, fun _ h => h, rfl, rfl⟩

theorem quiet_hearing (s : Clockwork) (w : Socket) (m : Incoming) : Quiet s (s.hearing w m) :=
  { Quiet.refl s with commands := fun _ hc => List.mem_append_left _ hc }

theorem quiet_beating (s : Clockwork) (w : Socket) : Quiet s (s.beating w) := { Quiet.refl s with }

theorem quiet_reading (s : Clockwork) (w : Socket) : Quiet s (s.reading w) :=
  { Quiet.refl s with hub := s.hub.read_queues w.session, sound := fun h => h.read }

/-- Acts are quiet but for commands, the reaper and the passing of time. -/
def Act.isQuiet : Act → Bool
  | .take | .reap | .pass => false
  | _ => true

theorem quiet_act (s : Clockwork) (a : Act) (hquiet : a.isQuiet = true) : Quiet s (s.act a) := by
  cases a with
  | hear id m =>
    simp only [act]
    split
    · split
      · exact quiet_hearing s _ m
      · exact .refl s
    · exact .refl s
  | beat id =>
    simp only [act]
    split
    · exact quiet_beating s _
    · exact .refl s
  | read id =>
    simp only [act]
    split
    · split
      · exact quiet_reading s _
      · exact .refl s
    · exact .refl s
  | leave id => exact { Quiet.refl s with hub := ⟨_, rfl⟩, sound := fun h => h.happen (.readerGone id) }
  | tell c => exact { Quiet.refl s with commands := fun _ hc => List.mem_append_left _ hc }
  | connect id =>
    simp only [act]
    split
    · exact { Quiet.refl s with granted := List.filter_sublist.map _ }
    · exact .refl s
  | decline id =>
    exact { Quiet.refl s with
      granted := List.filter_sublist.map _
      commands := fun _ hc => List.mem_append_left _ hc }
  | take | reap | pass => cases hquiet

/-! ## Bookkeeping -/

/-- The sessions that have a socket or wait for one. -/
def ids (s : Clockwork) : List SessionId := s.granted.map (·.1) ++ s.sockets.map (·.session)

/-- The parts of a clockwork fit each other. -/
structure Kept (hub : HubSettings) (socket : SocketSettings) (s : Clockwork) : Prop where
  sound : s.hub.Sound
  hub : s.hub.settings = hub
  settings : s.settings = socket
  /-- No session has two sockets. -/
  distinct : s.ids.Nodup
  old : ∀ id ∈ s.ids, id < s.hub.nextId

theorem Quiet.kept (quiet : Quiet s s') (h : Kept hub socket s) (distinct : s'.ids.Nodup)
    (old : ∀ id ∈ s'.ids, id ∈ s.ids) : Kept hub socket s' := by
  obtain ⟨queues, hhub⟩ := quiet.hub
  refine ⟨quiet.sound h.sound, ?_, quiet.settings.trans h.settings, distinct, fun id hid => ?_⟩
  · rw [hhub]
    exact h.hub
  · rw [hhub]
    exact h.old id (old id hid)

theorem Quiet.kept_of_sublist (quiet : Quiet s s') (h : Kept hub socket s)
    (hsockets : s'.sockets.map (·.session) = s.sockets.map (·.session)) : Kept hub socket s' := by
  have hids : s'.ids.Sublist s.ids := by
    rw [ids, ids, hsockets]
    exact quiet.granted.append (List.Sublist.refl _)
  exact quiet.kept h (h.distinct.sublist hids) fun _ hid => hids.subset hid

theorem Kept.connect (h : Kept hub socket s) (id : SessionId) : Kept hub socket (s.act (.connect id)) := by
  have quiet := quiet_act s (.connect id) rfl
  revert quiet
  simp only [act]
  split
  · next user hg =>
    intro quiet
    have hmem : id ∈ s.granted.map (·.1) := Hub.key_mem (Hub.mem_of_lookup hg)
    obtain ⟨hgranted, hsockets, hapart⟩ := List.nodup_append.mp h.distinct
    have behind : ((s.granted.filter fun g => g.1 ≠ id).map (·.1)).Sublist (s.granted.map (·.1)) :=
      List.filter_sublist.map _
    have gone : id ∉ (s.granted.filter fun g => g.1 ≠ id).map (·.1) := by simp
    have apart (i : SessionId) (hi : i ∈ (s.granted.filter fun g => g.1 ≠ id).map (·.1)) (j : SessionId)
        (hj : j ∈ s.sockets.map (·.session) ++ [id]) : i ≠ j := by
      rcases List.mem_append.mp hj with hj | hj
      · exact hapart i (behind.subset hi) j hj
      · rw [List.mem_singleton.mp hj]
        exact fun he => gone (he ▸ hi)
    have fresh : (s.sockets.map (·.session) ++ [id]).Nodup :=
      List.nodup_append.mpr ⟨hsockets, List.nodup_singleton id, fun i hi j hj he =>
        hapart id hmem i hi ((List.mem_singleton.mp hj).symm.trans he.symm)⟩
    refine quiet.kept h ?_ fun i hi => ?_
    · simp only [ids, List.map_append]
      exact List.nodup_append.mpr ⟨hgranted.sublist behind, fresh, apart⟩
    · simp only [ids, List.map_append, List.mem_append] at hi ⊢
      rcases hi with hi | hi | hi
      · exact .inl (behind.subset hi)
      · exact .inr hi
      · rw [List.mem_singleton.mp hi]
        exact .inl hmem
  · exact fun _ => h

theorem ids_taking (s : Clockwork) (c : Hub.Command) (rest : List Hub.Command) :
    (s.taking c rest).ids.Perm ((opened? c (s.hub.take s.time c).1).toList.map (·.1) ++ s.ids) := by
  simp only [taking, ids, List.map_append, List.append_assoc]
  exact List.perm_append_comm_assoc _ _ _

theorem Kept.take (h : Kept hub socket s) : Kept hub socket (s.act .take) := by
  simp only [act]
  split
  · next c rest hc =>
    obtain ⟨hsettings, -, -, hnext⟩ := s.hub.take_frame s.time c
    have hids := ids_taking s c rest
    have old : ∀ id ∈ s.ids, id < (s.taking c rest).hub.nextId := fun id hid =>
      Nat.lt_of_lt_of_le (h.old id hid) hnext
    have parts (distinct : (s.taking c rest).ids.Nodup) (old : ∀ id ∈ (s.taking c rest).ids,
        id < (s.taking c rest).hub.nextId) : Kept hub socket (s.taking c rest) :=
      ⟨h.sound.take c, hsettings.trans h.hub, h.settings, distinct, old⟩
    cases hopened : opened? c (s.hub.take s.time c).1 with
    | none =>
      rw [hopened] at hids
      exact parts (hids.nodup_iff.mpr h.distinct) fun id hid => old id (hids.mem_iff.mp hid)
    | some g =>
      rw [hopened] at hids
      obtain ⟨hnew, hlast, -⟩ := Hub.opened_take hopened
      have fresh : g.1 ∉ s.ids := fun hg => Nat.lt_irrefl _ (hnew ▸ h.old g.1 hg)
      refine parts (hids.nodup_iff.mpr (List.nodup_cons.mpr ⟨fresh, h.distinct⟩)) fun id hid => ?_
      rcases List.mem_cons.mp (hids.mem_iff.mp hid) with rfl | hid
      · exact Nat.lt_of_lt_of_eq (hnew ▸ Nat.lt_succ_self _) hlast.symm
      · exact old id hid
  · exact h

theorem wake_frame (s : Clockwork) : (s.hub.wake s.time).settings = s.hub.settings ∧
    (s.hub.wake s.time).nextId = s.hub.nextId := by
  unfold Hub.wake
  split
  · exact ⟨congrArg (·.1) (Hub.core_unregisterAll _), congrArg (·.2.1) (Hub.core_unregisterAll _)⟩
  · exact ⟨rfl, rfl⟩

theorem Kept.reap (h : Kept hub socket s) : Kept hub socket (s.act .reap) := by
  obtain ⟨hsettings, hnext⟩ := wake_frame s
  have sound : (s.hub.wake s.time).Sound := by
    rcases Hub.wake_cases (h := s.hub) with hsame | ⟨next, hreaped⟩
    · rw [hsame]
      exact h.sound
    · rw [hreaped]
      exact h.sound.happen _
  exact ⟨sound, hsettings.trans h.hub, h.settings, h.distinct, fun id hid => hnext ▸ h.old id hid⟩

theorem Kept.act (h : Kept hub socket s) (a : Act) : Kept hub socket (s.act a) := by
  cases a with
  | take => exact h.take
  | reap => exact h.reap
  | connect id => exact h.connect id
  | pass => exact ⟨h.sound, h.hub, h.settings, h.distinct, h.old⟩
  | hear id m =>
    refine (quiet_act s (.hear id m) rfl).kept_of_sublist h ?_
    simp only [Clockwork.act]
    split
    · split
      · exact sessions_putSocket s _
      · rfl
    · rfl
  | beat id =>
    refine (quiet_act s (.beat id) rfl).kept_of_sublist h ?_
    simp only [Clockwork.act]
    split
    · exact sessions_putSocket s _
    · rfl
  | read id =>
    refine (quiet_act s (.read id) rfl).kept_of_sublist h ?_
    simp only [Clockwork.act]
    split
    · split
      · exact sessions_putSocket s _
      · rfl
    · rfl
  | leave id => exact (quiet_act s (.leave id) rfl).kept_of_sublist h rfl
  | tell c => exact (quiet_act s (.tell c) rfl).kept_of_sublist h rfl
  | decline id => exact (quiet_act s (.decline id) rfl).kept_of_sublist h rfl

/-! ## The reaper -/

/-- The reaper is never late, and comes for a session soon after it has become stale. -/
structure Punctual (s : Clockwork) : Prop where
  soon : s.hub.running = true → s.time ≤ s.hub.nextReap
  near : s.hub.nextReap ≤ s.time + s.hub.settings.reapInterval
  seen : ∀ id x, s.hub.session? id = some x → x.lastSeen = s.touchedAt id ∧ s.touchedAt id ≤ s.time ∧
    s.hub.nextReap ≤ s.touchedAt id + s.hub.settings.staleAfter + s.hub.settings.reapInterval
  /-- A session that waits for its socket was opened just now. -/
  fresh : ∀ id ∈ s.granted.map (·.1), (s.hub.session? id).isSome → s.touchedAt id = s.time

theorem Quiet.punctual (quiet : Quiet s s') (h : Punctual s) : Punctual s' := by
  obtain ⟨queues, hhub⟩ := quiet.hub
  refine ⟨?_, ?_, ?_, fun id hid => ?_⟩ <;> rw [hhub, quiet.time]
  · exact h.soon
  · exact h.near
  · rw [quiet.touchedAt]
    exact h.seen
  · rw [quiet.touchedAt]
    exact h.fresh id (quiet.granted.subset hid)

theorem touchedAt_taking (s : Clockwork) (c : Hub.Command) (rest : List Hub.Command) (id : SessionId) :
    (s.taking c rest).touchedAt id =
      if seenBy? c (s.hub.take s.time c).1 = some id then s.time else s.touchedAt id := by
  simp only [taking]
  cases seenBy? c (s.hub.take s.time c).1 with
  | none => simp
  | some i =>
    by_cases hid : id = i
    · simp [hid]
    · simp [Function.update_of_ne hid, Ne.symm hid]

theorem Punctual.taking (h : Punctual s) (hs : s.hub.Sound) (c : Hub.Command) (rest : List Hub.Command) :
    Punctual (s.taking c rest) := by
  obtain ⟨hsettings, hreap, hrunning, -⟩ := s.hub.take_frame s.time c
  have hsettings : (s.taking c rest).hub.settings = s.hub.settings := hsettings
  have hreap : (s.taking c rest).hub.nextReap = s.hub.nextReap := hreap
  have seen (id : SessionId) (x : Session) (hx : (s.taking c rest).hub.session? id = some x) :
      x.lastSeen = s.time ∧ (s.taking c rest).touchedAt id = s.time ∨
        s.hub.session? id = some x ∧ (s.taking c rest).touchedAt id = s.touchedAt id := by
    rw [touchedAt_taking]
    rcases hs.seen_take hx with ⟨hseen, hnow, -⟩ | ⟨hseen, hsame⟩
    · exact .inl ⟨hnow, if_pos hseen⟩
    · exact .inr ⟨hsame, if_neg hseen⟩
  refine ⟨fun hstill => ?_, ?_, fun id x hx => ?_, fun id hid hlive => ?_⟩
  · rw [hreap]
    exact h.soon (hrunning hstill)
  · rw [hreap, hsettings]
    exact h.near
  · have hnear := h.near
    rw [hreap, hsettings]
    change x.lastSeen = _ ∧ _ ≤ s.time ∧ _
    rcases seen id x hx with ⟨hnow, htouched⟩ | ⟨hsame, htouched⟩
    · rw [hnow, htouched]
      exact ⟨rfl, Nat.le_refl _, by grind⟩
    · rw [htouched]
      exact h.seen id x hsame
  · rw [Clockwork.taking, List.map_append] at hid
    rcases List.mem_append.mp hid with hid | hid
    · obtain ⟨x, hx⟩ := Option.isSome_iff_exists.mp hlive
      rcases seen id x hx with ⟨-, htouched⟩ | ⟨hsame, htouched⟩
      · exact htouched
      · rw [htouched]
        exact h.fresh id hid (by rw [hsame]; rfl)
    · obtain ⟨g, hg, rfl⟩ := List.mem_map.mp hid
      obtain ⟨-, -, hseen⟩ := Hub.opened_take (Option.mem_toList.mp hg)
      exact (touchedAt_taking s c rest g.1).trans (if_pos hseen)

theorem Punctual.reaping (h : Punctual s) (hs : s.hub.Sound) : Punctual (s.act .reap) := by
  obtain ⟨hsettings, -⟩ := wake_frame s
  have hsettings : (s.act .reap).hub.settings = s.hub.settings := hsettings
  have kept (id : SessionId) (x : Session) (hx : (s.act .reap).hub.session? id = some x) :
      s.hub.session? id = some x ∧
        ¬(s.hub.nextReap ≤ s.time ∧ s.hub.settings.staleAfter < s.time - x.lastSeen) := by
    have hx : (s.hub.wake s.time).session? id = some x := hx
    obtain ⟨y, hold⟩ := Option.isSome_iff_exists.mp (hs.live_of_wake hx)
    rw [hs.session?_wake hold] at hx
    split at hx
    · cases hx
    · next hkept =>
      cases hx
      exact ⟨hold, hkept⟩
  by_cases hdue : s.hub.running = true ∧ s.hub.nextReap ≤ s.time
  · have hnext : (s.act .reap).hub.nextReap = s.time + s.hub.settings.reapInterval := by
      simp only [Clockwork.act, Hub.wake, if_pos hdue]
    refine ⟨fun _ => ?_, ?_, fun id x hx => ?_, fun id hid hlive => ?_⟩
    · rw [hnext]
      exact Nat.le_add_right _ _
    · rw [hnext, hsettings]
      exact Nat.le_refl _
    · obtain ⟨hold, hkept⟩ := kept id x hx
      obtain ⟨hlast, htime, -⟩ := h.seen id x hold
      rw [hnext, hsettings]
      refine ⟨hlast, htime, ?_⟩
      have hrecent : ¬s.hub.settings.staleAfter < s.time - x.lastSeen := fun hstale => hkept ⟨hdue.2, hstale⟩
      change _ ≤ s.touchedAt id + _ + _
      grind
    · obtain ⟨x, hx⟩ := Option.isSome_iff_exists.mp hlive
      exact h.fresh id hid (by rw [(kept id x hx).1]; rfl)
  · have hsame : s.act .reap = s := by
      simp only [Clockwork.act, Hub.wake, if_neg hdue]
    rw [hsame]
    exact h

theorem Punctual.act (h : Punctual s) (hs : s.hub.Sound) (a : Act) (rest : a = .pass → s.AtRest) :
    Punctual (s.act a) := by
  cases a with
  | take =>
    simp only [Clockwork.act]
    split
    · exact h.taking hs _ _
    · exact h
  | reap => exact h.reaping hs
  | pass =>
    have hrest := rest rfl
    refine ⟨fun hrunning => hrest.reaped hrunning, ?_, fun id x hx => ?_, fun id hid => ?_⟩
    · have hnear := h.near
      change s.hub.nextReap ≤ s.time + 1 + s.hub.settings.reapInterval
      grind
    · obtain ⟨hlast, htime, hsoon⟩ := h.seen id x hx
      exact ⟨hlast, Nat.le_succ_of_le htime, hsoon⟩
    · rw [Clockwork.act, hrest.connected] at hid
      cases hid
  | _ => exact (quiet_act s _ rfl).punctual h

end Clockwork
end Parley
