/-
Time in which nothing happens.

In a calm clockwork nobody is told anything, no timer of a socket goes off
and the reaper finds no session to end. It may stand until any later time
(`Calm.stand`), and the reaper comes at the multiples of its interval
(`nextReap`). So a session can be opened just so long before the reaper
comes that it is stale by then, and if a ping is not due in between, its
client has had nothing to answer (`reaped_between_pings`).
-/
import Parley.Proofs.Clockwork.Heartbeat

namespace Parley.Clockwork

open Time (Instant)

variable {hub : HubSettings} {socket : SocketSettings} {origin : Instant} {c : Clockwork} {t limit : Tick}

/-- The same clockwork at a time, with the reaper to come at another. -/
def standing (c : Clockwork) (t next : Tick) : Clockwork :=
  { c with time := t, hub := { c.hub with nextReap := next } }

/-- When a reaper comes next that came at the start. -/
def nextReap (interval t : Tick) : Tick := interval * (t / interval + 1)

theorem lt_nextReap {interval : Tick} (h : 0 < interval) (t : Tick) : t < nextReap interval t :=
  Nat.lt_mul_div_succ t h

theorem nextReap_succ {interval : Tick} (h : 0 < interval) (t : Tick) :
    t + 1 < nextReap interval t ∧ nextReap interval (t + 1) = nextReap interval t ∨
      t + 1 = nextReap interval t ∧ nextReap interval (t + 1) = nextReap interval t + interval := by
  rcases Nat.lt_or_eq_of_le (Nat.succ_le_of_lt (lt_nextReap h t)) with hlt | heq
  · refine .inl ⟨hlt, ?_⟩
    have hsame : (t + 1) / interval = t / interval := by
      refine Nat.le_antisymm (Nat.le_of_lt_succ ?_) (Nat.div_le_div_right (Nat.le_succ t))
      exact Nat.div_lt_of_lt_mul hlt
    rw [nextReap, hsame, nextReap]
  · refine .inr ⟨heq, ?_⟩
    have hnext : (t + 1) / interval = t / interval + 1 := by
      rw [show t + 1 = interval * (t / interval + 1) from heq, Nat.mul_div_cancel_left _ h]
    rw [nextReap, hnext, Nat.mul_succ, nextReap]

theorem nextReap_before {interval t u : Nat} (h : nextReap interval t = u + 1) : nextReap interval u = u + 1 := by
  have hsplit : interval * (t / interval) + interval = u + 1 := h
  have hpos : 0 < interval := by
    rcases Nat.eq_zero_or_pos interval with rfl | hpos
    · simp at hsplit
    · exact hpos
  have hsame : u / interval = t / interval := by
    refine Nat.div_eq_of_lt_le ?_ ?_
    · rw [Nat.mul_comm]
      omega
    · rw [Nat.mul_comm, Nat.mul_succ]
      omega
  rw [nextReap, hsame]
  exact h

/-- Nothing happens before a time. -/
structure Calm (c : Clockwork) (limit : Tick) : Prop where
  running : c.hub.running = true
  interval : 0 < c.hub.settings.reapInterval
  taken : c.commands = []
  connected : c.granted = []
  unasked : c.owing = []
  patient : c.late = []
  beaten : ∀ w ∈ c.sockets, w.isOpen = true ∧ limit ≤ w.nextBeat
  fresh : ∀ x ∈ c.hub.sessions, limit ≤ x.2.lastSeen + c.hub.settings.staleAfter + 1

theorem Calm.pass (calm : Calm c limit) (next : Tick) :
    (c.standing t next).act .pass = c.standing (t + 1) next := by
  simp [act, standing, calm.unasked, calm.patient]

theorem Calm.atRest (calm : Calm c limit) (ht : t < limit) {next : Tick} (hnext : t < next) :
    (c.standing t next).AtRest where
  taken := calm.taken
  connected := calm.connected
  beaten w hw _ := Nat.lt_of_lt_of_le ht (calm.beaten w hw).2
  released w hw hclosed := by
    rw [(calm.beaten w hw).1] at hclosed
    cases hclosed
  reaped _ := hnext

theorem Calm.reap (calm : Calm c limit) (ht : t < limit) :
    (c.standing t t).act .reap = c.standing t (t + c.hub.settings.reapInterval) := by
  have hnone : (c.standing t t).hub.reap t = (c.standing t t).hub := by
    have hstale : (c.standing t t).hub.sessions.filter
        (fun x => (c.standing t t).hub.settings.staleAfter < t - x.2.lastSeen) = [] := by
      refine List.filter_eq_nil_iff.mpr fun x hx => ?_
      intro hidle
      have hidle : c.hub.settings.staleAfter < t - x.2.lastSeen := of_decide_eq_true hidle
      have hfresh := calm.fresh x hx
      grind
    simp [Hub.reap, hstale]
  have hrunning : (c.standing t t).hub.running = true := calm.running
  have hdue : (c.standing t t).hub.nextReap ≤ t := Nat.le_refl t
  have hwake : (c.standing t t).hub.wake t =
      { (c.standing t t).hub with nextReap := t + c.hub.settings.reapInterval } := by
    rw [Hub.wake, if_pos ⟨hrunning, hdue⟩, hnone]
    rfl
  change { c.standing t t with hub := (c.standing t t).hub.wake t } = _
  rw [hwake]
  rfl

theorem Calm.stand (calm : Calm c limit) {later : Tick} (hlater : t ≤ later) (hlimit : later < limit)
    (reached : Reachable hub socket origin (c.standing t (nextReap c.hub.settings.reapInterval t))) :
    Reachable hub socket origin (c.standing later (nextReap c.hub.settings.reapInterval later)) := by
  induction hlater with
  | refl => exact reached
  | @step u _ ih =>
    have hu : u < limit := Nat.lt_of_succ_lt hlimit
    have passed := (ih hu).step .pass fun _ => calm.atRest hu (lt_nextReap calm.interval u)
    rw [calm.pass] at passed
    rcases nextReap_succ calm.interval u with ⟨-, hsame⟩ | ⟨hdue, hnext⟩
    · rwa [hsame]
    · rw [← hdue] at passed
      have reaped := passed.step .reap nofun
      rwa [calm.reap hlimit, Nat.succ_eq_add_one, hdue, ← hnext, ← hdue] at reaped

/-! ## A client whose session is not kept -/

/-- A clockwork in which one client came at a time. -/
def withClient (hub : HubSettings) (socket : SocketSettings) (origin : Instant) (came : Tick) : Clockwork :=
  let c := start hub socket origin
  { c with
    hub := (c.hub.register 1 came).2
    sockets := [Socket.start socket 0 1 (c.instantAt came) came]
    heardAt := Function.update c.heardAt 0 came
    touchedAt := Function.update c.touchedAt 0 came }

theorem calm_start (hrunning : (Hub.start hub 0).running = true) (limit : Tick) :
    Calm (start hub socket origin) limit :=
  ⟨hrunning, (Hub.running_start_iff.mp hrunning).1, rfl, rfl, rfl, rfl, nofun, nofun⟩

theorem calm_withClient (hrunning : (Hub.start hub 0).running = true) (hstale : hub.staleAfter < socket.pingInterval)
    (came : Tick) : Calm (withClient hub socket origin came) (came + hub.staleAfter + 1) := by
  refine ⟨hrunning, (Hub.running_start_iff.mp hrunning).1, rfl, rfl, rfl, rfl, fun w hw => ?_, fun x hx => ?_⟩
  · obtain rfl := List.mem_singleton.mp hw
    exact ⟨rfl, Nat.add_le_add_left hstale came⟩
  · obtain rfl := List.mem_singleton.mp hx
    exact Nat.le_refl _

theorem taking_register {h : Hub} {user : UserId} {id : SessionId} {rest : List Hub.Command}
    (htake : c.hub.take c.time (.register user false) = (.session (some id), h)) :
    c.taking (.register user false) rest =
      { c with
        hub := h
        commands := rest
        granted := c.granted ++ [(id, user)]
        touchedAt := Function.update c.touchedAt id c.time } := by
  simp only [taking, htake]
  rfl

theorem act_withClient (hrunning : (Hub.start hub 0).running = true) (next : Tick) :
    [.tell (.register 1 false), .take, .connect 0].foldl act ((start hub socket origin).standing t next) =
      (withClient hub socket origin t).standing t next := by
  let told := { (start hub socket origin).standing t next with commands := [.register 1 false] }
  have htake : told.hub.take told.time (.register 1 false) = (.session (some 0), (told.hub.register 1 t).2) := by
    rw [Hub.take, if_pos (show told.hub.running = true from hrunning)]
    rfl
  change (told.taking (.register 1 false) []).act (.connect 0) = _
  rw [taking_register htake]
  rfl

theorem standing_start : (start hub socket origin).standing 0 (nextReap hub.reapInterval 0) = start hub socket origin := by
  have hnext : nextReap hub.reapInterval 0 = 0 + hub.reapInterval := by
    rw [nextReap, Nat.zero_div, Nat.zero_add, Nat.mul_one, Nat.zero_add]
  rw [hnext]
  rfl

/-- **If a session is stale before a ping is due, a client can lose it that has answered
every ping**: it came so long before the reaper that it is just stale. -/
theorem reaped_between_pings (origin : Instant) (hrunning : (Hub.start hub 0).running = true)
    (hstale : hub.staleAfter < socket.pingInterval) : ∃ c, Reachable hub socket origin c ∧
      ∃ w ∈ c.sockets, w.session ∉ c.late ∧ (c.hub.wake c.time).session? w.session ≠ c.hub.session? w.session := by
  have hinterval := (Hub.running_start_iff.mp hrunning).1
  obtain ⟨came, hcame⟩ : ∃ came, nextReap hub.reapInterval hub.staleAfter = came + hub.staleAfter + 1 := by
    obtain ⟨came, hcame⟩ := Nat.exists_eq_add_of_lt (lt_nextReap hinterval hub.staleAfter)
    exact ⟨came, by rw [hcame, Nat.add_comm hub.staleAfter came]⟩
  -- Nobody is there until the client comes.
  have first : Reachable hub socket origin ((start hub socket origin).standing 0 (nextReap hub.reapInterval 0)) := by
    rw [standing_start]
    exact .start
  have alone := (calm_start hrunning (came + 1)).stand (Nat.zero_le came) (Nat.lt_succ_self came) first
  have lawful : ((start hub socket origin).standing came (nextReap hub.reapInterval came)).Lawful
      [.tell (.register 1 false), .take, .connect 0] := ⟨nofun, nofun, nofun, trivial⟩
  have joined := alone.after lawful
  rw [act_withClient hrunning] at joined
  -- From then on nothing happens until its session is stale.
  have calm : Calm (withClient hub socket origin came) (came + hub.staleAfter + 1) :=
    calm_withClient hrunning hstale came
  have hlast : came + hub.staleAfter < came + hub.staleAfter + 1 := Nat.lt_succ_self _
  have waited := calm.stand (Nat.le_add_right came hub.staleAfter) hlast joined
  have due := waited.step .pass fun _ => calm.atRest hlast (lt_nextReap hinterval _)
  rw [calm.pass, show nextReap (withClient hub socket origin came).hub.settings.reapInterval
    (came + hub.staleAfter) = came + hub.staleAfter + 1 from nextReap_before hcame] at due
  refine ⟨_, due, _, List.mem_singleton.mpr rfl, nofun, ?_⟩
  have htouched : Function.update (fun _ => 0) 0 came 0 + hub.staleAfter < came + hub.staleAfter + 1 := by
    rw [Function.update_self]
    exact hlast
  have hended : Hub.session? _ 0 = none := due.sound.session_ended htouched (Nat.le_refl _)
  change Hub.session? _ 0 ≠ some ⟨1, came⟩
  rw [hended]
  exact nofun

end Parley.Clockwork
