/-
Heartbeat and reaper are neither too eager nor too lax.

`Timely` says of a socket that its timer is neither late nor early, and that
its client was heard and its session touched in time, as long as the client
has never owed an answer when time passed. Touches go through the queue of
the hub, so between a ping and the touch that follows from its answer the
beat before counts (`Answered`, `Touched`). An act spares the sockets that it
is not about (`Timely.spared`), and keeps its own in time, one lemma for each
kind of act. `heartbeat_and_reaper` draws the bounds from it.
-/
import Parley.Proofs.Clockwork.Reaper

namespace Parley

open Time (Instant)

/-! ## Times -/

namespace Time.Instant

theorem nanoseconds_ofNanoseconds (n : Int) : (ofNanoseconds n).nanoseconds = n := by
  have hpart : 0 ≤ n % nanosPerSecond := Int.emod_nonneg n (by decide)
  have hwhole := Int.ediv_mul_add_emod n nanosPerSecond
  rw [nanoseconds, ofNanoseconds, Int.toNat_of_nonneg hpart, hwhole]

theorem since_later (origin : Instant) (a b : Int) : (origin.later a).since (origin.later b) = a - b := by
  rw [since, later, later, nanoseconds_ofNanoseconds, nanoseconds_ofNanoseconds]
  omega

theorem not_later_iff {span t u : Nat} :
    ¬(span : Int) * 1000000 < (t : Int) * 1000000 - (u : Int) * 1000000 ↔ t ≤ u + span := by
  omega

end Time.Instant

/-! ## Sockets -/

namespace Socket

variable {w : Socket}

theorem nextBeat_handle (now : Instant) (e : ClientEvent) : (w.handle now e).1.nextBeat = w.nextBeat ∧
    (w.handle now e).1.heard = w.heard ∧ (w.handle now e).1.isOpen = w.isOpen := by
  cases e <;> exact ⟨rfl, rfl, rfl⟩

theorem receive_cases (hopen : w.isOpen = true) (settings : SocketSettings) (now : Instant) (m : Incoming) :
    (w.receive settings now m).1.nextBeat = w.nextBeat ∧
      ((w.receive settings now m).1.isOpen = false ∨
        (w.receive settings now m).1.isOpen = true ∧ m.isSign = true ∧ (w.receive settings now m).1.heard = now ∧
          .touch ∈ (w.receive settings now m).2 ∨
        m.isSign = false ∧ (w.receive settings now m).1 = w) := by
  unfold receive
  simp only [hopen, Bool.not_true, Bool.false_eq_true, if_false]
  split
  · exact ⟨rfl, .inl rfl⟩
  cases m with
  | text text =>
    simp only
    split
    · next e _ =>
      obtain ⟨hbeat, hheard, hstill⟩ := nextBeat_handle (w := w.hear now) now e
      exact ⟨hbeat, .inr (.inl ⟨hstill.trans hopen, rfl, hheard, List.mem_cons_self⟩)⟩
    · exact ⟨rfl, .inr (.inl ⟨hopen, rfl, rfl, List.mem_cons_self⟩)⟩
  | ping payload => exact ⟨rfl, .inr (.inl ⟨hopen, rfl, rfl, List.mem_cons_self⟩)⟩
  | pong payload => exact ⟨rfl, .inr (.inl ⟨hopen, rfl, rfl, List.mem_cons_self⟩)⟩
  | close reason => exact ⟨rfl, .inl rfl⟩
  | malformed | gone => exact ⟨rfl, .inl rfl⟩
  | binary | fragments => exact ⟨rfl, .inr (.inr ⟨rfl, rfl⟩)⟩

theorem beat_cases (hopen : w.isOpen = true) (settings : SocketSettings) (now : Instant) {tick : Tick}
    (hsoon : tick ≤ w.nextBeat) :
    tick < w.nextBeat ∧ w.beat settings now tick = w ∨
      w.nextBeat = tick ∧
        ((settings.clientTimeout : Int) * 1000000 < now.since w.heard ∧ w.beat settings now tick = w.stop ∨
          ¬(settings.clientTimeout : Int) * 1000000 < now.since w.heard ∧ w.beat settings now tick =
            { w with sent := w.sent ++ [.ping ""], nextBeat := tick + settings.pingInterval }) := by
  rcases Nat.lt_or_eq_of_le hsoon with hlt | rfl
  · have hdue : w.dueBeats settings tick = 0 := if_neg (Nat.not_le_of_lt hlt)
    exact .inl ⟨hlt, by simp [beat, hopen, hdue]⟩
  · have hdue : w.dueBeats settings w.nextBeat = 1 := by simp [dueBeats]
    refine .inr ⟨rfl, ?_⟩
    by_cases hlate : (settings.clientTimeout : Int) * 1000000 < now.since w.heard
    · exact .inl ⟨hlate, by simp [beat, hopen, hdue, hlate]⟩
    · exact .inr ⟨hlate, by simp [beat, hopen, hdue, hlate]⟩

theorem deliver_cases (r : Hub.Reading) : (w.deliver r).isOpen = false ∧ (w.deliver r).nextBeat = w.nextBeat ∧ (w.deliver r).session = w.session ∨
    ∃ sent, w.deliver r = { w with sent := sent } := by
  cases r with
  | frame text => exact .inr ⟨_, rfl⟩
  | empty => exact .inr ⟨w.sent, rfl⟩
  | ended => exact .inl ⟨rfl, rfl, rfl⟩

end Socket

namespace Clockwork

variable {hub : HubSettings} {socket : SocketSettings} {origin : Instant} {s s' : Clockwork} {id : SessionId}

/-! ## The timers of sockets -/

/-- The client gave a sign of life since the beat before the next one. Or that
beat was just now, a ping is not answered yet, and the beat before counts. -/
def Answered (s : Clockwork) (w : Socket) : Prop :=
  w.nextBeat ≤ s.heardAt w.session + s.settings.pingInterval ∨
    w.nextBeat = s.time + s.settings.pingInterval ∧
      w.nextBeat ≤ s.heardAt w.session + 2 * s.settings.pingInterval ∧ w.session ∈ s.owing

/-- The hub took a touch since the beat before the next one. Or that beat was
just now, the touch is still to come, and the beat before counts. -/
def Touched (s : Clockwork) (w : Socket) : Prop :=
  w.nextBeat ≤ s.touchedAt w.session + s.settings.pingInterval ∨
    w.nextBeat = s.time + s.settings.pingInterval ∧
      w.nextBeat ≤ s.touchedAt w.session + 2 * s.settings.pingInterval ∧
      (w.isOpen = true → w.session ∈ s.owing ∨ .touch w.session ∈ s.commands)

/-- A socket is in time, and so is its session, as long as its client is. -/
structure Timely (s : Clockwork) (w : Socket) : Prop where
  soon : w.isOpen = true ∨ (s.hub.session? w.session).isSome →
    s.time ≤ w.nextBeat ∧ w.nextBeat ≤ s.time + s.settings.pingInterval
  heard : w.isOpen = true → w.heard = s.instantAt (s.heardAt w.session) ∧ s.heardAt w.session ≤ s.time
  within : w.isOpen = true →
    w.nextBeat ≤ s.heardAt w.session + s.settings.clientTimeout + s.settings.pingInterval
  answered : w.isOpen = true → w.session ∉ s.late → Answered s w
  touched : (s.hub.session? w.session).isSome → w.session ∉ s.late → Touched s w

/-- An act leaves a session: it may end it, but neither opens it nor takes a
touch of it without note. -/
structure Leaves (s s' : Clockwork) (id : SessionId) : Prop where
  settings : s'.settings = s.settings
  origin : s'.origin = s.origin
  time : s'.time = s.time
  live : (s'.hub.session? id).isSome → (s.hub.session? id).isSome
  late : id ∈ s.late → id ∈ s'.late
  touched : s'.touchedAt id = s.time ∨
    s'.touchedAt id = s.touchedAt id ∧ (.touch id ∈ s.commands → .touch id ∈ s'.commands)

/-- An act spares a session: neither does it change what was heard of it. -/
structure Spares (s s' : Clockwork) (id : SessionId) : Prop extends Leaves s s' id where
  heardAt : s'.heardAt id = s.heardAt id
  owing : id ∈ s.owing → id ∈ s'.owing

theorem Quiet.leaves (quiet : Quiet s s') (id : SessionId) : Leaves s s' id := by
  obtain ⟨queues, hhub⟩ := quiet.hub
  refine ⟨quiet.settings, quiet.origin, quiet.time, fun hlive => ?_, fun hlate => quiet.late ▸ hlate,
    .inr ⟨by rw [quiet.touchedAt], quiet.commands _⟩⟩
  rw [hhub] at hlive
  exact hlive

theorem Quiet.spares (quiet : Quiet s s') (heardAt : s'.heardAt id = s.heardAt id)
    (owing : id ∈ s.owing → id ∈ s'.owing) : Spares s s' id :=
  { quiet.leaves id with heardAt := heardAt, owing := owing }

theorem spares_taking (hs : s.hub.Sound) {c : Hub.Command} {rest : List Hub.Command} (hc : s.commands = c :: rest)
    (hid : id < s.hub.nextId) : Spares s (s.taking c rest) id where
  settings := rfl
  origin := rfl
  time := rfl
  live hlive := by
    obtain ⟨x, hx⟩ := Option.isSome_iff_exists.mp hlive
    rcases hs.seen_take hx with ⟨-, -, hnew | hold⟩ | ⟨-, hold⟩
    · exact absurd hnew (Nat.ne_of_lt hid)
    · exact hold
    · rw [hold]
      rfl
  late h := h
  touched := by
    rw [touchedAt_taking]
    split
    · exact .inl rfl
    · next hother =>
      refine .inr ⟨rfl, fun htouch => ?_⟩
      rcases List.mem_cons.mp (hc ▸ htouch) with rfl | htouch
      · exact absurd rfl hother
      · exact htouch
  heardAt := rfl
  owing h := h

theorem spares_reap (hs : s.hub.Sound) (id : SessionId) : Spares s (s.act .reap) id where
  settings := rfl
  origin := rfl
  time := rfl
  live hlive := by
    obtain ⟨x, hx⟩ := Option.isSome_iff_exists.mp hlive
    exact hs.live_of_wake hx
  late h := h
  touched := .inr ⟨rfl, fun h => h⟩
  heardAt := rfl
  owing h := h

theorem spares_hearing (s : Clockwork) {w : Socket} {m : Incoming} (h : id ≠ w.session ∨ m.isSign = false) :
    Spares s (s.hearing w m) id := by
  refine (quiet_hearing s w m).spares ?_ fun howing => ?_
  · rcases h with hne | hsign
    · by_cases hsign : m.isSign = true <;> simp [hearing, hsign, Function.update_of_ne hne]
    · simp [hearing, hsign]
  · rcases h with hne | hsign
    · by_cases hpong : m.isPong = true <;> simp [hearing, hpong, howing, hne]
    · have hpong : m.isPong = false := by
        cases m with
        | pong payload => cases hsign
        | _ => rfl
      simpa [hearing, hpong] using howing

theorem spares_beating (s : Clockwork) (w : Socket) (id : SessionId) : Spares s (s.beating w) id := by
  refine (quiet_beating s w).spares rfl fun howing => ?_
  simp only [beating]
  split
  · exact howing
  · exact List.mem_cons_of_mem _ howing

theorem spares_reading (s : Clockwork) (w : Socket) (id : SessionId) : Spares s (s.reading w) id :=
  (quiet_reading s w).spares rfl fun howing => howing

variable {w w' : Socket}

/-- A session that was touched in time is so behind an act that leaves it,
whatever becomes of its socket but for the beat. -/
theorem Timely.touched_of_leaves (h : Timely s w) (leaves : Leaves s s' w.session)
    (hsession : w'.session = w.session) (hbeat : w'.nextBeat = w.nextBeat)
    (hopen : w'.isOpen = true → w.isOpen = true ∧
      (w.session ∈ s.owing → w.session ∈ s'.owing ∨ .touch w.session ∈ s'.commands))
    (hlive : (s'.hub.session? w'.session).isSome) (hlate : w'.session ∉ s'.late) : Touched s' w' := by
  rw [hsession] at hlive hlate
  have live := leaves.live hlive
  rw [Touched, hsession, hbeat, leaves.settings, leaves.time]
  rcases leaves.touched with hnow | ⟨hsame, hcommands⟩
  · rw [hnow]
    exact .inl (h.soon (.inr live)).2
  rw [hsame]
  rcases h.touched live fun hl => hlate (leaves.late hl) with hleft | ⟨hnow, hbefore, howing⟩
  · exact .inl hleft
  · refine .inr ⟨hnow, hbefore, fun hopen' => ?_⟩
    obtain ⟨hwas, hkept⟩ := hopen hopen'
    exact (howing hwas).elim hkept fun htouch => .inr (hcommands htouch)

theorem Timely.spared (h : Timely s w) (spares : Spares s s' w.session) : Timely s' w where
  soon hlive := by
    rw [spares.time, spares.settings]
    exact h.soon (hlive.imp_right spares.live)
  heard hopen := by
    rw [spares.heardAt, spares.time, instantAt, spares.origin]
    exact h.heard hopen
  within hopen := by
    rw [spares.heardAt, spares.settings]
    exact h.within hopen
  answered hopen hlate := by
    rw [Answered, spares.heardAt, spares.settings, spares.time]
    exact (h.answered hopen fun hl => hlate (spares.late hl)).imp_right
      fun ⟨hnow, hbefore, howing⟩ => ⟨hnow, hbefore, spares.owing howing⟩
  touched := h.touched_of_leaves spares.toLeaves rfl rfl fun hopen => ⟨hopen, fun howing => .inl (spares.owing howing)⟩

theorem Timely.stopped (h : Timely s w) (hopen : w.isOpen = true) (leaves : Leaves s s' w.session)
    (hsession : w'.session = w.session) (hbeat : w'.nextBeat = w.nextBeat) (hclosed : w'.isOpen = false) :
    Timely s' w' where
  soon _ := by
    rw [hbeat, leaves.time, leaves.settings]
    exact h.soon (.inl hopen)
  heard hstill := absurd (hclosed.symm.trans hstill) (by decide)
  within hstill := absurd (hclosed.symm.trans hstill) (by decide)
  answered hstill := absurd (hclosed.symm.trans hstill) (by decide)
  touched := h.touched_of_leaves leaves hsession hbeat fun hstill => absurd (hclosed.symm.trans hstill) (by decide)

/-! ## What each act does to a socket -/

theorem Timely.hearing (h : Timely s w) (hopen : w.isOpen = true) (m : Incoming) :
    Timely (s.hearing w m) (w.receive s.settings (s.instantAt s.time) m).1 := by
  have hsession := (w.receive_continues s.settings (s.instantAt s.time) m).session
  have leaves := (quiet_hearing s w m).leaves w.session
  obtain ⟨hbeat, hcases⟩ := w.receive_cases hopen s.settings (s.instantAt s.time) m
  rcases hcases with hclosed | ⟨hstill, hsign, hheard, htouch⟩ | ⟨hsign, hsame⟩
  · exact h.stopped hopen leaves hsession hbeat hclosed
  · obtain ⟨hsoon, hlate⟩ := h.soon (.inl hopen)
    have hat : (s.hearing w m).heardAt w.session = s.time := by simp [Clockwork.hearing, hsign]
    have htold : .touch w.session ∈ (s.hearing w m).commands :=
      List.mem_append_right _ (List.mem_filterMap.mpr ⟨.touch, htouch, rfl⟩)
    constructor
    · rw [hbeat]
      exact fun _ => ⟨hsoon, hlate⟩
    · rw [hheard, hsession, hat]
      exact fun _ => ⟨rfl, Nat.le_refl _⟩
    · rw [hbeat, hsession, hat]
      exact fun _ => Nat.le_trans hlate (Nat.add_le_add_right (Nat.le_add_right _ _) _)
    · rw [Answered, hbeat, hsession, hat]
      exact fun _ _ => .inl hlate
    · exact h.touched_of_leaves leaves hsession hbeat fun _ => ⟨hopen, fun _ => .inr htold⟩
  · rw [hsame]
    exact h.spared (spares_hearing s (.inr hsign))

theorem Timely.beating (h : Timely s w) : Timely (s.beating w) (w.beat s.settings (s.instantAt s.time) s.time) := by
  have spares := spares_beating s w w.session
  cases hopen : w.isOpen with
  | false =>
    have hsame : w.beat s.settings (s.instantAt s.time) s.time = w := by simp [Socket.beat, hopen]
    rw [hsame]
    exact h.spared spares
  | true =>
    obtain ⟨hsoon, hlate⟩ := h.soon (.inl hopen)
    obtain ⟨hheard, hpast⟩ := h.heard hopen
    rcases w.beat_cases hopen s.settings (s.instantAt s.time) hsoon with
      ⟨-, hsame⟩ | ⟨hdue, ⟨-, hstop⟩ | ⟨hrecent, hping⟩⟩
    · rw [hsame]
      exact h.spared spares
    · rw [hstop]
      exact h.stopped hopen spares.toLeaves rfl rfl rfl
    · have howing : w.session ∈ (s.beating w).owing := by simp [Clockwork.beating, hping]
      rw [hheard, instantAt, instantAt, Instant.since_later] at hrecent
      have hrecent : s.time ≤ s.heardAt w.session + s.settings.clientTimeout := Instant.not_later_iff.mp hrecent
      rw [hping]
      constructor
      · exact fun _ => ⟨Nat.le_add_right _ _, Nat.le_refl _⟩
      · exact fun _ => ⟨hheard, hpast⟩
      · exact fun _ => Nat.add_le_add_right hrecent _
      · refine fun _ hpatient => .inr ⟨rfl, ?_, howing⟩
        have hanswered := h.answered hopen hpatient
        unfold Answered at hanswered
        change s.time + s.settings.pingInterval ≤ s.heardAt w.session + 2 * s.settings.pingInterval
        grind
      · refine fun hlive hpatient => .inr ⟨rfl, ?_, fun _ => .inl howing⟩
        have htouched := h.touched hlive hpatient
        unfold Touched at htouched
        change s.time + s.settings.pingInterval ≤ s.touchedAt w.session + 2 * s.settings.pingInterval
        grind

theorem Timely.reading (h : Timely s w) (hopen : w.isOpen = true) :
    Timely (s.reading w) (w.deliver (s.hub.read w.session).1) := by
  have spares := spares_reading s w w.session
  rcases w.deliver_cases (s.hub.read w.session).1 with ⟨hclosed, hbeat, hsession⟩ | ⟨sent, hsame⟩
  · exact h.stopped hopen spares.toLeaves hsession hbeat hclosed
  · have hspared := h.spared spares
    rw [hsame]
    exact ⟨hspared.soon, hspared.heard, hspared.within, hspared.answered, hspared.touched⟩

theorem timely_start (h : Punctual s) {user : UserId} (hid : id ∈ s.granted.map (·.1))
    (quiet : Quiet s s') (heardAt : s'.heardAt id = s.time) :
    Timely s' (Socket.start s.settings id user (s.instantAt s.time) s.time) := by
  obtain ⟨queues, hhub⟩ := quiet.hub
  constructor
  · rw [quiet.time, quiet.settings]
    exact fun _ => ⟨Nat.le_add_right _ _, Nat.le_refl _⟩
  · intro _
    change s.instantAt s.time = s'.instantAt (s'.heardAt id) ∧ s'.heardAt id ≤ s'.time
    rw [heardAt, quiet.time, instantAt, instantAt, quiet.origin]
    exact ⟨rfl, Nat.le_refl _⟩
  · intro _
    change s.time + s.settings.pingInterval ≤ s'.heardAt id + s'.settings.clientTimeout + s'.settings.pingInterval
    rw [heardAt, quiet.settings]
    exact Nat.add_le_add_right (Nat.le_add_right _ _) _
  · refine fun _ _ => .inl ?_
    change s.time + s.settings.pingInterval ≤ s'.heardAt id + s'.settings.pingInterval
    exact Nat.le_of_eq (by rw [heardAt, quiet.settings])
  · refine fun hlive _ => .inl ?_
    change (s'.hub.session? id).isSome at hlive
    change s.time + s.settings.pingInterval ≤ s'.touchedAt id + s'.settings.pingInterval
    rw [hhub] at hlive
    exact Nat.le_of_eq (by rw [quiet.touchedAt, quiet.settings, h.fresh id hid hlive])

theorem Timely.passing (h : Timely s w) (hw : w ∈ s.sockets) (rest : s.AtRest) : Timely (s.act .pass) w := by
  have live (hlive : w.isOpen = true ∨ (s.hub.session? w.session).isSome) : w.isOpen = true := by
    cases hopen : w.isOpen with
    | true => rfl
    | false =>
      rw [rest.released w hw hopen] at hlive
      exact absurd (hlive.resolve_left (by simp [hopen])) (by decide)
  have patient (hlate : w.session ∉ (s.act .pass).late) : w.session ∉ s.owing ∧ w.session ∉ s.late := by
    simpa [Clockwork.act] using hlate
  constructor
  · intro hlive
    obtain ⟨-, hlate⟩ := h.soon hlive
    exact ⟨rest.beaten w hw (live hlive), Nat.le_trans hlate (Nat.add_le_add_right (Nat.le_succ _) _)⟩
  · intro hopen
    obtain ⟨hheard, hpast⟩ := h.heard hopen
    exact ⟨hheard, Nat.le_succ_of_le hpast⟩
  · exact h.within
  · intro hopen hlate
    obtain ⟨hanswered, hpatient⟩ := patient hlate
    exact (h.answered hopen hpatient).imp_right fun hbefore => absurd hbefore.2.2 hanswered
  · intro hlive hlate
    obtain ⟨hanswered, hpatient⟩ := patient hlate
    refine (h.touched hlive hpatient).imp_right fun hbefore => ?_
    rcases hbefore.2.2 (live (.inr hlive)) with howing | htouch
    · exact absurd howing hanswered
    · rw [rest.taken] at htouch
      cases htouch

theorem mem_putSocket {v : Socket} (hv : v ∈ (s.putSocket w).sockets) :
    v = w ∨ v ∈ s.sockets ∧ v.session ≠ w.session := by
  obtain ⟨u, hu, rfl⟩ := List.mem_map.mp hv
  split
  · exact .inl rfl
  · next hne => exact .inr ⟨hu, hne⟩

/-- **Every act keeps the sockets in time.** -/
theorem timely_act (kept : Kept hub socket s) (punctual : Punctual s) (timely : ∀ w ∈ s.sockets, Timely s w) (a : Act)
    (rest : a = .pass → s.AtRest) : ∀ w ∈ (s.act a).sockets, Timely (s.act a) w := by
  have known {w : Socket} (hw : w ∈ s.sockets) : w.session < s.hub.nextId :=
    kept.old _ (List.mem_append_right _ (List.mem_map_of_mem hw))
  cases a with
  | hear id m =>
    simp only [act]
    split
    · next w hw =>
      have hmem := (mem_of_socket? hw).1
      split
      · next hopen =>
        intro v hv
        have hsession := (w.receive_continues s.settings (s.instantAt s.time) m).session
        rcases mem_putSocket hv with rfl | ⟨hv, hne⟩
        · exact (timely w hmem).hearing hopen m
        · exact (timely v hv).spared (spares_hearing s (.inl (hsession ▸ hne)))
      · exact timely
    · exact timely
  | beat id =>
    simp only [act]
    split
    · next w hw =>
      intro v hv
      rcases mem_putSocket hv with rfl | ⟨hv, -⟩
      · exact (timely w (mem_of_socket? hw).1).beating
      · exact (timely v hv).spared (spares_beating s w _)
    · exact timely
  | read id =>
    simp only [act]
    split
    · next w hw =>
      split
      · next hopen =>
        intro v hv
        rcases mem_putSocket hv with rfl | ⟨hv, -⟩
        · exact (timely w (mem_of_socket? hw).1).reading hopen
        · exact (timely v hv).spared (spares_reading s w _)
      · exact timely
    · exact timely
  | take =>
    simp only [act]
    split
    · next c rest hc => exact fun w hw => (timely w hw).spared (spares_taking kept.sound hc (known hw))
    · exact timely
  | reap => exact fun w hw => (timely w hw).spared (spares_reap kept.sound _)
  | connect id =>
    have quiet := quiet_act s (.connect id) rfl
    revert quiet
    simp only [act]
    split
    · next user hg =>
      intro quiet v hv
      have hid : id ∈ s.granted.map (·.1) := Hub.key_mem (Hub.mem_of_lookup hg)
      rcases List.mem_append.mp hv with hv | hv
      · have hne : v.session ≠ id :=
          fun he => (List.nodup_append.mp kept.distinct).2.2 id hid _ (List.mem_map_of_mem hv) he.symm
        exact (timely v hv).spared (quiet.spares (Function.update_of_ne hne _ _) fun howing => howing)
      · rw [List.mem_singleton.mp hv]
        exact timely_start punctual hid quiet (Function.update_self _ _ _)
    · exact fun _ => timely
  | pass => exact fun w hw => (timely w hw).passing hw (rest rfl)
  | leave id =>
    exact fun w hw => (timely w hw).spared ((quiet_act s (.leave id) rfl).spares rfl fun h => h)
  | tell c => exact fun w hw => (timely w hw).spared ((quiet_act s (.tell c) rfl).spares rfl fun h => h)
  | decline id =>
    exact fun w hw => (timely w hw).spared ((quiet_act s (.decline id) rfl).spares rfl fun h => h)

/-! ## Runs -/

/-- All that holds of a clockwork throughout. -/
structure Sound (hub : HubSettings) (socket : SocketSettings) (s : Clockwork) : Prop where
  kept : Kept hub socket s
  punctual : Punctual s
  timely : ∀ w ∈ s.sockets, Timely s w

theorem Sound.start (hub : HubSettings) (socket : SocketSettings) (origin : Instant) :
    Sound hub socket (start hub socket origin) where
  kept := ⟨Hub.Sound.start hub, rfl, rfl, List.nodup_nil, nofun⟩
  punctual := ⟨fun _ => Nat.zero_le _, Nat.le_refl _, nofun, nofun⟩
  timely := nofun

theorem Reachable.sound (reached : Reachable hub socket origin s) : Sound hub socket s := by
  induction reached with
  | start => exact .start hub socket origin
  | step _ a rest ih =>
    exact ⟨ih.kept.act a, ih.punctual.act ih.kept.sound a rest, timely_act ih.kept ih.punctual ih.timely a rest⟩

theorem Timely.heard_within (h : Timely s w) (hopen : w.isOpen = true) (hpatient : w.session ∉ s.late) :
    s.time ≤ s.heardAt w.session + s.settings.pingInterval := by
  obtain ⟨hsoon, -⟩ := h.soon (.inl hopen)
  have hanswered := h.answered hopen hpatient
  unfold Answered at hanswered
  grind

theorem Timely.touched_within (h : Timely s w) (hlive : (s.hub.session? w.session).isSome)
    (hpatient : w.session ∉ s.late) : s.time ≤ s.touchedAt w.session + s.settings.pingInterval := by
  obtain ⟨hsoon, -⟩ := h.soon (.inr hlive)
  have htouched := h.touched hlive hpatient
  unfold Touched at htouched
  grind

theorem Timely.beat_open (h : Timely s w) (hopen : w.isOpen = true)
    (hrecent : s.time ≤ s.heardAt w.session + s.settings.clientTimeout) :
    (w.beat s.settings (s.instantAt s.time) s.time).isOpen = true := by
  obtain ⟨hsoon, -⟩ := h.soon (.inl hopen)
  obtain ⟨hheard, -⟩ := h.heard hopen
  rcases w.beat_cases hopen s.settings (s.instantAt s.time) hsoon with ⟨-, hsame⟩ | ⟨-, ⟨hlate, -⟩ | ⟨-, hping⟩⟩
  · rw [hsame]
    exact hopen
  · rw [hheard, instantAt, instantAt, Instant.since_later] at hlate
    exact absurd hlate (Instant.not_later_iff.mpr hrecent)
  · rw [hping]
    exact hopen

theorem Sound.session_kept (h : Sound hub socket s)
    (hrecent : (s.hub.session? id).isSome → s.time ≤ s.touchedAt id + hub.staleAfter) :
    (s.hub.wake s.time).session? id = s.hub.session? id := by
  cases hx : s.hub.session? id with
  | none =>
    cases hwake : (s.hub.wake s.time).session? id with
    | none => rfl
    | some y => exact absurd (h.kept.sound.live_of_wake hwake) (by rw [hx]; decide)
  | some x =>
    obtain ⟨hlast, -, -⟩ := h.punctual.seen id x hx
    have hrecent := hrecent (by rw [hx]; rfl)
    rw [h.kept.sound.session?_wake hx, hlast, h.kept.hub, if_neg]
    rintro ⟨-, hstale⟩
    grind

theorem Sound.session_ended (h : Sound hub socket s) (hstale : s.touchedAt id + hub.staleAfter < s.time)
    (hdue : s.hub.nextReap ≤ s.time) : (s.hub.wake s.time).session? id = none := by
  cases hx : s.hub.session? id with
  | none =>
    rw [h.session_kept (by rw [hx]; nofun), hx]
  | some x =>
    obtain ⟨hlast, -, -⟩ := h.punctual.seen id x hx
    rw [h.kept.sound.session?_wake hx, hlast, h.kept.hub, if_pos ⟨hdue, by grind⟩]

/-- **Heartbeat and reaper are neither too eager nor too lax.** At every
moment of every run: a socket whose client has answered each ping before time
passed is not stopped by its timer, and its session is not reaped. A socket
whose client was last heard at a time is stopped no later than the client's
timeout and one ping interval behind it: it is open until that time, and at
that time it is not open any more when nothing is left to do. A session that
was last touched at a time is not reaped until it has become stale, and the
reaper ends it when it comes next, which is no later than one of its intervals
behind. -/
theorem heartbeat_and_reaper (reached : Reachable hub socket origin s)
    (htimeout : socket.pingInterval < socket.clientTimeout) (hstale : socket.pingInterval ≤ hub.staleAfter) :
    (∀ w ∈ s.sockets, w.session ∉ s.late →
      (w.isOpen = true → (w.beat socket (s.instantAt s.time) s.time).isOpen = true) ∧
      (s.hub.wake s.time).session? w.session = s.hub.session? w.session) ∧
    (∀ w ∈ s.sockets, w.isOpen = true →
      let deadline := s.heardAt w.session + socket.clientTimeout + socket.pingInterval
      s.time ≤ deadline ∧ (s.AtRest → s.time < deadline)) ∧
    ∀ id, (s.hub.session? id).isSome →
      let deadline := s.touchedAt id + hub.staleAfter + hub.reapInterval
      (s.time ≤ s.touchedAt id + hub.staleAfter → (s.hub.wake s.time).session? id = s.hub.session? id) ∧
      (s.touchedAt id + hub.staleAfter < s.time → s.hub.nextReap ≤ s.time → (s.hub.wake s.time).session? id = none) ∧
      s.time ≤ deadline ∧ (s.AtRest → s.time < deadline) := by
  have sound := reached.sound
  have hsettings := sound.kept.settings
  refine ⟨fun w hw hpatient => ⟨fun hopen => ?_, ?_⟩, fun w hw hopen => ?_, fun id hlive => ⟨?_, ?_, ?_⟩⟩
  · have hheard := (sound.timely w hw).heard_within hopen hpatient
    have hbeat := (sound.timely w hw).beat_open hopen
    rw [hsettings] at hheard hbeat
    exact hbeat (Nat.le_trans hheard (Nat.add_le_add_left (Nat.le_of_lt htimeout) _))
  · refine sound.session_kept fun hlive => ?_
    have htouched := (sound.timely w hw).touched_within hlive hpatient
    rw [hsettings] at htouched
    exact Nat.le_trans htouched (Nat.add_le_add_left hstale _)
  · obtain ⟨hsoon, -⟩ := (sound.timely w hw).soon (.inl hopen)
    have hwithin := (sound.timely w hw).within hopen
    rw [hsettings] at hwithin
    exact ⟨Nat.le_trans hsoon hwithin, fun rest => Nat.lt_of_lt_of_le (rest.beaten w hw hopen) hwithin⟩
  · exact fun hrecent => sound.session_kept fun _ => hrecent
  · exact sound.session_ended
  · obtain ⟨x, hx⟩ := Option.isSome_iff_exists.mp hlive
    have hrunning := sound.kept.sound.running_of_session hlive
    obtain ⟨-, -, hcomes⟩ := sound.punctual.seen id x hx
    rw [sound.kept.hub] at hcomes
    exact ⟨Nat.le_trans (sound.punctual.soon hrunning) hcomes,
      fun rest => Nat.lt_of_lt_of_le (rest.reaped hrunning) hcomes⟩

/-- Two sockets up to the moment at which their timers and the reaper are due
together. The client of the first has answered, that of the second has sent
something else. -/
def alarm : Clockwork :=
  [.tell (.register 1 false), .tell (.register 2 false), .take, .take, .connect 0, .connect 1, .pass, .pass,
    .beat 0, .beat 1, .hear 0 (.pong ""), .hear 1 (.binary 3), .take, .pass, .pass].foldl act
    (start { reapInterval := 4, staleAfter := 2 } { pingInterval := 2, clientTimeout := 3 } ⟨0, 0⟩)

/-- The first socket goes on with its session, which has just not become stale.
The session of the second is ended. -/
theorem heartbeat_and_reaper_when_due :
    Reachable { reapInterval := 4, staleAfter := 2 } { pingInterval := 2, clientTimeout := 3 } ⟨0, 0⟩ alarm ∧
      (∀ w ∈ alarm.sockets, w.nextBeat = alarm.time) ∧ alarm.hub.nextReap = alarm.time ∧
      (∃ w ∈ alarm.sockets, w.session = 0 ∧ w.isOpen = true ∧ (w.beat { pingInterval := 2, clientTimeout := 3 }
        (alarm.instantAt alarm.time) alarm.time).isOpen = true) ∧
      (alarm.hub.wake alarm.time).session? 0 = some ⟨1, 2⟩ ∧ alarm.hub.session? 1 = some ⟨2, 0⟩ ∧
      (alarm.hub.wake alarm.time).session? 1 = none := by
  have reached : Reachable { reapInterval := 4, staleAfter := 2 } { pingInterval := 2, clientTimeout := 3 }
      ⟨0, 0⟩ alarm := Reachable.start.after (by decide +kernel)
  obtain ⟨spared, -, ended⟩ := heartbeat_and_reaper reached (by decide) (by decide)
  have hpatient : 0 ∉ alarm.late := by decide +kernel
  have hfirst : ∃ w ∈ alarm.sockets, w.session = 0 ∧ w.isOpen = true := by decide +kernel
  obtain ⟨w, hw, hsession, hopen⟩ := hfirst
  obtain ⟨hbeat, hkept⟩ := spared w hw (by rwa [hsession])
  rw [hsession] at hkept
  refine ⟨reached, by decide +kernel, by decide +kernel, ⟨w, hw, hsession, hopen, hbeat hopen⟩, ?_,
    by decide +kernel, ?_⟩
  · rw [hkept]
    decide +kernel
  · exact (ended 1 (by decide +kernel)).2.1 (by decide +kernel) (by decide +kernel)

end Clockwork
end Parley
