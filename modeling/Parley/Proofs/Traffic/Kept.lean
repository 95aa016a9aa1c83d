/-
What holds of the service throughout.

Every session of the hub is held by a socket or by a request that is to hand it
over or to close it, no two hold the same, and each has the user whom the
token of its request names (`Matched`). What the queue of an open socket was
given the socket has sent, or it still waits (`Streamed`). Both are kept by each
step (`Kept.work`, `Kept.incident`).
-/
import Parley.Proofs.Traffic

namespace Parley

open Surroundings (Ask signature)

/-! ## The hub -/

namespace Hub

variable {h h' : Hub} {id : SessionId} {ids ids' : List SessionId} {user : UserId}

/-- One hub comes from the other by at most one happening. -/
def Next (h h' : Hub) : Prop := h' = h ∨ ∃ x, h' = h.happen x

theorem Next.sound (hnext : h.Next h') (hs : h.Sound) : h'.Sound := by
  rcases hnext with rfl | ⟨x, rfl⟩
  · exact hs
  · exact hs.happen x

theorem Next.owned (hnext : h.Next h') (hs : h.Sound) (hid : id < h.nextId) (howned : h.Owned id user) :
    h'.Owned id user := by
  rcases hnext with rfl | ⟨x, rfl⟩
  · exact howned
  · exact howned.happen hs hid x

theorem Next.nextId_le (hnext : h.Next h') : h.nextId ≤ h'.nextId := by
  rcases hnext with rfl | ⟨x, rfl⟩
  · exact Nat.le_refl _
  · exact nextId_le_happen x

theorem Next.ended (hnext : h.Next h') (hs : h.Sound) (hid : id < h.nextId) (hended : h.session? id = none) :
    h'.session? id = none := by
  rcases hnext with rfl | ⟨x, rfl⟩
  · exact hended
  · exact session?_none_happen hs hid hended x

/-- The sessions of a hub, with their users. -/
def members (h : Hub) : List (SessionId × UserId) := h.sessions.map fun p => (p.1, p.2.user)

theorem Indexed.mem_members (hi : Indexed h) :
    (id, user) ∈ h.members ↔ ∃ x, h.session? id = some x ∧ x.user = user := by
  unfold members
  rw [List.mem_map]
  constructor
  · rintro ⟨⟨i, x⟩, hmem, he⟩
    cases he
    exact ⟨x, lookup_of_mem hi.ids hmem, rfl⟩
  · rintro ⟨x, hx, rfl⟩
    exact ⟨(id, x), mem_of_lookup hx, rfl⟩

/-- All sessions of a hub are among these, which are distinct and not to be
given out again. -/
structure HeldBy (h : Hub) (ids : List SessionId) : Prop where
  distinct : ids.Nodup
  numbered : ∀ id ∈ ids, id < h.nextId
  held : ∀ id, (h.session? id).isSome → id ∈ ids

theorem HeldBy.perm (hh : h.HeldBy ids) (hp : ids.Perm ids') : h.HeldBy ids' where
  distinct := hp.nodup_iff.mp hh.distinct
  numbered id hid := hh.numbered id (hp.mem_iff.mpr hid)
  held id hlive := hp.mem_iff.mp (hh.held id hlive)

theorem Only.isSome (honly : h.Only h') (hlive : (h'.session? id).isSome) : (h.session? id).isSome := by
  obtain ⟨x', hx'⟩ := Option.isSome_iff_exists.mp hlive
  obtain ⟨x, hx, -⟩ := honly id x' hx'
  rw [hx]
  rfl

theorem HeldBy.only (hh : h.HeldBy ids) (honly : h.Only h') (hle : h.nextId ≤ h'.nextId) : h'.HeldBy ids where
  distinct := hh.distinct
  numbered id hid := Nat.lt_of_lt_of_le (hh.numbered id hid) hle
  held id hlive := hh.held id (honly.isSome hlive)

theorem HeldBy.ended (hh : h.HeldBy (id :: ids)) (hended : h.session? id = none) : h.HeldBy ids where
  distinct := (List.nodup_cons.mp hh.distinct).2
  numbered i hi := hh.numbered i (List.mem_cons_of_mem _ hi)
  held i hlive := by
    rcases List.mem_cons.mp (hh.held i hlive) with rfl | hi
    · rw [hended] at hlive
      cases hlive
    · exact hi

theorem HeldBy.register (hh : h.HeldBy ids) (hs : h.Sound) (user : UserId) (now : Tick) :
    (h.register user now).2.HeldBy (h.nextId :: ids) where
  distinct := by
    refine List.nodup_cons.mpr ⟨fun hmem => ?_, hh.distinct⟩
    exact absurd (hh.numbered _ hmem) (Nat.lt_irrefl _)
  numbered i hi := by
    rcases List.mem_cons.mp hi with rfl | hi
    · exact Nat.lt_succ_self _
    · exact Nat.lt_succ_of_lt (hh.numbered i hi)
  held i hlive := by
    rw [session?_register (hs.unused (Nat.le_refl _))] at hlive
    split at hlive
    · next he => exact he ▸ List.mem_cons_self
    · exact List.mem_cons_of_mem _ (hh.held i hlive)

end Hub

/-! ## Sockets and sessions -/

namespace Socket

/-- The session and the user of a socket. -/
def seat (w : Socket) : SessionId × UserId := (w.session, w.user)

end Socket

namespace Server

variable {B : Backend} {s : Server B} {v w w' : Socket}

theorem sessions_of_seats {l l' : List Socket} (h : l'.map Socket.seat = l.map Socket.seat) :
    l'.map (·.session) = l.map (·.session) := by
  have hfirst := congrArg (List.map Prod.fst) h
  rw [List.map_map, List.map_map] at hfirst
  exact hfirst

theorem eq_of_session {l : List Socket} (distinct : (l.map (·.session)).Nodup) (hv : v ∈ l) (hw : w ∈ l)
    (hsession : v.session = w.session) : v = w :=
  List.inj_on_of_nodup_map distinct hv hw hsession

theorem mem_putSocket (hw : w ∈ s.sockets) (hsession : w'.session = w.session) :
    v ∈ (s.putSocket w').sockets ↔ v = w' ∨ v ∈ s.sockets ∧ v.session ≠ w.session := by
  simp only [putSocket, List.mem_map, hsession]
  constructor
  · rintro ⟨u, hu, rfl⟩
    by_cases he : u.session = w.session
    · exact .inl (if_pos he)
    · rw [if_neg he]
      exact .inr ⟨hu, he⟩
  · rintro (rfl | ⟨hv, hne⟩)
    · exact ⟨w, hw, if_pos rfl⟩
    · exact ⟨v, hv, if_neg hne⟩

theorem seats_putSocket (distinct : (s.sockets.map (·.session)).Nodup) (hw : w ∈ s.sockets)
    (hseat : w'.seat = w.seat) : (s.putSocket w').sockets.map Socket.seat = s.sockets.map Socket.seat := by
  have hsession : w'.session = w.session := congrArg Prod.fst hseat
  rw [putSocket, List.map_map]
  refine List.map_congr_left fun v hv => ?_
  by_cases he : v.session = w'.session
  · have hvw : v = w := eq_of_session distinct hv hw (he.trans hsession)
    simp [hvw, hsession, hseat]
  · simp [he]

theorem answer_sockets (q : Ask) : (answer q s).2.sockets = s.sockets ∧
    (answer q s).2.configuration = s.configuration := by
  cases q <;> exact ⟨rfl, rfl⟩

theorem answer_next (q : Ask) : s.hub.Next (answer q s).2.hub := by
  rw [answer_hub]
  split
  · next c _ => exact .inr ⟨.command s.tick c, rfl⟩
  · exact .inl rfl

end Server

namespace Traffic

variable {B : Backend} {s s' : Traffic B} {front behind : List Visit} {v : Visit} {w w' : Socket}
  {id : SessionId} {user : UserId}

/-- The sessions that are held by a socket or a request. -/
def holders (s : Traffic B) : List SessionId :=
  s.server.sockets.map (·.session) ++ s.visits.flatMap Visit.holds

/-- The sessions that are held by others than a request. -/
def others (s : Traffic B) (front behind : List Visit) : List SessionId :=
  s.server.sockets.map (·.session) ++ (front ++ behind).flatMap Visit.holds

theorem holders_perm (hv : s.visits = front ++ v :: behind) :
    s.holders.Perm (v.holds ++ s.others front behind) := by
  have hvisits : (front ++ v :: behind).flatMap Visit.holds =
      front.flatMap Visit.holds ++ (v.holds ++ behind.flatMap Visit.holds) := by simp
  rw [holders, others, hv, hvisits, List.flatMap_append]
  calc s.server.sockets.map (·.session) ++ (front.flatMap Visit.holds ++ (v.holds ++ behind.flatMap Visit.holds))
      = (s.server.sockets.map (·.session) ++ front.flatMap Visit.holds) ++
          (v.holds ++ behind.flatMap Visit.holds) := by simp
    _ |>.Perm (v.holds ++ ((s.server.sockets.map (·.session) ++ front.flatMap Visit.holds) ++
          behind.flatMap Visit.holds)) := List.perm_append_comm_assoc _ _ _
    _ = v.holds ++ (s.server.sockets.map (·.session) ++
          (front.flatMap Visit.holds ++ behind.flatMap Visit.holds)) := by simp

/-- **Who holds the sessions of the hub, and for whom.** -/
structure Matched (s : Traffic B) : Prop where
  sound : s.server.hub.Sound
  held : s.server.hub.HeldBy s.holders
  stages : ∀ v ∈ s.visits, Http.Stage s.server.configuration v.came v.request v.rest
  handed : ∀ v ∈ s.visits, ∀ session user, v.rest = .done (.upgraded session user) →
    s.server.hub.Owned session user
  owned : ∀ w ∈ s.server.sockets, s.server.hub.Owned w.session w.user
  named : ∀ w ∈ s.server.sockets, ∃ r came, s.opened w.session = some (r, came) ∧
    Http.Names s.server.configuration came r w.user

/-! ## Steps keep sessions matched -/

theorem Matched.distinct (hs : s.Matched) : (s.server.sockets.map (·.session)).Nodup :=
  hs.held.distinct.of_append_left

theorem Matched.mem_holders (hw : w ∈ s.server.sockets) : w.session ∈ s.holders :=
  List.mem_append_left _ (List.mem_map_of_mem hw)

theorem held_mem_holders (hv : v ∈ s.visits) (hid : id ∈ v.holds) : id ∈ s.holders :=
  List.mem_append_right _ (List.mem_flatMap.mpr ⟨v, hv, hid⟩)

/-- What changes neither sockets nor their records, and lets the hub take at
most one step. -/
structure Quiet (s s' : Traffic B) : Prop where
  configuration : s'.server.configuration = s.server.configuration
  seats : s'.server.sockets.map Socket.seat = s.server.sockets.map Socket.seat
  opened : s'.opened = s.opened
  next : s.server.hub.Next s'.server.hub

/-- The rule for steps that open no socket. -/
theorem Matched.of_quiet (hs : s.Matched) (hquiet : s.Quiet s') (hheld : s'.server.hub.HeldBy s'.holders)
    (hvisits : ∀ v ∈ s'.visits, v ∈ s.visits ∨ Http.Stage s.server.configuration v.came v.request v.rest ∧
      ∀ session user, v.rest = .done (.upgraded session user) → s'.server.hub.Owned session user) :
    s'.Matched := by
  have howned : ∀ id ∈ s.holders, ∀ user, s.server.hub.Owned id user → s'.server.hub.Owned id user :=
    fun id hid user => hquiet.next.owned hs.sound (hs.held.numbered id hid)
  have hsame : ∀ w' ∈ s'.server.sockets, ∃ w ∈ s.server.sockets, w.session = w'.session ∧ w.user = w'.user := by
    intro w' hw'
    have hmem : w'.seat ∈ s.server.sockets.map Socket.seat := hquiet.seats ▸ List.mem_map_of_mem hw'
    obtain ⟨w, hw, hseat⟩ := List.mem_map.mp hmem
    exact ⟨w, hw, congrArg Prod.fst hseat, congrArg Prod.snd hseat⟩
  refine ⟨hquiet.next.sound hs.sound, hheld, fun v hv => ?_, fun v hv session user hrest => ?_,
    fun w' hw' => ?_, fun w' hw' => ?_⟩
  · rw [hquiet.configuration]
    rcases hvisits v hv with hold | ⟨hstage, -⟩
    · exact hs.stages v hold
    · exact hstage
  · rcases hvisits v hv with hold | ⟨-, hnew⟩
    · refine howned session (held_mem_holders hold ?_) user (hs.handed v hold session user hrest)
      simp [Visit.holds, hrest, Http.held]
    · exact hnew session user hrest
  · obtain ⟨w, hw, hsession, huser⟩ := hsame w' hw'
    rw [← hsession, ← huser]
    exact howned _ (Matched.mem_holders hw) _ (hs.owned w hw)
  · obtain ⟨w, hw, hsession, huser⟩ := hsame w' hw'
    rw [hquiet.configuration, hquiet.opened, ← hsession, ← huser]
    exact hs.named w hw

theorem Matched.of_only (hs : s.Matched) (hquiet : s.Quiet s') (hvisits : s'.visits = s.visits)
    (honly : s.server.hub.Only s'.server.hub) : s'.Matched := by
  refine hs.of_quiet hquiet ?_ fun v hv => .inl (hvisits ▸ hv)
  have hholders : s'.holders = s.holders := by
    rw [holders, holders, hvisits, Server.sessions_of_seats hquiet.seats]
  rw [hholders]
  exact hs.held.only honly hquiet.next.nextId_le

end Traffic

/-- **A turn of a request** opens a session that the request holds from then on, or
closes the one that it held, or does neither. -/
theorem Http.Stage.turn {B : Backend} {c : Configuration} {now : Time.Instant} {r : Http.Request}
    {server : Server B} {q : Ask} {next : signature.Reply q → Http.Answering Http.Outcome}
    {ids : List SessionId} (hstage : Http.Stage c now r (.ask q next)) (hs : server.hub.Sound)
    (hheld : server.hub.HeldBy (Http.held (.ask q next) ++ ids)) :
    (Server.answer q server).2.hub.HeldBy (Http.held (next (Server.answer q server).1) ++ ids) ∧
      Http.Stage c now r (next (Server.answer q server).1) ∧
      ∀ session user, next (Server.answer q server).1 = .done (.upgraded session user) →
        (Server.answer q server).2.hub.Owned session user := by
  have hle : server.hub.nextId ≤ (Server.answer q server).2.hub.nextId := (Server.answer_next q).nextId_le
  cases hstage with
  | apart h =>
    have hnext := h.2 (Server.answer q server).1 trivial
    rw [Http.held_of_leaves_sessions h] at hheld
    rw [Http.held_of_leaves_sessions hnext]
    refine ⟨hheld.only (Server.answer_only h.1.1) hle, .apart hnext, fun session user hdone => ?_⟩
    rw [hdone] at hnext
    obtain ⟨x, hx⟩ := hnext
    cases hx
  | @closing session x =>
    have hended : (Server.answer (.closeSession session) server).2.hub.session? session = none := by
      have hrelease := hs.session?_release server.tick session session
      rw [if_pos rfl] at hrelease
      exact hrelease
    exact ⟨(hheld.only (Server.answer_only (q := .closeSession session) nofun) hle).ended hended, .apart ⟨_, rfl⟩, nofun⟩
  | @opening requestId user hnames =>
    have hhub : (Server.answer (.openSession user) server).2.hub = (server.hub.open? user server.tick).2 := rfl
    have hreply : (Server.answer (.openSession user) server).1 = (server.hub.open? user server.tick).1 := rfl
    have hnew := hs.unused (Nat.le_refl _)
    rw [hhub, hreply, Hub.open?_eq]
    cases hrunning : server.hub.running with
    | false => exact ⟨hheld, .apart ⟨_, rfl⟩, nofun⟩
    | true =>
      have hregistered := hheld.register hs user server.tick
      have howned : (server.hub.register user server.tick).2.Owned server.hub.nextId user := by
        intro x hx
        rw [Hub.session?_register hnew, if_pos rfl] at hx
        cases hx
        rfl
      simp only [if_true, Http.handover]
      split
      · refine ⟨hregistered, .opened hnames, fun session user' hdone => ?_⟩
        cases hdone
        exact howned
      · exact ⟨hregistered, .closing, nofun⟩

namespace Traffic

variable {B : Backend} {s s' : Traffic B} {front behind : List Visit} {v : Visit} {w w' : Socket}
  {id : SessionId} {user : UserId}

theorem Matched.turn {q : Ask} {next : signature.Reply q → Http.Answering Http.Outcome} (hs : s.Matched)
    (hv : s.visits = front ++ v :: behind) (hrest : v.rest = .ask q next) :
    Matched { s.ask q with
      visits := front ++ { v with rest := next (Server.answer q s.server).1 } :: behind } := by
  have hmem : v ∈ s.visits := by simp [hv]
  have hstage := hs.stages v hmem
  have hheld := hs.held.perm (holders_perm hv)
  rw [hrest] at hstage
  rw [Visit.holds, hrest] at hheld
  obtain ⟨hheld', hstage', howned'⟩ := hstage.turn hs.sound hheld
  have hquiet : s.Quiet { s.ask q with
      visits := front ++ { v with rest := next (Server.answer q s.server).1 } :: behind } :=
    ⟨(Server.answer_sockets q).2, congrArg _ (Server.answer_sockets q).1, rfl, Server.answer_next q⟩
  refine hs.of_quiet hquiet ?_ fun u hu => ?_
  · refine hheld'.perm (List.Perm.trans ?_ (holders_perm rfl).symm)
    simp only [others, ask, (Server.answer_sockets q).1]
    exact List.Perm.refl _
  · rcases List.mem_append.mp hu with hu | hu
    · exact .inl (by simp [hv, hu])
    · rcases List.mem_cons.mp hu with rfl | hu
      · exact .inr ⟨hstage', howned'⟩
      · exact .inl (by simp [hv, hu])

theorem Matched.remove (hs : s.Matched) (hv : s.visits = front ++ v :: behind) (hholds : v.holds = []) :
    Matched { s with visits := front ++ behind } := by
  have hheld := hs.held.perm (holders_perm hv)
  rw [hholds] at hheld
  refine hs.of_quiet ⟨rfl, rfl, rfl, .inl rfl⟩ hheld fun u hu => .inl ?_
  rw [hv]
  rcases List.mem_append.mp hu with hu | hu
  · exact List.mem_append_left _ hu
  · exact List.mem_append_right _ (List.mem_cons_of_mem _ hu)

theorem Matched.arrive (hs : s.Matched) (fresh : String) (r : Http.Request) : Matched { s with
    visits := s.visits ++ [Visit.start s.server.configuration s.server.now fresh r] } := by
  obtain ⟨hstage, hheld⟩ := Http.serve_stage s.server.configuration s.server.now fresh r
  refine hs.of_quiet ⟨rfl, rfl, rfl, .inl rfl⟩ ?_ fun v hv => ?_
  · have hholds : (Visit.start s.server.configuration s.server.now fresh r).holds = [] := hheld
    simpa [holders, hholds] using hs.held
  · rcases List.mem_append.mp hv with hv | hv
    · exact .inl hv
    · rw [List.mem_singleton.mp hv]
      refine .inr ⟨hstage, fun session user hdone => ?_⟩
      simp only [Visit.start] at hdone
      rw [hdone] at hheld
      cases hheld

theorem Matched.upgrade (hs : s.Matched) (hv : s.visits = front ++ v :: behind)
    (hrest : v.rest = .done (.upgraded id user)) :
    Matched { s.handOver v id user with visits := front ++ behind } := by
  have hmem : v ∈ s.visits := by simp [hv]
  have hholds : v.holds = [id] := by simp [Visit.holds, hrest, Http.held]
  have hheld := hs.held.perm (holders_perm hv)
  rw [hholds] at hheld
  have hfree : ∀ w ∈ s.server.sockets, w.session ≠ id := by
    rintro w hw rfl
    have hother : w.session ∈ s.others front behind := List.mem_append_left _ (List.mem_map_of_mem hw)
    exact (List.nodup_cons.mp hheld.distinct).1 hother
  have hnames : Http.Names s.server.configuration v.came v.request user := by
    have hstage := hs.stages v hmem
    rw [hrest] at hstage
    cases hstage with
    | apart h =>
      obtain ⟨x, hx⟩ := h
      cases hx
    | opened hnames => exact hnames
  have hold : ∀ u ∈ front ++ behind, u ∈ s.visits := by
    intro u hu
    rw [hv]
    rcases List.mem_append.mp hu with hu | hu
    · exact List.mem_append_left _ hu
    · exact List.mem_append_right _ (List.mem_cons_of_mem _ hu)
  refine ⟨hs.sound, hheld.perm ?_, fun u hu => hs.stages u (hold u hu), fun u hu => hs.handed u (hold u hu),
    fun w hw => ?_, fun w hw => ?_⟩
  · simp only [holders, others, handOver, Server.openSocket, List.map_append, List.map_cons, List.map_nil,
      List.append_assoc, List.singleton_append]
    exact List.perm_middle.symm
  · rcases List.mem_append.mp hw with hw | hw
    · exact hs.owned w hw
    · rw [List.mem_singleton.mp hw]
      exact hs.handed v hmem id user hrest
  · rcases List.mem_append.mp hw with hw | hw
    · obtain ⟨r, came, hopened, hnames⟩ := hs.named w hw
      refine ⟨r, came, ?_, hnames⟩
      exact (Function.update_of_ne (hfree w hw) _ _).trans hopened
    · rw [List.mem_singleton.mp hw]
      exact ⟨v.request, v.came, Function.update_self _ _ _, hnames⟩

theorem Matched.happen (hs : s.Matched) {x : Hub.Happening} (hx : x.opens = false) :
    (s.withHub (s.server.hub.happen x)).Matched :=
  hs.of_only ⟨rfl, rfl, rfl, .inr ⟨x, rfl⟩⟩ rfl (hs.sound.only_happen hx)

theorem Matched.put (hs : s.Matched) (hw : w ∈ s.server.sockets) (hseat : w'.seat = w.seat) :
    (s.putSocket w').Matched :=
  hs.of_only ⟨rfl, Server.seats_putSocket hs.distinct hw hseat, rfl, .inl rfl⟩ rfl (Hub.Only.refl _)

theorem Matched.continue (hs : s.Matched) (hw : w ∈ s.server.sockets) (hcontinues : w.Continues w') :
    (s.putSocket w').Matched :=
  hs.put hw (Prod.ext hcontinues.session hcontinues.user)

theorem Matched.work (hs : s.Matched) (step : Work s s') : s'.Matched := by
  cases step with
  | turn hv hrest => exact hs.turn hv hrest
  | respond hv hrest => exact hs.remove hv (by simp [Visit.holds, hrest, Http.held])
  | upgrade hv hrest => exact hs.upgrade hv hrest
  | @take w hw hopen hread =>
    have hseat : (w.deliver (s.server.hub.read w.session).1).seat = w.seat := by
      cases (s.server.hub.read w.session).1 <;> rfl
    exact (hs.happen (x := .reading w.session) rfl).put hw hseat
  | @release w hw hclosed hlive => exact hs.happen (x := .command s.server.tick (.unregister w.session)) rfl

theorem Matched.incident (hs : s.Matched) (step : Incident s s') : s'.Matched := by
  cases step with
  | arrive fresh r => exact hs.arrive fresh r
  | giveUp hv hholds => exact hs.remove hv hholds
  | vanish user => exact hs.happen (x := .command s.server.tick (.register user true)) rfl
  | ask q hq =>
    have hquiet : s.Quiet (s.ask q) :=
      ⟨(Server.answer_sockets q).2, congrArg _ (Server.answer_sockets q).1, rfl, Server.answer_next q⟩
    exact hs.of_only hquiet rfl (Server.answer_only hq.1)
  | hear hw m => exact hs.continue hw (Socket.receive_continues _ _ m)
  | beat hw => exact hs.continue hw (Socket.beat_continues _ _ _)
  | @takeAll w hw hopen =>
    rw [Socket.deliverAll_eq]
    exact (hs.happen (x := .readingAll w.session) rfl).put hw rfl
  | @leave w hw hclosed => exact hs.happen (x := .readerGone w.session) rfl
  | wake =>
    rcases (Hub.wake_cases : s.server.hub.wake s.server.tick = _ ∨ _) with hkept | ⟨next, hreaped⟩
    · rw [hkept]
      exact hs
    · rw [hreaped]
      exact hs.happen rfl
  | shutdown => exact hs.happen (x := .command s.server.tick .shutdown) rfl
  | elsewhere => exact hs.of_only ⟨rfl, rfl, rfl, .inl rfl⟩ rfl (Hub.Only.refl _)

/-! ## Frames -/

/-- **What the queue of a session was given** has been sent by its socket, or waits. -/
structure Streamed (s : Traffic B) : Prop where
  /-- Nothing is taken before there is a socket. -/
  unread : ∀ id, (∀ w ∈ s.server.sockets, w.session ≠ id) → s.accepted id = s.server.hub.waiting id
  sent : ∀ w ∈ s.server.sockets, w.isOpen = true → ∃ passed,
    s.accepted w.session = passed ++ s.server.hub.waiting w.session ∧ (passed.map .text).Sublist w.sent

/-- The rule for steps that take no frame. -/
theorem Streamed.of_waiting (hs : s.Streamed) (hsockets : s'.server.sockets = s.server.sockets)
    (hwaiting : ∀ id, ∃ given, s'.server.hub.waiting id = s.server.hub.waiting id ++ given ∧
      s'.accepted id = s.accepted id ++ given) : s'.Streamed := by
  refine ⟨fun id hfree => ?_, fun w hw hopen => ?_⟩
  · obtain ⟨given, hwaits, haccepted⟩ := hwaiting id
    rw [hwaits, haccepted, hs.unread id (hsockets ▸ hfree)]
  · obtain ⟨given, hwaits, haccepted⟩ := hwaiting w.session
    obtain ⟨passed, hpassed, hsent⟩ := hs.sent w (hsockets ▸ hw) hopen
    refine ⟨passed, ?_, hsent⟩
    rw [hwaits, haccepted, hpassed, List.append_assoc]

theorem Streamed.of_same (hs : s.Streamed) (hsockets : s'.server.sockets = s.server.sockets)
    (haccepted : s'.accepted = s.accepted)
    (hwaiting : ∀ id, s'.server.hub.waiting id = s.server.hub.waiting id) : s'.Streamed :=
  hs.of_waiting hsockets fun id => ⟨[], by rw [hwaiting, List.append_nil], by rw [haccepted, List.append_nil]⟩

theorem Streamed.deliver {h : Hub} (hs : s.Streamed) (frames : List String) (hw : w ∈ s.server.sockets)
    (hsession : w'.session = w.session)
    (hwaiting : s.server.hub.waiting w.session = frames ++ h.waiting w.session)
    (hothers : ∀ id, id ≠ w.session → h.waiting id = s.server.hub.waiting id)
    (hsent : w'.isOpen = true → w.isOpen = true ∧ w.sent ++ frames.map .text <+: w'.sent) :
    ((s.withHub h).putSocket w').Streamed := by
  have hmem : ∀ v, v ∈ ((s.withHub h).putSocket w').server.sockets ↔
      v = w' ∨ v ∈ s.server.sockets ∧ v.session ≠ w.session :=
    fun v => Server.mem_putSocket (s := (s.withHub h).server) hw hsession
  refine ⟨fun id hfree => ?_, fun v hv hopen => ?_⟩
  · have hne : id ≠ w.session := by
      rintro rfl
      exact hfree w' ((hmem w').mpr (.inl rfl)) hsession
    have hunread : s.accepted id = s.server.hub.waiting id := by
      refine hs.unread id fun v hv he => ?_
      exact hfree v ((hmem v).mpr (.inr ⟨hv, fun hvw => hne (he.symm.trans hvw)⟩)) he
    exact hunread.trans (hothers id hne).symm
  · rcases (hmem v).mp hv with rfl | ⟨hv, hne⟩
    · obtain ⟨hopen', hmore⟩ := hsent hopen
      obtain ⟨passed, haccepted, hpassed⟩ := hs.sent w hw hopen'
      refine ⟨passed ++ frames, ?_, ?_⟩
      · have hsplit : s.accepted w.session = (passed ++ frames) ++ h.waiting w.session := by
          rw [haccepted, hwaiting, List.append_assoc]
        rw [hsession]
        exact hsplit
      · rw [List.map_append]
        exact (hpassed.append (List.Sublist.refl _)).trans hmore.sublist
    · obtain ⟨passed, haccepted, hpassed⟩ := hs.sent v hv hopen
      exact ⟨passed, haccepted.trans (congrArg (passed ++ ·) (hothers v.session hne).symm), hpassed⟩

theorem Streamed.continue (hs : s.Streamed) (hw : w ∈ s.server.sockets) (hcontinues : w.Continues w') :
    (s.putSocket w').Streamed := by
  refine hs.deliver (h := s.server.hub) [] hw hcontinues.session rfl (fun _ _ => rfl) fun hopen => ?_
  simpa using hcontinues.more hopen

theorem Streamed.ask (hs : s.Streamed) (hsound : s.server.hub.Sound) (q : Ask) : (s.ask q).Streamed :=
  hs.of_waiting (Server.answer_sockets q).1 fun id =>
    ⟨s.server.hub.given id q, Server.waiting_answer hsound q id, rfl⟩

theorem Streamed.take (hs : s.Streamed) (hw : w ∈ s.server.sockets) (hopen : w.isOpen = true) :
    ((s.withHub (s.server.hub.read w.session).2).putSocket
      (w.deliver (s.server.hub.read w.session).1)).Streamed := by
  have hsession : (w.deliver (s.server.hub.read w.session).1).session = w.session := by
    cases (s.server.hub.read w.session).1 <;> rfl
  have hothers : ∀ id, id ≠ w.session →
      (s.server.hub.read w.session).2.waiting id = s.server.hub.waiting id :=
    fun id hne => Hub.waiting_read_of_ne hne
  cases hwaiting : s.server.hub.waiting w.session with
  | nil =>
    have hread : (s.server.hub.read w.session).2.waiting w.session = [] := by
      rw [Hub.waiting_read, hwaiting, List.tail_nil]
    refine hs.deliver [] hw hsession (by rw [hwaiting, hread]; rfl) hothers fun hstill => ⟨hopen, ?_⟩
    rw [Hub.read_fst, hwaiting] at hstill ⊢
    cases hlive : (s.server.hub.session? w.session).isSome with
    | true => simp [Socket.deliver]
    | false => simp [hlive, Socket.deliver, Socket.stop] at hstill
  | cons frame rest =>
    have hread : (s.server.hub.read w.session).2.waiting w.session = rest := by
      rw [Hub.waiting_read, hwaiting, List.tail_cons]
    refine hs.deliver [frame] hw hsession (by rw [hwaiting, hread]; rfl) hothers fun _ => ⟨hopen, ?_⟩
    rw [Hub.read_fst, hwaiting]
    simp [Socket.deliver, Socket.send]

theorem Streamed.takeAll (hs : s.Streamed) (hw : w ∈ s.server.sockets) (hopen : w.isOpen = true) :
    ((s.withHub (s.server.hub.readAll w.session).2.2).putSocket
      ((s.server.hub.readAll w.session).1.foldl (fun w frame => w.deliver (.frame frame)) w)).Streamed := by
  have hcleared : (s.server.hub.readAll w.session).2.2.waiting w.session = [] :=
    Hub.waiting_cleared fun _ => rfl
  have hothers : ∀ id, id ≠ w.session →
      (s.server.hub.readAll w.session).2.2.waiting id = s.server.hub.waiting id :=
    fun id hne => Hub.waiting_updateQueue_of_ne hne
  rw [Socket.deliverAll_eq]
  refine hs.deliver (s.server.hub.waiting w.session) hw rfl ?_ hothers fun _ => ⟨hopen, ?_⟩
  · rw [hcleared, List.append_nil]
  · exact List.prefix_refl _

theorem Streamed.leave (hs : s.Streamed) (distinct : (s.server.sockets.map (·.session)).Nodup)
    (hw : w ∈ s.server.sockets) (hclosed : w.isOpen = false) :
    (s.withHub (s.server.hub.dropReader w.session)).Streamed := by
  have hothers : ∀ id, id ≠ w.session →
      (s.server.hub.dropReader w.session).waiting id = s.server.hub.waiting id :=
    fun id hne => Hub.waiting_updateQueue_of_ne hne
  refine ⟨fun id hfree => ?_, fun v hv hopen => ?_⟩
  · have hne : id ≠ w.session := fun he => hfree w hw he.symm
    exact (hs.unread id hfree).trans (hothers id hne).symm
  · have hne : v.session ≠ w.session := by
      intro he
      rw [Server.eq_of_session distinct hv hw he, hclosed] at hopen
      cases hopen
    obtain ⟨passed, haccepted, hpassed⟩ := hs.sent v hv hopen
    exact ⟨passed, haccepted.trans (congrArg (passed ++ ·) (hothers v.session hne).symm), hpassed⟩

theorem Streamed.handOver (hs : s.Streamed) (v : Visit) (user : UserId)
    (hfree : ∀ w ∈ s.server.sockets, w.session ≠ id) :
    (s.handOver v id user).Streamed := by
  refine ⟨fun i hi => ?_, fun w hw hopen => ?_⟩
  · exact hs.unread i fun w hw => hi w (List.mem_append_left _ hw)
  · rcases List.mem_append.mp hw with hw | hw
    · exact hs.sent w hw hopen
    · rw [List.mem_singleton.mp hw]
      exact ⟨[], hs.unread id hfree, List.Sublist.refl _⟩

theorem Streamed.happen (hs : s.Streamed) {h : Hub}
    (hwaiting : ∀ id, h.waiting id = s.server.hub.waiting id) : (s.withHub h).Streamed :=
  hs.of_same rfl rfl hwaiting

theorem Streamed.command (hs : s.Streamed) (hsound : s.server.hub.Sound) {c : Hub.Command}
    (hc : ∀ user frame, c ≠ .offer user frame) :
    Streamed { s with server := (s.server.command c).2 } :=
  hs.happen fun _ => hsound.waiting_take hc

/-! ## Any time -/

/-- What holds of the service throughout. -/
structure Kept (s : Traffic B) : Prop extends Matched s, Streamed s

theorem Kept.work (hs : s.Kept) (step : Work s s') : s'.Kept := by
  have hstreamed := hs.toStreamed
  have hmatched := hs.toMatched
  refine ⟨hmatched.work step, ?_⟩
  cases step with
  | @turn _ _ _ q _ hv hrest =>
    have hasked := hstreamed.ask hs.sound q
    exact ⟨hasked.unread, hasked.sent⟩
  | respond hv hrest => exact ⟨hs.unread, hs.sent⟩
  | @upgrade front behind v session user hv hrest =>
    have hmem : session ∈ v.holds := by simp [Visit.holds, hrest, Http.held]
    have hfree : ∀ w ∈ s.server.sockets, w.session ≠ session := by
      rintro w hw rfl
      have hdistinct := (hs.held.perm (holders_perm hv)).distinct
      have hother : w.session ∈ s.others front behind := List.mem_append_left _ (List.mem_map_of_mem hw)
      exact List.disjoint_of_nodup_append hdistinct hmem hother
    have hopened := hstreamed.handOver v user hfree
    exact ⟨hopened.unread, hopened.sent⟩
  | take hw hopen hread => exact hstreamed.take hw hopen
  | release hw hclosed hlive => exact hstreamed.command hs.sound nofun

theorem Kept.incident (hs : s.Kept) (step : Incident s s') : s'.Kept := by
  have hstreamed := hs.toStreamed
  have hmatched := hs.toMatched
  refine ⟨hmatched.incident step, ?_⟩
  cases step with
  | arrive | giveUp | elsewhere => exact ⟨hs.unread, hs.sent⟩
  | vanish user => exact hstreamed.command hs.sound nofun
  | ask q hq => exact hstreamed.ask hs.sound q
  | hear hw m => exact hstreamed.continue hw (Socket.receive_continues _ _ m)
  | beat hw => exact hstreamed.continue hw (Socket.beat_continues _ _ _)
  | takeAll hw hopen => exact hstreamed.takeAll hw hopen
  | leave hw hclosed => exact hstreamed.leave hmatched.distinct hw hclosed
  | wake =>
    refine hstreamed.happen fun id => ?_
    rcases (Hub.wake_cases : s.server.hub.wake s.server.tick = _ ∨ _) with hkept | ⟨next, hreaped⟩
    · rw [hkept]
    · rw [hreaped]
      exact Hub.waiting_of_queues (Hub.queues_unregisterAll _)
  | shutdown => exact hstreamed.command hs.sound nofun

theorem Kept.reaches (hs : s.Kept) (run : Reaches s s') : s'.Kept := by
  induction run with
  | refl => exact hs
  | tail _ step ih =>
    rcases step with work | incident
    · exact ih.work work
    · exact ih.incident incident

theorem Step.next (step : Step s s') : s.server.hub.Next s'.server.hub := by
  rcases step with work | incident
  · cases work with
    | @turn _ _ _ q => exact Server.answer_next q
    | respond | upgrade => exact .inl rfl
    | @take w => exact .inr ⟨.reading w.session, rfl⟩
    | @release w => exact .inr ⟨.command s.server.tick (.unregister w.session), rfl⟩
  · cases incident with
    | arrive | giveUp | hear | beat | elsewhere => exact .inl rfl
    | vanish user => exact .inr ⟨.command s.server.tick (.register user true), rfl⟩
    | ask q => exact Server.answer_next q
    | @takeAll w => exact .inr ⟨.readingAll w.session, rfl⟩
    | @leave w => exact .inr ⟨.readerGone w.session, rfl⟩
    | wake => exact Hub.wake_cases.imp_right fun ⟨next, hreaped⟩ => ⟨_, hreaped⟩
    | shutdown => exact .inr ⟨.command s.server.tick .shutdown, rfl⟩

theorem Kept.ended (hs : s.Kept) (run : Reaches s s') (hid : id < s.server.hub.nextId)
    (hended : s.server.hub.session? id = none) : s'.server.hub.session? id = none := by
  have hlater : id < s'.server.hub.nextId ∧ s'.server.hub.session? id = none := by
    induction run with
    | refl => exact ⟨hid, hended⟩
    | tail run step ih =>
      have hnext := step.next
      exact ⟨Nat.lt_of_lt_of_le ih.1 hnext.nextId_le, hnext.ended (hs.reaches run).sound ih.1 ih.2⟩
  exact hlater.2

theorem kept_start (configuration : Configuration) (directory : Directory) (archive : B.State)
    (now : Time.Instant) : Kept ⟨Server.start configuration directory archive now, [], fun _ => none, fun _ => []⟩ where
  sound := Hub.Sound.start _
  held := ⟨List.nodup_nil, nofun, fun id hlive => by cases hlive⟩
  stages := nofun
  handed := nofun
  owned := nofun
  named := nofun
  unread _ _ := rfl
  sent := nofun

end Traffic
end Parley
