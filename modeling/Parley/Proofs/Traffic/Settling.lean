/-
When all work is done.

Each piece of work brings a request closer to its end, or leaves less for the
sockets to do, so work comes to an end whatever is done first (`Kept.acc`).
Then the sessions of the hub are those of the open sockets
(`Kept.corresponds`). A socket whose session was ended by the hub has by then
sent all that waited for it, and the reason why it closes (`Kept.evicted`).
-/
import Mathlib.Algebra.Order.BigOperators.Group.List
import Mathlib.Logic.Hydra
import Parley.Proofs.Traffic.Kept

namespace Parley

open Surroundings (Ask signature)

/-! ## What is left to do -/

namespace Http

/-- One program is what another goes on with after an answer. -/
inductive Follows : Answering Outcome → Answering Outcome → Prop
  | answered {q : Ask} {next : signature.Reply q → Answering Outcome} (reply : signature.Reply q) :
    Follows (next reply) (.ask q next)

theorem follows_wf : WellFounded Follows := by
  refine ⟨fun p => ?_⟩
  induction p with
  | done outcome => exact ⟨_, fun _ h => nomatch h⟩
  | ask q next ih =>
    refine ⟨_, fun p' h => ?_⟩
    cases h with
    | answered reply => exact ih reply

end Http

namespace Traffic

variable {B : Backend} {s s' : Traffic B} {front behind : List Visit} {v : Visit} {w w' : Socket}
  {id : SessionId} {user : UserId}

/-- The programs of the requests under way. -/
def programs (s : Traffic B) : Multiset (Http.Answering Http.Outcome) := (s.visits.map Visit.rest : List _)

/-- How much a socket has to do: to take what waits and to stop, or to end its session. -/
def load (h : Hub) (w : Socket) : Nat :=
  if w.isOpen then (h.waiting w.session).length + 2 else if (h.session? w.session).isSome then 1 else 0

/-- How much the sockets have to do. -/
def loads (s : Traffic B) : Nat := (s.server.sockets.map (load s.server.hub)).sum

/-- Less is left: a request has gone on or has ended, or the requests are as
they were and the sockets have less to do. -/
def Less : Traffic B → Traffic B → Prop :=
  InvImage (Prod.Lex (Relation.CutExpand Http.Follows) (· < ·)) fun s => (s.programs, s.loads)

theorem less_wf : WellFounded (Less (B := B)) :=
  InvImage.wf _ (WellFounded.prod_lex Http.follows_wf.cutExpand Nat.lt_wfRel.wf)

theorem programs_eq (hv : s.visits = front ++ v :: behind) :
    s.programs = {v.rest} + (((front ++ behind).map Visit.rest : List _) : Multiset _) := by
  rw [programs, hv, ← Multiset.coe_singleton, Multiset.coe_add, Multiset.coe_eq_coe]
  exact (List.perm_middle : (front ++ v :: behind).Perm (v :: (front ++ behind))).map Visit.rest

theorem less_of_removed (hv : s.visits = front ++ v :: behind) (hv' : s'.visits = front ++ behind) :
    s'.Less s := by
  refine Prod.Lex.left _ _ ⟨0, v.rest, fun _ h => absurd h (Multiset.notMem_zero _), ?_⟩
  rw [programs_eq hv, programs, hv', add_zero, add_comm]

theorem less_of_answered {v' : Visit} (hv : s.visits = front ++ v :: behind)
    (hv' : s'.visits = front ++ v' :: behind) (hfollows : Http.Follows v'.rest v.rest) : s'.Less s := by
  refine Prod.Lex.left _ _ ⟨{v'.rest}, v.rest, fun p hp => ?_, ?_⟩
  · rw [Multiset.mem_singleton.mp hp]
    exact hfollows
  · rw [programs_eq hv, programs_eq hv']
    ac_rfl

theorem less_of_loads {f : Socket → Socket} (hvisits : s'.visits = s.visits)
    (hsockets : s'.server.sockets = s.server.sockets.map f) (hw : w ∈ s.server.sockets)
    (hle : ∀ u ∈ s.server.sockets, load s'.server.hub (f u) ≤ load s.server.hub u)
    (hlt : load s'.server.hub (f w) < load s.server.hub w) : s'.Less s := by
  have hloads : s'.loads < s.loads := by
    rw [loads, loads, hsockets, List.map_map]
    exact List.sum_lt_sum _ _ hle ⟨w, hw, hlt⟩
  have hprograms : s'.programs = s.programs := by rw [programs, programs, hvisits]
  have hpair : (s'.programs, s'.loads) = (s.programs, s'.loads) := by rw [hprograms]
  change Prod.Lex _ _ (s'.programs, s'.loads) (s.programs, s.loads)
  rw [hpair]
  exact Prod.Lex.right _ hloads

/-- The rule for a socket that goes on while nothing changes for the others. -/
theorem less_of_put {h : Hub} (hs : s.Kept) (hw : w ∈ s.server.sockets) (hsession : w'.session = w.session)
    (hwaiting : ∀ id, id ≠ w.session → h.waiting id = s.server.hub.waiting id)
    (hsessions : ∀ id, h.session? id = s.server.hub.session? id)
    (hlt : load h w' < load s.server.hub w) : ((s.withHub h).putSocket w').Less s := by
  have hput : ∀ u, u.session = w.session → (if u.session = w'.session then w' else u) = w' :=
    fun u hu => if_pos (hu.trans hsession.symm)
  refine less_of_loads (s := s) (w := w) rfl rfl hw (fun u hu => ?_) ?_
  · by_cases he : u.session = w.session
    · obtain rfl : u = w := Server.eq_of_session hs.distinct hu hw he
      rw [hput u he]
      exact Nat.le_of_lt hlt
    · have hother : (if u.session = w'.session then w' else u) = u := if_neg fun hu => he (hu.trans hsession)
      have hsame : load h u = load s.server.hub u := by rw [load, load, hwaiting _ he, hsessions]
      rw [hother]
      exact Nat.le_of_eq hsame
  · rw [hput w rfl]
    exact hlt

/-- **Work leaves less to do.** -/
theorem Kept.less (hs : s.Kept) (work : Work s s') : s'.Less s := by
  cases work with
  | @turn front behind v q next hv hrest =>
    refine less_of_answered hv rfl ?_
    rw [hrest]
    exact .answered _
  | respond hv hrest => exact less_of_removed hv rfl
  | upgrade hv hrest => exact less_of_removed hv rfl
  | @take w hw hopen hread =>
    have hsession : (w.deliver (s.server.hub.read w.session).1).session = w.session := by
      cases (s.server.hub.read w.session).1 <;> rfl
    refine less_of_put hs hw hsession (fun _ hne => Hub.waiting_read_of_ne hne) (fun _ => Hub.session?_read) ?_
    rw [load, load, hsession, hopen, Hub.session?_read, Hub.waiting_read]
    rw [Hub.read_fst] at hread ⊢
    cases hwaiting : s.server.hub.waiting w.session with
    | nil =>
      rw [hwaiting] at hread
      cases hlive : (s.server.hub.session? w.session).isSome with
      | true => simp [hlive] at hread
      | false => simp [Socket.deliver, Socket.stop]
    | cons frame rest => simp [Socket.deliver, Socket.send, hopen]
  | @release w hw hclosed hlive =>
    have hended : ∀ id, (s.server.hub.take s.server.tick (.unregister w.session)).2.session? id =
        if id = w.session then none else s.server.hub.session? id := hs.sound.session?_release _ _
    have hwaiting : ∀ id, (s.server.hub.take s.server.tick (.unregister w.session)).2.waiting id =
        s.server.hub.waiting id := fun id => hs.sound.waiting_take (c := .unregister w.session) (by simp)
    refine less_of_loads (f := id) rfl (List.map_id _).symm hw (fun u hu => ?_) ?_
    · change load (s.server.hub.take s.server.tick (.unregister w.session)).2 u ≤ load s.server.hub u
      rw [load, load, hwaiting, hended]
      by_cases he : u.session = w.session
      · obtain rfl : u = w := Server.eq_of_session hs.distinct hu hw he
        simp [hclosed]
      · simp [he]
    · change load (s.server.hub.take s.server.tick (.unregister w.session)).2 w < load s.server.hub w
      rw [load, load, hended]
      simp [hclosed, hlive]

theorem Kept.acc (hs : s.Kept) : Acc (fun s' s => Work s s') s := by
  induction s using less_wf.induction with
  | h s ih => exact ⟨s, fun s' work => ih s' (hs.less work) (hs.work work)⟩

theorem Kept.settles (hs : s.Kept) : ∃ s', s.Works s' ∧ s'.Settled := by
  have hacc := hs.acc
  induction hacc with
  | intro s _ ih =>
    by_cases hsettled : s.Settled
    · exact ⟨s, .refl, hsettled⟩
    · obtain ⟨s', work⟩ : ∃ s', Work s s' := by
        simpa [Settled] using hsettled
      obtain ⟨s'', works, hend⟩ := ih s' work (hs.work work)
      exact ⟨s'', .head work works, hend⟩

/-! ## When no work is left -/

theorem Settled.visits (h : s.Settled) : s.visits = [] := by
  cases hvisits : s.visits with
  | nil => rfl
  | cons v behind =>
    have hsplit : s.visits = [] ++ v :: behind := hvisits
    cases hrest : v.rest with
    | ask q next => exact absurd (.turn hsplit hrest) (h _)
    | done outcome =>
      cases outcome with
      | response x => exact absurd (.respond hsplit hrest) (h _)
      | upgraded session user => exact absurd (.upgrade hsplit hrest) (h _)

theorem Settled.live (h : s.Settled) (hw : w ∈ s.server.sockets) (hopen : w.isOpen = true) :
    (s.server.hub.session? w.session).isSome := by
  have hread : (s.server.hub.read w.session).1 = .empty := by
    by_contra hread
    exact h _ (.take hw hopen hread)
  rw [Hub.read_fst] at hread
  cases hwaiting : s.server.hub.waiting w.session with
  | nil =>
    rw [hwaiting] at hread
    by_contra hended
    simp [hended] at hread
  | cons frame rest => simp [hwaiting] at hread

theorem Settled.ended (h : s.Settled) (hw : w ∈ s.server.sockets) (hclosed : w.isOpen = false) :
    s.server.hub.session? w.session = none := by
  by_contra hlive
  exact h _ (.release hw hclosed (Option.isSome_iff_ne_none.mpr hlive))

/-- **The sessions of the hub are those of the open sockets**, when no work is left. -/
theorem Kept.corresponds (hs : s.Kept) (h : s.Settled) :
    s.server.hub.members.Perm ((s.server.sockets.filter (·.isOpen)).map Socket.seat) := by
  have hmembers : s.server.hub.members.Nodup := by
    have hids := hs.sound.ids
    refine List.Nodup.of_map Prod.fst ?_
    rw [Hub.members, List.map_map]
    exact hids
  have hseats : ((s.server.sockets.filter (·.isOpen)).map Socket.seat).Nodup := by
    have hsessions : ((s.server.sockets.filter (·.isOpen)).map (·.session)).Nodup :=
      (List.filter_sublist.map _).nodup hs.distinct
    refine List.Nodup.of_map Prod.fst ?_
    rw [List.map_map]
    exact hsessions
  have hholders : s.holders = s.server.sockets.map (·.session) := by
    rw [holders, h.visits, List.flatMap_nil, List.append_nil]
  refine (List.perm_ext_iff_of_nodup hmembers hseats).mpr ?_
  rintro ⟨id, user⟩
  rw [hs.sound.toIndexed.mem_members]
  constructor
  · rintro ⟨x, hx, rfl⟩
    have hmem : id ∈ s.holders := hs.held.held id (by rw [hx]; rfl)
    rw [hholders] at hmem
    obtain ⟨w, hw, rfl⟩ := List.mem_map.mp hmem
    have hopen : w.isOpen = true := by
      by_contra hclosed
      rw [h.ended hw (by simpa using hclosed)] at hx
      cases hx
    refine List.mem_map.mpr ⟨w, List.mem_filter.mpr ⟨hw, hopen⟩, ?_⟩
    exact congrArg (Prod.mk w.session) (hs.owned w hw x hx).symm
  · intro hmem
    obtain ⟨w, hw, hseat⟩ := List.mem_map.mp hmem
    cases hseat
    obtain ⟨hw, hopen⟩ := List.mem_filter.mp hw
    obtain ⟨x, hx⟩ := Option.isSome_iff_exists.mp (h.live hw hopen)
    exact ⟨x, hx, hs.owned w hw x hx⟩

/-! ## A session that the hub has ended -/

/-- The way of a socket whose session was ended: it has sent some of what
waited, or all and the reason why it closes. -/
inductive Leaving (before w : Socket) (waited waiting : List String) : Prop
  | still (taken : List String) (hopen : w.isOpen = true) (hwaited : waited = taken ++ waiting)
    (hsent : w.sent = before.sent ++ taken.map .text)
  | gone (hclosed : w.isOpen = false)
    (hsent : w.sent = before.sent ++ waited.map .text ++ [.close (some (Socket.goingAway, none))])

/-- What a socket and the queue of its session have come to. -/
structure Left (before : Socket) (waited : List String) (s : Traffic B) : Prop where
  ended : s.server.hub.session? before.session = none
  numbered : before.session < s.server.hub.nextId
  leaving : ∃ w ∈ s.server.sockets, w.session = before.session ∧
    Leaving before w waited (s.server.hub.waiting before.session)

variable {before : Socket} {waited : List String}

theorem Left.of_same (h : s.Left before waited) (hs : s.Kept) (hnext : s.server.hub.Next s'.server.hub)
    (hsockets : ∀ w ∈ s.server.sockets, w.session = before.session → w ∈ s'.server.sockets)
    (hwaiting : s'.server.hub.waiting before.session = s.server.hub.waiting before.session) :
    s'.Left before waited := by
  obtain ⟨w, hw, hsession, hleaving⟩ := h.leaving
  refine ⟨hnext.ended hs.sound h.numbered h.ended, Nat.lt_of_lt_of_le h.numbered hnext.nextId_le,
    w, hsockets w hw hsession, hsession, ?_⟩
  rw [hwaiting]
  exact hleaving

theorem Left.take (h : s.Left before waited) (hs : s.Kept) (hw : w ∈ s.server.sockets) (hopen : w.isOpen = true)
    (hsession : w.session = before.session) :
    ((s.withHub (s.server.hub.read w.session).2).putSocket
      (w.deliver (s.server.hub.read w.session).1)).Left before waited := by
  obtain ⟨u, hu, husession, hleaving⟩ := h.leaving
  obtain rfl : u = w := Server.eq_of_session hs.distinct hu hw (husession.trans hsession.symm)
  have hnext : s.server.hub.Next (s.server.hub.read u.session).2 := .inr ⟨.reading u.session, rfl⟩
  have hkept : (u.deliver (s.server.hub.read u.session).1).session = u.session := by
    cases (s.server.hub.read u.session).1 <;> rfl
  have hmem : u.deliver (s.server.hub.read u.session).1 ∈
      ((s.withHub (s.server.hub.read u.session).2).putSocket
        (u.deliver (s.server.hub.read u.session).1)).server.sockets :=
    (Server.mem_putSocket (s := (s.withHub _).server) hu hkept).mpr (.inl rfl)
  refine ⟨hnext.ended hs.sound h.numbered h.ended, Nat.lt_of_lt_of_le h.numbered hnext.nextId_le,
    _, hmem, hkept.trans husession, ?_⟩
  cases hleaving with
  | gone hclosed => simp [hopen] at hclosed
  | still taken _ hwaited hsent =>
    have hended := h.ended
    change Leaving before (u.deliver (s.server.hub.read u.session).1) waited
      ((s.server.hub.read u.session).2.waiting before.session)
    rw [← husession] at hwaited hended ⊢
    rw [Hub.read_fst, Hub.waiting_read]
    cases hwaiting : s.server.hub.waiting u.session with
    | nil =>
      rw [hwaiting, List.append_nil] at hwaited
      simp only [hended, Option.isSome_none, Bool.false_eq_true, if_false]
      refine .gone rfl ?_
      simp [Socket.deliver, Socket.send, Socket.stop, hsent, hwaited]
    | cons frame rest =>
      rw [hwaiting] at hwaited
      refine .still (taken ++ [frame]) hopen (by simp [hwaited]) ?_
      simp [Socket.deliver, Socket.send, hsent]

theorem Left.work (h : s.Left before waited) (hs : s.Kept) (work : Work s s') : s'.Left before waited := by
  cases work with
  | respond => exact h.of_same hs (.inl rfl) (fun _ hw _ => hw) rfl
  | upgrade => exact h.of_same hs (.inl rfl) (fun _ hw _ => List.mem_append_left _ hw) rfl
  | @turn front behind v q next hv hrest =>
    refine h.of_same hs (Server.answer_next q) (fun w hw _ => ?_) ?_
    · exact (Server.answer_sockets q).1.symm ▸ hw
    · exact (Server.waiting_answer hs.sound q _).trans (by rw [hs.sound.given_of_ended h.ended, List.append_nil])
  | @release u hu hclosed hlive =>
    have hwaiting : (s.server.hub.take s.server.tick (.unregister u.session)).2.waiting before.session =
        s.server.hub.waiting before.session := hs.sound.waiting_take nofun
    exact h.of_same hs (.inr ⟨.command s.server.tick (.unregister u.session), rfl⟩) (fun _ hw _ => hw) hwaiting
  | @take u hu hopen hread =>
    by_cases he : u.session = before.session
    · exact h.take hs hu hopen he
    · have hkept : (u.deliver (s.server.hub.read u.session).1).session = u.session := by
        cases (s.server.hub.read u.session).1 <;> rfl
      refine h.of_same hs (.inr ⟨.reading u.session, rfl⟩) (fun w hw hsession => ?_) ?_
      · refine (Server.mem_putSocket (s := (s.withHub _).server) hu hkept).mpr (.inr ⟨hw, fun hwu => ?_⟩)
        exact he (hwu.symm.trans hsession)
      · exact Hub.waiting_read_of_ne (Ne.symm he)

/-- **A socket whose session the hub has ended sends what waits for it, and then
closes.** -/
theorem Kept.evicted (hs : s.Kept) (hw : w ∈ s.server.sockets) (hopen : w.isOpen = true)
    (hended : s.server.hub.session? w.session = none) (works : s.Works s') (hsettled : s'.Settled) :
    ∃ w' ∈ s'.server.sockets, w'.session = w.session ∧ w'.isOpen = false ∧
      w'.sent = w.sent ++ (s.server.hub.waiting w.session).map .text ++
        [.close (some (Socket.goingAway, none))] := by
  have hleft : s'.Kept ∧ s'.Left w (s.server.hub.waiting w.session) := by
    clear hsettled
    induction works with
    | refl =>
      refine ⟨hs, hended, hs.held.numbered _ (Matched.mem_holders hw), w, hw, rfl, ?_⟩
      exact .still [] hopen rfl (by simp)
    | tail _ work ih => exact ⟨ih.1.work work, ih.2.work ih.1 work⟩
  obtain ⟨w', hw', hsession, hleaving⟩ := hleft.2.leaving
  cases hleaving with
  | gone hclosed hsent => exact ⟨w', hw', hsession, hclosed, hsent⟩
  | still taken hopen' _ _ =>
    have hlive := hsettled.live hw' hopen'
    rw [hsession, hleft.2.ended] at hlive
    cases hlive

end Traffic
end Parley
