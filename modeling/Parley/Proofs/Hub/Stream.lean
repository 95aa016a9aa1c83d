/-
The frames of a session.

What its reader took, and then what still waits, are the frames that were
offered to its user while it lived, in the order of the offers and each once
(`conserved`). A frame that its queue does not take ends the session, so that no
frame is missing between two others.

An offer is told to the sessions of a user in no order of its own: whatever
order it takes, the answer and the hub behind it are the same
(`offerInOrder_eq`).
-/
import Parley.Proofs.Hub.History

namespace Parley.Hub

variable {h : Hub} {user u : UserId} {now : Tick} {id i : SessionId} {frame : String}

/-! ## What a session is offered, and what its reader does -/

/-- The frames that are offered to a user. -/
def framesTo (user : UserId) : Happening → List String
  | .command _ (.offer u frame) => if u = user then [frame] else []
  | _ => []

/-- What the reader of a session takes. -/
def takenBy (id : SessionId) (h : Hub) : Happening → List String
  | .reading i => if i = id then (match (h.read id).1 with | .frame text => [text] | _ => []) else []
  | .readingAll i => if i = id then (h.readAll id).1 else []
  | _ => []

/-- What the reader of a session leaves behind when it goes away. -/
def leftBy (id : SessionId) (h : Hub) : Happening → List String
  | .readerGone i => if i = id then h.waiting id else []
  | _ => []

/-- All that the reader of a session takes. -/
def takenIn (id : SessionId) : Hub → List Happening → List String
  | _, [] => []
  | h, x :: later => takenBy id h x ++ takenIn id (h.happen x) later

/-- All that the reader of a session leaves behind. -/
def leftIn (id : SessionId) : Hub → List Happening → List String
  | _, [] => []
  | h, x :: later => leftBy id h x ++ leftIn id (h.happen x) later

/-- What happens while a session lives. What ends it is not part of it. -/
def lifetime (id : SessionId) : Hub → List Happening → List Happening
  | _, [] => []
  | h, x :: later => if ((h.happen x).session? id).isSome then x :: lifetime id (h.happen x) later else []

/-! ## One happening -/

theorem nextId_unregisterAll (ids : List SessionId) : (ids.foldl unregister h).nextId = h.nextId :=
  congrArg (·.2.1) (core_unregisterAll ids)

theorem nextId_le_take (c : Command) : h.nextId ≤ (h.take now c).2.nextId := by
  unfold take
  split
  · cases c with
    | register user callerGone =>
      cases callerGone with
      | false => exact Nat.le_succ _
      | true =>
        have hkept := nextId_unregisterAll (h := (h.register user now).2) [h.nextId]
        exact Nat.le_trans (Nat.le_succ _) (Nat.le_of_eq hkept.symm)
    | unregister id => exact Nat.le_of_eq (nextId_unregisterAll [id]).symm
    | offer user frame => exact Nat.le_of_eq (congrArg (·.2.1) core_offer).symm
    | _ => exact Nat.le_refl _
  · exact Nat.le_refl _

theorem core_read : (h.read id).2.core = h.core := by
  unfold read
  split <;> rfl

theorem nextId_le_happen (x : Happening) : h.nextId ≤ (h.happen x).nextId := by
  cases x with
  | command now c => exact nextId_le_take c
  | reaping now next => exact Nat.le_of_eq (nextId_unregisterAll _).symm
  | reading id => exact Nat.le_of_eq (congrArg (·.2.1) core_read).symm
  | readingAll id => exact Nat.le_refl _
  | readerGone id => exact Nat.le_refl _

/-- A session has the user it was opened for. -/
def Owned (h : Hub) (id : SessionId) (user : UserId) : Prop := ∀ s, h.session? id = some s → s.user = user

theorem Owned.of_ended (howned : h.Owned id user) {h' : Hub} {P : Prop} [Decidable P]
    (hended : h'.session? id = if P then none else h.session? id) : h'.Owned id user := by
  intro s hs
  rw [hended] at hs
  split at hs
  · cases hs
  · exact howned s hs

theorem Owned.unregisterAll (howned : h.Owned id user) (ids : List SessionId) :
    (ids.foldl unregister h).Owned id user :=
  howned.of_ended (session?_unregisterAll ids)

theorem Owned.take (howned : h.Owned id user) (hs : Sound h) (hid : id < h.nextId) (c : Command) :
    (h.take now c).2.Owned id user := by
  have hregister : ∀ u, (h.register u now).2.Owned id user := fun u s hsession => by
    rw [session?_register (hs.unused (Nat.le_refl _)), if_neg (Nat.ne_of_lt hid)] at hsession
    exact howned s hsession
  unfold Hub.take
  split
  · cases c with
    | register u callerGone =>
      cases callerGone with
      | false => exact hregister u
      | true => exact (hregister u).unregisterAll [h.nextId]
    | unregister id => exact howned.unregisterAll [id]
    | touch i =>
      intro s hsession
      obtain ⟨s', hs', rfl⟩ := Option.map_eq_some_iff.mp (session?_touch.symm.trans hsession)
      split <;> exact howned s' hs'
    | offer u frame => exact howned.of_ended session?_offer
    | isOnline u => exact howned
    | stats => exact howned
    | shutdown => exact fun s hsession => nomatch hsession
  · exact howned

theorem Owned.happen (howned : h.Owned id user) (hs : Sound h) (hid : id < h.nextId) (x : Happening) :
    (h.happen x).Owned id user := by
  cases x with
  | command now c => exact howned.take hs hid c
  | reaping now next => exact howned.unregisterAll _
  | reading i => exact fun s hsession => howned s (session?_read.symm.trans hsession)
  | readingAll i => exact howned
  | readerGone i => exact howned

/-! ## Conservation -/

theorem waiting_of_queues {h' : Hub} (hq : h'.queues = h.queues) : h'.waiting id = h.waiting id := by
  rw [waiting, waiting, queue?, queue?, hq]

theorem Indexed.waiting_offer (hi : Indexed h) : (h.offer user frame).2.waiting id =
    if id ∈ h.sessionsOf user ∧ h.accepts id then h.waiting id ++ [frame] else h.waiting id := by
  rw [waiting, hi.queue?_offer]
  cases hq : h.queue? id with
  | none =>
    have hrefused : h.accepts id = false := by simp [accepts, hq]
    simp [waiting, hq, hrefused]
  | some q =>
    simp only [waiting, hq, Option.map_some, Option.getD_some]
    split <;> rfl

/-- The frames that a happening offers to a session that lives on. -/
def offeredBy (id : SessionId) (user : UserId) (h : Hub) (x : Happening) : List String :=
  if ((h.happen x).session? id).isSome then framesTo user x else []

theorem Sound.waiting_take (hs : Sound h) {c : Command} (hother : ∀ u frame, c ≠ .offer u frame) :
    (h.take now c).2.waiting id = h.waiting id := by
  have hregister : ∀ u, (h.register u now).2.waiting id = h.waiting id := fun u => by
    have hnew := hs.fresh _ (Nat.le_refl _)
    rw [waiting, queue?_register hnew]
    split
    · next he => simp [he, waiting, hnew]
    · rfl
  unfold Hub.take
  split
  · cases c with
    | register u callerGone =>
      cases callerGone with
      | false => exact hregister u
      | true => exact (waiting_of_queues queues_unregister).trans (hregister u)
    | unregister i => exact waiting_of_queues queues_unregister
    | offer u frame => exact absurd rfl (hother u frame)
    | _ => rfl
  · rfl

theorem Owned.mem_sessionsOf (howned : h.Owned id user) (hi : Indexed h) (hlive : (h.session? id).isSome) :
    id ∈ h.sessionsOf u ↔ u = user := by
  obtain ⟨s, hsession⟩ := Option.isSome_iff_exists.mp hlive
  rw [hi.index]
  refine ⟨?_, fun he => ⟨s, hsession, he ▸ howned s hsession⟩⟩
  rintro ⟨s', hs', rfl⟩
  exact howned s' hs'

theorem Sound.conserved_offer (hs : Sound h) (howned : h.Owned id user) :
    h.waiting id ++ (if ((h.offer u frame).2.session? id).isSome then if u = user then [frame] else [] else []) =
      (h.offer u frame).2.waiting id := by
  rw [hs.toIndexed.waiting_offer, session?_offer]
  cases hlive : (h.session? id).isSome with
  | false =>
    have hnot : id ∉ h.sessionsOf u := fun hmem => by
      obtain ⟨s, hsession, -⟩ := (hs.index id u).mp hmem
      simp [hsession] at hlive
    simp [hnot, hlive]
  | true =>
    have hmem : id ∈ h.sessionsOf u ↔ u = user := howned.mem_sessionsOf hs.toIndexed hlive
    simp only [hmem]
    by_cases hu : u = user
    · cases haccepts : h.accepts id <;> simp [hu, hlive]
    · simp [hu]

theorem offeredBy_of_none {x : Happening} (hx : framesTo user x = []) : offeredBy id user h x = [] := by
  rw [offeredBy, hx, ite_self]

theorem Sound.conserved_take (hs : Sound h) (howned : h.Owned id user) (c : Command) :
    h.waiting id ++ offeredBy id user h (.command now c) = (h.take now c).2.waiting id := by
  by_cases hoffer : ∃ u frame, c = .offer u frame
  · obtain ⟨u, frame, rfl⟩ := hoffer
    cases hrunning : h.running with
    | false =>
      have hgone : (h.happen (.command now (.offer u frame))).session? id = none := by
        simpa only [Hub.happen, take_of_stopped hrunning] using hs.closed hrunning id
      simp [offeredBy, hgone, take_of_stopped hrunning]
    | true =>
      simp only [offeredBy, Hub.happen, framesTo, Hub.take, hrunning, if_true]
      exact hs.conserved_offer howned
  · have hother : ∀ u frame, c ≠ .offer u frame := fun u frame he => hoffer ⟨u, frame, he⟩
    have hnone : framesTo user (.command now c) = [] := by
      unfold framesTo
      split
      · next hc => cases hc; exact absurd rfl (hother _ _)
      · rfl
    rw [hs.waiting_take hother, offeredBy_of_none hnone, List.append_nil]

theorem waiting_updateQueue_of_ne {f : Queue → Queue} (hne : id ≠ i) :
    (h.updateQueue i f).waiting id = h.waiting id := by
  rw [waiting, queue?_updateQueue, waiting]
  simp [hne]

theorem waiting_cleared {f : Queue → Queue} (hf : ∀ q, (f q).waiting = []) :
    (h.updateQueue id f).waiting id = [] := by
  rw [waiting, queue?_updateQueue]
  cases h.queue? id with
  | none => rfl
  | some q => simpa using hf q

theorem waiting_read_of_ne (hne : id ≠ i) : (h.read i).2.waiting id = h.waiting id := by
  unfold read
  split
  · exact waiting_updateQueue_of_ne hne
  · rfl

theorem Sound.conserved_happen (hs : Sound h) (howned : h.Owned id user) (x : Happening) :
    h.waiting id ++ offeredBy id user h x = takenBy id h x ++ leftBy id h x ++ (h.happen x).waiting id := by
  cases x with
  | command now c => exact hs.conserved_take howned c
  | reaping now next =>
    rw [offeredBy_of_none rfl, List.append_nil]
    exact (waiting_of_queues (queues_unregisterAll _)).symm
  | reading i =>
    rw [offeredBy_of_none rfl, List.append_nil]
    simp only [takenBy, leftBy, List.append_nil, Hub.happen]
    split
    · next he =>
      subst he
      rw [waiting_read, read_fst]
      cases h.waiting i with
      | nil => cases (h.session? i).isSome <;> rfl
      | cons frame rest => rfl
    · next hne => exact (waiting_read_of_ne (Ne.symm hne)).symm
  | readingAll i =>
    rw [offeredBy_of_none rfl, List.append_nil]
    simp only [takenBy, leftBy, List.append_nil, Hub.happen, readAll]
    split
    · next he =>
      subst he
      rw [waiting_cleared fun _ => rfl, List.append_nil, waiting]
    · next hne => exact (waiting_updateQueue_of_ne (Ne.symm hne)).symm
  | readerGone i =>
    rw [offeredBy_of_none rfl, List.append_nil]
    simp only [takenBy, leftBy, List.nil_append, Hub.happen, dropReader]
    split
    · next he =>
      subst he
      rw [waiting_cleared fun _ => rfl, List.append_nil]
    · next hne => exact (waiting_updateQueue_of_ne (Ne.symm hne)).symm

/-! ## A whole life -/

theorem session?_none_happen (hs : Sound h) (hid : id < h.nextId) (hended : h.session? id = none)
    (x : Happening) : (h.happen x).session? id = none := by
  -- A session that has ended is owned by everyone, and no session is owned by two users.
  have howned : ∀ user, (h.happen x).Owned id user := fun user =>
    Owned.happen (fun s hsession => by rw [hended] at hsession; cases hsession) hs hid x
  cases hsession : (h.happen x).session? id with
  | none => rfl
  | some s => 
    have h0 := howned 0 s hsession
    have h1 := howned 1 s hsession
    exact absurd (h0.symm.trans h1) (by decide)

theorem lifetime_of_ended (hs : Sound h) (hid : id < h.nextId) (hended : h.session? id = none)
    (later : List Happening) : lifetime id h later = [] := by
  cases later with
  | nil => rfl
  | cons x later => rw [lifetime, session?_none_happen hs hid hended]; rfl

theorem framesTo_lifetime (hs : Sound h) (hid : id < h.nextId) (x : Happening) (later : List Happening) :
    (lifetime id h (x :: later)).flatMap (framesTo user) =
      offeredBy id user h x ++ (lifetime id (h.happen x) later).flatMap (framesTo user) := by
  rw [lifetime, offeredBy]
  cases hended : (h.happen x).session? id with
  | some s => simp
  | none =>
    rw [lifetime_of_ended (hs.happen x) (Nat.lt_of_lt_of_le hid (nextId_le_happen x)) hended]
    rfl

/-! ## A reader who is gone -/

/-- A session whose reader is gone. -/
def Gone (h : Hub) (id : SessionId) : Prop := ∃ q, h.queue? id = some q ∧ q.reading = false

theorem Gone.of_queues {h' : Hub} (hgone : h.Gone id) (hq : h'.queues = h.queues) : h'.Gone id := by
  rwa [Gone, queue?, hq]

theorem Gone.of_map {h' : Hub} (hgone : h.Gone id) {f : Queue → Queue} (hq : h'.queue? id = (h.queue? id).map f)
    (hf : ∀ q, q.reading = false → (f q).reading = false) : h'.Gone id := by
  obtain ⟨q, hfound, hreading⟩ := hgone
  exact ⟨f q, by rw [hq, hfound]; rfl, hf q hreading⟩

theorem Gone.updateQueue (hgone : h.Gone id) {f : Queue → Queue}
    (hf : ∀ q, h.queue? i = some q → q.reading = false → (f q).reading = false) :
    (h.updateQueue i f).Gone id := by
  obtain ⟨q, hfound, hreading⟩ := hgone
  refine ⟨_, by rw [queue?_updateQueue, hfound, Option.map_some], ?_⟩
  split
  · next he => exact hf q (he ▸ hfound) hreading
  · exact hreading

theorem Gone.take (hgone : h.Gone id) (hs : Sound h) (c : Command) : (h.take now c).2.Gone id := by
  have hregister : ∀ u, (h.register u now).2.Gone id := fun u => by
    obtain ⟨q, hq, hreading⟩ := hgone
    refine ⟨q, ?_, hreading⟩
    rw [queue?_register (hs.fresh _ (Nat.le_refl _)), if_neg, hq]
    rintro rfl
    rw [hs.fresh _ (Nat.le_refl _)] at hq
    cases hq
  unfold Hub.take
  split
  · cases c with
    | register u callerGone =>
      cases callerGone with
      | false => exact hregister u
      | true => exact (hregister u).of_queues queues_unregister
    | unregister i => exact hgone.of_queues queues_unregister
    | offer u frame =>
      refine hgone.of_map hs.toIndexed.queue?_offer fun q hreading => ?_
      split <;> exact hreading
    | _ => exact hgone
  · exact hgone

theorem Gone.happen (hgone : h.Gone id) (hs : Sound h) (x : Happening) : (h.happen x).Gone id := by
  cases x with
  | command now c => exact hgone.take hs c
  | reaping now next => exact hgone.of_queues (queues_unregisterAll _)
  | reading i =>
    change (h.read i).2.Gone id
    unfold Hub.read
    split
    · next frame rest reading hq =>
      refine hgone.updateQueue fun q hfound hreading => ?_
      cases hfound.symm.trans hq
      exact hreading
    · exact hgone
  | readingAll i => exact hgone.updateQueue fun _ _ hreading => hreading
  | readerGone i => exact hgone.updateQueue fun _ _ _ => rfl

theorem Gone.waiting (hgone : h.Gone id) (hs : Sound h) : h.waiting id = [] := by
  obtain ⟨q, hq, hreading⟩ := hgone
  rw [Hub.waiting, hq]
  exact (hs.fits id q hq).gone hreading

theorem takenBy_of_nothing (hnothing : h.waiting id = []) (x : Happening) : takenBy id h x = [] := by
  unfold takenBy
  split
  · rw [read_fst, hnothing]
    cases (h.session? id).isSome <;> simp
  · next i =>
    have hread : (h.readAll id).1 = [] := hnothing
    rw [hread, ite_self]
  · rfl

theorem Gone.takenIn (hgone : h.Gone id) (hs : Sound h) (later : List Happening) : takenIn id h later = [] := by
  induction later generalizing h with
  | nil => rfl
  | cons x later ih =>
    rw [Hub.takenIn, takenBy_of_nothing (hgone.waiting hs), ih (hgone.happen hs x) (hs.happen x)]
    rfl

theorem left_or_taken (hs : Sound h) (id : SessionId) (x : Happening) (later : List Happening) :
    leftBy id h x = [] ∨ takenIn id (h.happen x) later = [] := by
  cases x with
  | readerGone i =>
    by_cases he : i = id
    · subst he
      cases hq : h.queue? i with
      | none => exact .inl (by simp [leftBy, waiting, hq])
      | some q =>
        have hgone : (h.happen (.readerGone i)).Gone i :=
          ⟨⟨[], false⟩, by simp [happen, dropReader, queue?_updateQueue, hq], rfl⟩
        exact .inr (hgone.takenIn (hs.happen _) later)
    · exact .inl (if_neg he)
  | _ => exact .inl rfl

theorem leftIn_of_reading {later : List Happening} (hreading : .readerGone id ∉ later) :
    leftIn id h later = [] := by
  induction later generalizing h with
  | nil => rfl
  | cons x later ih =>
    obtain ⟨hx, hlater⟩ := not_or.mp (List.mem_cons.not.mp hreading)
    rw [leftIn, ih hlater, List.append_nil]
    unfold leftBy
    split
    · next i => exact if_neg fun he : i = id => hx (he ▸ rfl)
    · rfl

/-! ## Any time later -/

/-- **What waited and was offered until a session ended has been taken, was
left behind, or still waits, in this order.** -/
theorem Sound.conserved (hs : Sound h) (hid : id < h.nextId) (howned : h.Owned id user)
    (later : List Happening) :
    h.waiting id ++ (lifetime id h later).flatMap (framesTo user) =
      takenIn id h later ++ leftIn id h later ++ (h.after later).waiting id := by
  induction later generalizing h with
  | nil =>
    simp only [lifetime, takenIn, leftIn, List.flatMap_nil, List.append_nil, List.nil_append]
    rfl
  | cons x later ih =>
    have hcomm : leftBy id h x ++ takenIn id (h.happen x) later = takenIn id (h.happen x) later ++ leftBy id h x := by
      rcases left_or_taken hs id x later with hnil | hnil <;> simp [hnil]
    calc h.waiting id ++ (lifetime id h (x :: later)).flatMap (framesTo user)
        = (h.waiting id ++ offeredBy id user h x) ++ (lifetime id (h.happen x) later).flatMap (framesTo user) := by
          rw [framesTo_lifetime hs hid, List.append_assoc]
      _ = takenBy id h x ++ leftBy id h x ++
            ((h.happen x).waiting id ++ (lifetime id (h.happen x) later).flatMap (framesTo user)) := by
          rw [hs.conserved_happen howned, List.append_assoc]
      _ = takenBy id h x ++ leftBy id h x ++ (takenIn id (h.happen x) later ++ leftIn id (h.happen x) later ++
            (h.after (x :: later)).waiting id) := by
          rw [ih (hs.happen x) (Nat.lt_of_lt_of_le hid (nextId_le_happen x)) (howned.happen hs hid x)]
          rfl
      _ = takenIn id h (x :: later) ++ leftIn id h (x :: later) ++ (h.after (x :: later)).waiting id := by
          simp only [takenIn, leftIn, List.append_assoc]
          rw [← List.append_assoc (leftBy id h x), hcomm, List.append_assoc]

/-! ## The order of an offer -/

/-- Offers a frame to sessions one after the other: whether one took it, and
those that did not. -/
def offerEach (frame : String) : List SessionId → Hub → Bool × List SessionId × Hub
  | [], h => (false, [], h)
  | id :: ids, h =>
    if h.accepts id then
      let (_, refusing, h) := offerEach frame ids (h.put frame id)
      (true, refusing, h)
    else
      let (taken, refusing, h) := offerEach frame ids h
      (taken, id :: refusing, h)

/-- Offers a frame to sessions in an order, and then evicts those that did
not take it, in the same order. -/
def offerInOrder (h : Hub) (frame : String) (order : List SessionId) : Bool × Hub :=
  let (taken, refusing, h) := offerEach frame order h
  (taken, refusing.foldl unregister h)

theorem accepts_put (hne : i ≠ id) : (h.put frame id).accepts i = h.accepts i := by
  simp only [accepts, put, queue?_updateQueue, if_neg hne, Option.map_id']
  rfl

theorem offerEach_eq {ids : List SessionId} (distinct : ids.Nodup) : offerEach frame ids h =
    (!(ids.filter h.accepts).isEmpty, ids.filter fun id => !h.accepts id,
      (ids.filter h.accepts).foldl (put frame) h) := by
  induction ids generalizing h with
  | nil => rfl
  | cons id ids ih =>
    obtain ⟨hid, hids⟩ := List.nodup_cons.mp distinct
    have hkept : ∀ i ∈ ids, (h.put frame id).accepts i = h.accepts i :=
      fun i hi => accepts_put fun he => hid (he ▸ hi)
    unfold offerEach
    cases haccepts : h.accepts id with
    | true =>
      have hrefusing : ∀ i ∈ ids, (!(h.put frame id).accepts i) = !h.accepts i := fun i hi => by rw [hkept i hi]
      rw [if_pos rfl, ih hids, List.filter_congr hkept, List.filter_congr hrefusing]
      simp [haccepts]
    | false =>
      rw [if_neg Bool.false_ne_true, ih hids]
      simp [haccepts]

theorem put_comm (a b : SessionId) : (h.put frame a).put frame b = (h.put frame b).put frame a := by
  by_cases hab : a = b
  · rw [hab]
  · simp only [put, updateQueue, List.map_map]
    refine congrArg (fun queues => { h with queues := queues }) (List.map_congr_left fun p _ => ?_)
    obtain ⟨i, q⟩ := p
    by_cases ha : i = a
    · subst ha
      simp [hab]
    · by_cases hb : i = b
      · subst hb
        simp [ha]
      · simp [ha, hb]

theorem Indexed.unregister_comm (hi : Indexed h) (a b : SessionId) :
    (h.unregister a).unregister b = (h.unregister b).unregister a := by
  have hnone : ∀ {a b}, h.session? a = none → (h.unregister b).unregister a = h.unregister b := fun {a b} ha => by
    refine unregister_of_none ?_
    rw [session?_unregister, ha, ite_self]
  cases ha : h.session? a with
  | none => rw [hnone ha, unregister_of_none ha]
  | some s =>
    cases hb : h.session? b with
    | none => rw [hnone hb, unregister_of_none hb]
    | some s' =>
      by_cases hab : a = b
      · rw [hab]
      · have ha' : (h.unregister b).session? a = some s := by rw [session?_unregister, if_neg hab, ha]
        have hb' : (h.unregister a).session? b = some s' := by rw [session?_unregister, if_neg (Ne.symm hab), hb]
        rw [unregister_of_some ha', unregister_of_some hb', unregister_of_some ha, unregister_of_some hb]
        simp only [List.filter_filter, Bool.and_comm, removeUser_comm hi.users]

theorem Indexed.unregisterAll_perm (hi : Indexed h) {a b : List SessionId} (hp : a.Perm b) :
    a.foldl Hub.unregister h = b.foldl Hub.unregister h := by
  induction hp generalizing h with
  | nil => rfl
  | cons id _ ih => exact ih hi.unregister
  | swap id i ids => rw [List.foldl_cons, List.foldl_cons, List.foldl_cons, List.foldl_cons, hi.unregister_comm]
  | trans _ _ ih₁ ih₂ => exact (ih₁ hi).trans (ih₂ hi)

theorem putAll_perm {a b : List SessionId} (hp : a.Perm b) : a.foldl (put frame) h = b.foldl (put frame) h := by
  induction hp generalizing h with
  | nil => rfl
  | cons id _ ih => exact ih
  | swap id i ids => rw [List.foldl_cons, List.foldl_cons, List.foldl_cons, List.foldl_cons, put_comm]
  | trans _ _ ih₁ ih₂ => exact ih₁.trans ih₂

/-- **Whatever the order in which the sessions of a user are offered a
frame, the answer and the hub behind it are the same.** -/
theorem Indexed.offerInOrder_eq (hi : Indexed h) {order : List SessionId}
    (hp : order.Perm (h.sessionsOf user)) : h.offerInOrder frame order = h.offer user frame := by
  have hput : Indexed (((h.sessionsOf user).filter h.accepts).foldl (put frame) h) :=
    hi.of_eq (indexes_putAll _).1 (indexes_putAll _).2
  rw [offerInOrder, offerEach_eq (hp.nodup_iff.mpr (hi.distinct user)), (hp.filter _).isEmpty_eq,
    putAll_perm (hp.filter h.accepts)]
  exact congrArg (Prod.mk _) (hput.unregisterAll_perm (hp.filter fun id => !h.accepts id))

/-! ## An offer in a hub that can be reached -/

theorem settings_take (c : Command) : (h.take now c).2.settings = h.settings := by
  unfold take
  split
  · cases c with
    | register u callerGone =>
      cases callerGone with
      | false => rfl
      | true => exact congrArg (·.1) (core_unregister (h := (h.register u now).2))
    | unregister i => exact congrArg (·.1) core_unregister
    | offer u frame => exact congrArg (·.1) core_offer
    | _ => rfl
  · rfl

theorem settings_happen (x : Happening) : (h.happen x).settings = h.settings := by
  cases x with
  | command now c => exact settings_take c
  | reaping now next => exact congrArg (·.1) (core_unregisterAll _)
  | reading i => exact congrArg (·.1) core_read
  | readingAll i => rfl
  | readerGone i => rfl

theorem settings_after (history : List Happening) : (h.after history).settings = h.settings := by
  induction history generalizing h with
  | nil => rfl
  | cons x history ih => exact ih.trans (settings_happen x)

/-- A session of the user took the frame. -/
def Took (h h' : Hub) (user : UserId) (frame : String) : Prop :=
  ∃ id s, h.session? id = some s ∧ s.user = user ∧ h'.waiting id = h.waiting id ++ [frame]

/-- What an offer does to the sessions there are. -/
structure Fanout (h h' : Hub) (user : UserId) (frame : String) (taken : Bool) : Prop where
  /-- The offer is answered by whether a session of the user took the frame. -/
  answer : taken = true ↔ Took h h' user frame
  /-- A session of the user takes the frame and stays, or leaves it and ends. -/
  own : ∀ id s, h.session? id = some s → s.user = user →
    h'.session? id = some s ∧ h'.waiting id = h.waiting id ++ [frame] ∨
      h'.session? id = none ∧ h'.waiting id = h.waiting id
  /-- Those sessions of the user end whose queue is full or whose reader is gone. -/
  evicted : ∀ id s, h.session? id = some s → (h'.session? id = none ↔
    s.user = user ∧ ∃ q, h.queue? id = some q ∧ (q.waiting.length = h.capacity ∨ q.reading = false))
  /-- Sessions of other users keep their queues. -/
  others : ∀ id s, h.session? id = some s → s.user ≠ user →
    h'.session? id = some s ∧ h'.queue? id = h.queue? id
  unopened : ∀ id, h.session? id = none → h'.session? id = none

theorem Sound.refuses_iff (hs : Sound h) (hlive : (h.session? id).isSome) : ¬h.accepts id ↔
    ∃ q, h.queue? id = some q ∧ (q.waiting.length = h.capacity ∨ q.reading = false) := by
  obtain ⟨q, hq⟩ := Option.isSome_iff_exists.mp (hs.queued id hlive)
  have hbounded := (hs.fits id q hq).bounded
  have hfull : h.capacity ≤ q.waiting.length ↔ q.waiting.length = h.capacity :=
    ⟨fun hle => Nat.le_antisymm hbounded hle, fun he => Nat.le_of_eq he.symm⟩
  cases hreading : q.reading <;> simp [accepts, hq, hreading, hfull]

theorem Sound.fanout_offer (hs : Sound h) :
    Fanout h (h.offer user frame).2 user frame (h.offer user frame).1 := by
  have hmem : ∀ {id s}, h.session? id = some s → (id ∈ h.sessionsOf user ↔ s.user = user) := fun {id s} hsession => by
    rw [hs.index]
    refine ⟨?_, fun hu => ⟨s, hsession, hu⟩⟩
    rintro ⟨s', hs', hu⟩
    cases hsession.symm.trans hs'
    exact hu
  have hlengthened : ∀ {l : List String}, l ≠ l ++ [frame] := by simp
  refine ⟨?_, fun id s hsession hu => ?_, fun id s hsession => ?_, fun id s hsession hu => ⟨?_, ?_⟩, fun id hnone => ?_⟩
  · rw [offer_taken]
    refine ⟨?_, ?_⟩
    · rintro ⟨id, hid, haccepts⟩
      obtain ⟨s, hsession, hu⟩ := (hs.index id user).mp hid
      exact ⟨id, s, hsession, hu, by rw [hs.toIndexed.waiting_offer, if_pos ⟨hid, haccepts⟩]⟩
    · rintro ⟨id, s, hsession, hu, hwaiting⟩
      rw [hs.toIndexed.waiting_offer] at hwaiting
      split at hwaiting
      · next htook => exact ⟨id, htook⟩
      · exact absurd hwaiting hlengthened
  · have hid := (hmem hsession).mpr hu
    rw [session?_offer, hs.toIndexed.waiting_offer]
    cases haccepts : h.accepts id with
    | true => exact .inl (by simpa [hid] using hsession)
    | false => exact .inr (by simp [hid])
  · rw [session?_offer, ← hs.refuses_iff (by rw [hsession]; rfl), ← hmem hsession]
    split
    · next hout => simpa using hout
    · next hin => simpa [hsession] using hin
  · have hid : id ∉ h.sessionsOf user := fun hid => hu ((hmem hsession).mp hid)
    rw [session?_offer, if_neg fun hout => hid hout.1, hsession]
  · have hid : id ∉ h.sessionsOf user := fun hid => hu ((hmem hsession).mp hid)
    rw [hs.toIndexed.queue?_offer]
    simp [hid]
  · rw [session?_offer, hnone, ite_self]

theorem fanout_of_no_sessions (hnone : ∀ id, h.session? id = none) : Fanout h h user frame false := by
  have hno : ∀ {id s}, h.session? id ≠ some s := fun {id s} => by simp [hnone id]
  refine ⟨?_, fun id s hsession => absurd hsession hno, fun id s hsession => absurd hsession hno,
    fun id s hsession => absurd hsession hno, fun _ hended => hended⟩
  refine ⟨nofun, ?_⟩
  rintro ⟨id, s, hsession, -⟩
  exact absurd hsession hno

theorem Sound.fanout (hs : Sound h) (now : Tick) (user : UserId) (frame : String) :
    ∃ taken, (h.take now (.offer user frame)).1 = .delivered taken ∧
      Fanout h (h.take now (.offer user frame)).2 user frame taken := by
  cases hrunning : h.running with
  | false =>
    rw [take_of_stopped hrunning]
    exact ⟨false, rfl, fanout_of_no_sessions (hs.closed hrunning)⟩
  | true =>
    simp only [Hub.take, hrunning, if_true]
    exact ⟨_, rfl, hs.fanout_offer⟩

theorem Sound.send_taken (hs : Sound h) (user : UserId) (frame : String) (now : Tick) :
    (h.send user frame now).1 = true ↔ Took h (h.send user frame now).2 user frame := by
  obtain ⟨taken, hanswer, hfanout⟩ := hs.fanout now user frame
  rcases htake : h.take now (.offer user frame) with ⟨a, h'⟩
  rw [htake] at hanswer hfanout
  cases (show a = .delivered taken from hanswer)
  simp only [send, htake]
  exact hfanout.answer

theorem Sound.opened (hs : Sound h) (hanswer : (h.take now (.register user false)).1 = .session (some id)) :
    id < (h.take now (.register user false)).2.nextId ∧ (h.take now (.register user false)).2.Owned id user ∧
      (h.take now (.register user false)).2.waiting id = [] := by
  cases hrunning : h.running with
  | false =>
    rw [take_of_stopped hrunning] at hanswer
    cases hanswer
  | true =>
    simp only [Hub.take, hrunning, if_true, Bool.false_eq_true, if_false] at hanswer ⊢
    cases hanswer
    refine ⟨Nat.lt_succ_self _, fun s hsession => ?_, ?_⟩
    · change (h.register user now).2.session? h.nextId = some s at hsession
      rw [session?_register (hs.unused (Nat.le_refl _)), if_pos rfl] at hsession
      cases hsession
      rfl
    · change (h.register user now).2.waiting h.nextId = []
      rw [waiting, queue?_register (hs.fresh _ (Nat.le_refl _)), if_pos rfl]
      rfl

/-- **Nothing is lost, doubled or reordered while a session lives.** In every
state that a hub can reach, its queues hold no more than they may; an offer is
taken by or ends each session of the user, in whatever order it meets them,
and leaves the others alone; and whatever happens to a session after it was
opened, what its reader took, then what the reader left behind when it went
away, and then what still waits are the frames that were offered to its user
while it lived. -/
theorem streams_conserved (settings : HubSettings) (started : Tick) (history : List Happening) :
    let h := (start settings started).after history
    (∀ id, (h.waiting id).length ≤ max 1 settings.outboundQueue) ∧
    (∀ now user frame, ∃ taken, (h.take now (.offer user frame)).1 = .delivered taken ∧
      Fanout h (h.take now (.offer user frame)).2 user frame taken) ∧
    (∀ user frame order, order.Nodup → (∀ id, id ∈ order ↔ ∃ s, h.session? id = some s ∧ s.user = user) →
      h.offerInOrder frame order = h.offer user frame) ∧
    ∀ now user id later, (h.take now (.register user false)).1 = .session (some id) →
      let opened := (h.take now (.register user false)).2
      takenIn id opened later ++ leftIn id opened later ++ (opened.after later).waiting id =
          (lifetime id opened later).flatMap (framesTo user) ∧
        (.readerGone id ∉ later → leftIn id opened later = []) := by
  intro h
  have hs : Sound h := (Sound.start settings).after history
  have hcapacity : h.capacity = max 1 settings.outboundQueue :=
    congrArg (fun s : HubSettings => max 1 s.outboundQueue) (settings_after history)
  refine ⟨fun id => ?_, hs.fanout, fun user frame order hnodup horder => ?_,
    fun now user id later hanswer => ⟨?_, leftIn_of_reading⟩⟩
  · rw [← hcapacity, waiting]
    cases hq : h.queue? id with
    | none => exact Nat.zero_le _
    | some q => exact (hs.fits id q hq).bounded
  · refine hs.toIndexed.offerInOrder_eq ?_
    exact (List.perm_ext_iff_of_nodup hnodup (hs.distinct user)).mpr fun id => (horder id).trans (hs.index id user).symm
  · obtain ⟨hid, howned, hempty⟩ := hs.opened hanswer
    have hconserved := (hs.take (.register user false)).conserved hid howned later
    rw [hempty, List.nil_append] at hconserved
    exact hconserved.symm

/-- A slow reader is evicted by the frame that its queue has no room for,
and still finds the one before. -/
theorem streams_conserved_of_slow_reader :
    let h := (start { outboundQueue := 1 } 0).after [.command 0 (.register 1 false)]
    let opened := (h.take 1 (.register 1 false)).2
    let later := [.command 2 (.offer 1 "a"), .reading 1, .command 3 (.offer 2 "b"), .command 4 (.offer 1 "c"),
      .command 5 (.offer 1 "d"), .command 6 (.offer 1 "e"), .reading 1]
    (h.take 1 (.register 1 false)).1 = .session (some 1) ∧ .readerGone 1 ∉ later ∧
      takenIn 1 opened later ++ (opened.after later).waiting 1 = ["a", "c"] := by
  intro h opened later
  have hopened : (h.take 1 (.register 1 false)).1 = .session (some 1) := by decide
  have hreading : Happening.readerGone 1 ∉ later := by decide
  obtain ⟨hstream, hleft⟩ := (streams_conserved { outboundQueue := 1 } 0 [.command 0 (.register 1 false)]).2.2.2
    1 1 1 later hopened
  rw [hleft hreading, List.append_nil] at hstream
  exact ⟨hopened, hreading, hstream.trans (by decide)⟩

end Parley.Hub
