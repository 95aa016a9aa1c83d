/-
The two indexes of the hub.

The sessions and the users who have one are two indexes of the same thing
(`Indexed`). What opens or ends a session changes both, and each effect is
told by what is found behind it: opening adds one session, ending takes one
away, and offering a frame puts it into the queues of those of the user's
sessions that accept it and ends the others.
-/
import Mathlib.Data.List.Nodup
import Parley.Proofs.Queues

namespace Parley.Hub

/-! ## Association lists -/

section

variable {α β : Type} [BEq α] [LawfulBEq α] {l : List (α × β)} {k i : α} {v w : β}

theorem mem_of_lookup (h : l.lookup k = some v) : (k, v) ∈ l := by
  obtain ⟨front, behind, rfl, -⟩ := List.lookup_eq_some_iff.mp h
  exact List.mem_append_right _ List.mem_cons_self

omit [BEq α] [LawfulBEq α] in
theorem key_mem (h : (k, v) ∈ l) : k ∈ l.map (·.1) := List.mem_map.mpr ⟨_, h, rfl⟩

theorem lookup_cons_of_ne (h : k ≠ i) : ((i, w) :: l).lookup k = l.lookup k := by
  rw [List.lookup_cons, beq_false_of_ne h]

theorem lookup_eq_none (h : k ∉ l.map (·.1)) : l.lookup k = none := by
  refine List.lookup_eq_none_iff.mpr fun p hp => ?_
  simpa using fun he : k = p.1 => h (he ▸ key_mem hp)

theorem notMem_of_lookup (h : l.lookup k = none) : k ∉ l.map (·.1) := by
  intro hmem
  obtain ⟨p, hp, rfl⟩ := List.mem_map.mp hmem
  simpa using List.lookup_eq_none_iff.mp h p hp

theorem lookup_of_mem (distinct : (l.map (·.1)).Nodup) (h : (k, v) ∈ l) : l.lookup k = some v := by
  induction l with
  | nil => cases h
  | cons p l ih =>
    obtain ⟨i, w⟩ := p
    obtain ⟨hi, hl⟩ := List.nodup_cons.mp distinct
    rcases List.mem_cons.mp h with he | hmem
    · cases he
      exact List.lookup_cons_self
    · have hne : k ≠ i := fun he => hi (he ▸ key_mem hmem)
      rw [lookup_cons_of_ne hne]
      exact ih hl hmem

end

theorem lookup_remove {β : Type} (l : List (SessionId × β)) (id i : SessionId) :
    (l.filter fun p => p.1 ≠ id).lookup i = if i = id then none else l.lookup i := by
  induction l with
  | nil => simp
  | cons p l ih =>
    obtain ⟨j, v⟩ := p
    by_cases hj : j = id
    · subst hj
      rw [List.filter_cons_of_neg (by simp), ih]
      split
      · rfl
      · next hi => rw [lookup_cons_of_ne hi]
    · rw [List.filter_cons_of_pos (by simpa using hj)]
      by_cases hi : i = j
      · subst hi
        rw [List.lookup_cons_self, List.lookup_cons_self, if_neg hj]
      · rw [lookup_cons_of_ne hi, lookup_cons_of_ne hi, ih]

/-! ## The sessions of each user -/

section

variable {l : List (UserId × List SessionId)} {u v : UserId} {id : SessionId}

theorem lookup_addUser : (addUser u id l).lookup v =
    if v = u then some ((l.lookup u).getD [] ++ [id]) else l.lookup v := by
  induction l with
  | nil =>
    by_cases hv : v = u
    · subst hv
      simp [addUser]
    · rw [addUser, lookup_cons_of_ne hv, if_neg hv]
  | cons p l ih =>
    obtain ⟨w, ids⟩ := p
    unfold addUser
    by_cases hw : w = u
    · subst hw
      rw [if_pos rfl]
      by_cases hv : v = w
      · subst hv
        simp
      · rw [lookup_cons_of_ne hv, lookup_cons_of_ne hv, if_neg hv]
    · rw [if_neg hw, lookup_cons_of_ne (Ne.symm hw)]
      by_cases hv : v = w
      · subst hv
        rw [List.lookup_cons_self, List.lookup_cons_self, if_neg hw]
      · rw [lookup_cons_of_ne hv, lookup_cons_of_ne hv, ih]

theorem mem_keys_addUser (h : v ∈ (addUser u id l).map (·.1)) : v = u ∨ v ∈ l.map (·.1) := by
  induction l with
  | nil => simpa [addUser] using h
  | cons p l ih =>
    obtain ⟨w, ids⟩ := p
    unfold addUser at h
    split at h
    · exact .inr h
    · rcases List.mem_cons.mp h with he | h
      · exact .inr (he ▸ List.mem_cons_self)
      · exact (ih h).imp_right (List.mem_cons_of_mem _)

theorem nodup_addUser (h : (l.map (·.1)).Nodup) : ((addUser u id l).map (·.1)).Nodup := by
  induction l with
  | nil => simp [addUser]
  | cons p l ih =>
    obtain ⟨w, ids⟩ := p
    obtain ⟨hw, hl⟩ := List.nodup_cons.mp h
    unfold addUser
    split
    · exact h
    · next hne =>
      refine List.nodup_cons.mpr ⟨fun hmem => ?_, ih hl⟩
      exact (mem_keys_addUser hmem).elim hne hw

theorem keys_removeUser : ((removeUser u id l).map (·.1)).Sublist (l.map (·.1)) := by
  induction l with
  | nil => exact .slnil
  | cons p l ih =>
    obtain ⟨w, ids⟩ := p
    unfold removeUser
    split
    · simp only
      split
      · exact List.sublist_cons_self _ _
      · exact List.Sublist.refl _
    · exact ih.cons_cons w

theorem lookup_removeUser (distinct : (l.map (·.1)).Nodup) : (removeUser u id l).lookup v =
    if v = u then ((l.lookup u).map fun ids => ids.filter (· ≠ id)).filter (!·.isEmpty)
    else l.lookup v := by
  induction l with
  | nil => simp [removeUser]
  | cons p l ih =>
    obtain ⟨w, ids⟩ := p
    obtain ⟨hw, hl⟩ := List.nodup_cons.mp distinct
    unfold removeUser
    by_cases hwu : w = u
    · subst hwu
      rw [if_pos rfl, List.lookup_cons_self, Option.map_some, Option.filter_some]
      by_cases hv : v = w
      · subst hv
        rw [if_pos rfl]
        cases hempty : (ids.filter (· ≠ id)).isEmpty with
        | true =>
          simp only [hempty, if_true, Bool.not_true, Bool.false_eq_true, if_false]
          exact lookup_eq_none hw
        | false => simp only [hempty, Bool.false_eq_true, if_false, List.lookup_cons_self, Bool.not_false, if_true]
      · rw [if_neg hv, lookup_cons_of_ne hv]
        simp only
        split
        · rfl
        · exact lookup_cons_of_ne hv
    · rw [if_neg hwu, lookup_cons_of_ne (Ne.symm hwu)]
      by_cases hv : v = w
      · subst hv
        rw [List.lookup_cons_self, List.lookup_cons_self, if_neg hwu]
      · rw [lookup_cons_of_ne hv, lookup_cons_of_ne hv, ih hl]

theorem removeUser_addUser (h : ∀ ids, l.lookup u = some ids → id ∉ ids ∧ ids ≠ []) :
    removeUser u id (addUser u id l) = l := by
  induction l with
  | nil => simp [addUser, removeUser]
  | cons p l ih =>
    obtain ⟨w, ids⟩ := p
    unfold addUser
    by_cases hw : w = u
    · subst hw
      obtain ⟨hid, hne⟩ := h ids List.lookup_cons_self
      have hkept : (ids ++ [id]).filter (· ≠ id) = ids := by
        rw [List.filter_append, List.filter_eq_self.mpr]
        · simp
        · intro i hi
          simpa using fun he : i = id => hid (he ▸ hi)
      rw [if_pos rfl, removeUser, if_pos rfl]
      simp only [hkept, List.isEmpty_iff, hne, if_false]
    · rw [if_neg hw, removeUser, if_neg hw, ih fun ids hids => h ids ?_]
      rw [lookup_cons_of_ne (Ne.symm hw)]
      exact hids

theorem removeUser_of_notMem (h : u ∉ l.map (·.1)) : removeUser u id l = l := by
  induction l with
  | nil => rfl
  | cons p l ih =>
    rw [List.map_cons, List.mem_cons, not_or] at h
    rw [removeUser, if_neg (Ne.symm h.1), ih h.2]

theorem removeUser_self {ids : List SessionId} : removeUser u id ((u, ids) :: l) =
    if (ids.filter (· ≠ id)).isEmpty then l else (u, ids.filter (· ≠ id)) :: l := by
  rw [removeUser, if_pos rfl]

theorem removeUser_of_ne {ids : List SessionId} (h : v ≠ u) :
    removeUser u id ((v, ids) :: l) = (v, ids) :: removeUser u id l := by
  rw [removeUser, if_neg h]

theorem removeUser_twice {ids : List SessionId} (hu : u ∉ l.map (·.1)) (a b : SessionId) :
    removeUser u a (removeUser u b ((u, ids) :: l)) =
      if ((ids.filter (· ≠ b)).filter (· ≠ a)).isEmpty then l
      else (u, (ids.filter (· ≠ b)).filter (· ≠ a)) :: l := by
  rw [removeUser_self]
  split
  · next hb =>
    rw [removeUser_of_notMem hu, List.isEmpty_iff.mp hb]
    rfl
  · exact removeUser_self

theorem removeUser_ite {ids : List SessionId} (h : v ≠ u) (a b : SessionId) :
    removeUser v a (removeUser u b ((u, ids) :: l)) = removeUser u b (removeUser v a ((u, ids) :: l)) := by
  rw [removeUser_of_ne (Ne.symm h), removeUser_self, removeUser_self]
  split
  · rfl
  · exact removeUser_of_ne (Ne.symm h)

theorem removeUser_comm (distinct : (l.map (·.1)).Nodup) (a b : SessionId) :
    removeUser u a (removeUser v b l) = removeUser v b (removeUser u a l) := by
  induction l with
  | nil => rfl
  | cons p l ih =>
    obtain ⟨w, ids⟩ := p
    obtain ⟨hw, hl⟩ := List.nodup_cons.mp distinct
    by_cases hu : w = u <;> by_cases hv : w = v
    · subst hu hv
      simp only [removeUser_twice hw, List.filter_filter, Bool.and_comm]
    · subst hu
      exact (removeUser_ite (Ne.symm hv) b a).symm
    · subst hv
      exact removeUser_ite (Ne.symm hu) a b
    · rw [removeUser_of_ne hv, removeUser_of_ne hu, removeUser_of_ne hu, removeUser_of_ne hv, ih hl]

end

/-! ## Opening, ending and touching -/

section

variable {h : Hub} {user v : UserId} {now : Tick} {id i : SessionId} {frame : String}

/-- The sessions and the users who have one are two indexes of the same thing. -/
structure Indexed (h : Hub) : Prop where
  ids : (h.sessions.map (·.1)).Nodup
  users : (h.users.map (·.1)).Nodup
  index : ∀ id u, id ∈ h.sessionsOf u ↔ ∃ s, h.session? id = some s ∧ s.user = u
  distinct : ∀ u, (h.sessionsOf u).Nodup
  listed : ∀ u, h.users.lookup u ≠ some []

theorem Indexed.of_eq {h' : Hub} (hi : Indexed h) (hs : h'.sessions = h.sessions) (hu : h'.users = h.users) :
    Indexed h' where
  ids := hs ▸ hi.ids
  users := hu ▸ hi.users
  index id u := by simpa only [session?, sessionsOf, hs, hu] using hi.index id u
  distinct u := by simpa only [sessionsOf, hu] using hi.distinct u
  listed u := hu ▸ hi.listed u

theorem session?_register (hnew : h.session? h.nextId = none) :
    (h.register user now).2.session? i = if i = h.nextId then some ⟨user, now⟩ else h.session? i := by
  simp only [session?, register, List.lookup_append]
  split
  · next he =>
    subst he
    rw [← session?, hnew, Option.none_or, List.lookup_cons_self]
  · next hne => rw [lookup_cons_of_ne hne, List.lookup_nil, Option.or_none]

theorem sessionsOf_register : (h.register user now).2.sessionsOf v =
    if v = user then h.sessionsOf user ++ [h.nextId] else h.sessionsOf v := by
  simp only [sessionsOf, register, lookup_addUser]
  split <;> rfl

theorem queue?_register (hnew : h.queue? h.nextId = none) :
    (h.register user now).2.queue? i = if i = h.nextId then some {} else h.queue? i := by
  simp only [queue?, register, List.lookup_append]
  split
  · next he =>
    subst he
    rw [← queue?, hnew, Option.none_or, List.lookup_cons_self]
  · next hne => rw [lookup_cons_of_ne hne, List.lookup_nil, Option.or_none]

theorem Indexed.register (hi : Indexed h) (hnew : h.session? h.nextId = none) :
    Indexed (h.register user now).2 where
  ids := by
    have hid : h.nextId ∉ h.sessions.map (·.1) := notMem_of_lookup hnew
    simpa [Hub.register, List.nodup_append] using
      ⟨hi.ids, fun id s hmem he => hid (he ▸ key_mem hmem)⟩
  users := nodup_addUser hi.users
  index id u := by
    have hnot : ∀ v, h.nextId ∉ h.sessionsOf v := fun v hmem => by
      obtain ⟨s, hs, -⟩ := (hi.index _ v).mp hmem
      simp [hnew] at hs
    rw [sessionsOf_register, session?_register hnew]
    by_cases hid : id = h.nextId
    · subst hid
      by_cases hu : u = user
      · simp [hu]
      · simpa [hu, hnot u] using Ne.symm hu
    · rw [if_neg hid, ← hi.index]
      by_cases hu : u = user
      · simp [hu, hid]
      · rw [if_neg hu]
  distinct u := by
    rw [sessionsOf_register]
    split
    · refine List.nodup_append.mpr ⟨hi.distinct user, List.nodup_singleton _, ?_⟩
      rintro id hmem _ hnext rfl
      obtain ⟨s, hs, -⟩ := (hi.index _ user).mp hmem
      rw [List.mem_singleton.mp hnext, hnew] at hs
      cases hs
    · exact hi.distinct u
  listed u := by
    simp only [Hub.register, lookup_addUser]
    split
    · simp
    · exact hi.listed u

theorem unregister_of_none (hs : h.session? id = none) : h.unregister id = h := by
  simp only [unregister, hs]

theorem unregister_of_some {s : Session} (hs : h.session? id = some s) : h.unregister id =
    { h with sessions := h.sessions.filter fun p => p.1 ≠ id, users := removeUser s.user id h.users } := by
  simp only [unregister, hs]

theorem session?_unregister : (h.unregister id).session? i = if i = id then none else h.session? i := by
  unfold unregister
  split
  · next hnone =>
    split
    · next he => rw [he, hnone]
    · rfl
  · exact lookup_remove _ _ _

theorem Indexed.sessionsOf_unregister (hi : Indexed h) :
    (h.unregister id).sessionsOf v = (h.sessionsOf v).filter (· ≠ id) := by
  have hother : (∀ s, h.session? id = some s → v ≠ s.user) →
      (h.sessionsOf v).filter (· ≠ id) = h.sessionsOf v := by
    refine fun hv => List.filter_eq_self.mpr fun i hmem => ?_
    obtain ⟨s, hs, hu⟩ := (hi.index i v).mp hmem
    simpa using fun he : i = id => hv s (he ▸ hs) hu.symm
  cases hs : h.session? id with
  | none =>
    rw [unregister_of_none hs, hother]
    simp [hs]
  | some s =>
    rw [unregister_of_some hs, sessionsOf, lookup_removeUser hi.users]
    by_cases hv : v = s.user
    · subst hv
      rw [if_pos rfl, sessionsOf]
      cases h.users.lookup s.user with
      | none => rfl
      | some ids =>
        rw [Option.map_some, Option.filter_some]
        split
        · rfl
        · next hempty => simpa using (by simpa using hempty : _)
    · rw [if_neg hv, ← sessionsOf]
      refine (hother fun s' hs' => ?_).symm
      cases hs.symm.trans hs'
      exact hv

theorem Indexed.unregister (hi : Indexed h) : Indexed (h.unregister id) where
  ids := by
    unfold Hub.unregister
    split
    · exact hi.ids
    · exact (List.filter_sublist.map _).nodup hi.ids
  users := by
    unfold Hub.unregister
    split
    · exact hi.users
    · exact keys_removeUser.nodup hi.users
  index i u := by
    rw [hi.sessionsOf_unregister, session?_unregister, List.mem_filter, hi.index]
    by_cases he : i = id <;> simp [he]
  distinct u := by
    rw [hi.sessionsOf_unregister]
    exact (hi.distinct u).filter _
  listed u := by
    unfold Hub.unregister
    split
    · exact hi.listed u
    · simp only [lookup_removeUser hi.users]
      split
      · exact fun hnil => by simpa using (Option.filter_eq_some_iff.mp hnil).2
      · exact hi.listed u

theorem session?_unregisterAll (ids : List SessionId) :
    (ids.foldl unregister h).session? i = if i ∈ ids then none else h.session? i := by
  induction ids generalizing h with
  | nil => rfl
  | cons id ids ih =>
    rw [List.foldl_cons, ih, session?_unregister]
    by_cases he : i = id <;> simp [he]

theorem Indexed.unregisterAll (hi : Indexed h) (ids : List SessionId) : Indexed (ids.foldl Hub.unregister h) := by
  induction ids generalizing h with
  | nil => exact hi
  | cons id ids ih => exact ih hi.unregister

theorem session?_touch : (h.touch id now).session? i =
    (h.session? i).map fun s => if i = id then { s with lastSeen := now } else s :=
  lookup_update (fun s : Session => { s with lastSeen := now }) h.sessions

theorem Indexed.touch (hi : Indexed h) : Indexed (h.touch id now) where
  ids := by
    have hkeys : (h.touch id now).sessions.map (·.1) = h.sessions.map (·.1) := by
      simp only [Hub.touch, List.map_map]
      refine List.map_congr_left fun p _ => ?_
      simp only [Function.comp_apply]
      split <;> rfl
    rw [hkeys]
    exact hi.ids
  users := hi.users
  index i u := by
    rw [session?_touch]
    refine (hi.index i u).trans ⟨?_, ?_⟩
    · rintro ⟨s, hs, hu⟩
      refine ⟨_, by rw [hs, Option.map_some], ?_⟩
      split <;> exact hu
    · rintro ⟨s', hs', hu⟩
      obtain ⟨s, hs, rfl⟩ := Option.map_eq_some_iff.mp hs'
      refine ⟨s, hs, ?_⟩
      split at hu <;> exact hu
  distinct := hi.distinct
  listed := hi.listed

theorem Indexed.unregister_register (hi : Indexed h) (hnew : h.session? h.nextId = none) :
    ((h.register user now).2.unregister h.nextId).sessions = h.sessions ∧
      ((h.register user now).2.unregister h.nextId).users = h.users := by
  have hs : (h.register user now).2.session? h.nextId = some ⟨user, now⟩ := by
    rw [session?_register hnew, if_pos rfl]
  have hid : h.nextId ∉ h.sessions.map (·.1) := notMem_of_lookup hnew
  rw [unregister_of_some hs]
  refine ⟨?_, removeUser_addUser fun ids hids => ⟨fun hmem => ?_, ?_⟩⟩
  · simp only [Hub.register]
    rw [List.filter_append, List.filter_eq_self.mpr]
    · simp
    · rintro ⟨i, s⟩ hmem
      simpa using fun he : i = h.nextId => hid (he ▸ key_mem hmem)
  · obtain ⟨s, hs, -⟩ := (hi.index h.nextId user).mp (by rw [sessionsOf, hids]; exact hmem)
    simp [hnew] at hs
  · rintro rfl
    exact hi.listed user hids

/-! ## Offering -/

theorem queue?_putAll {ids : List SessionId} (distinct : ids.Nodup) : (ids.foldl (put frame) h).queue? i =
    (h.queue? i).map fun q => if i ∈ ids then { q with waiting := q.waiting ++ [frame] } else q := by
  induction ids generalizing h with
  | nil => simp
  | cons id ids ih =>
    obtain ⟨hid, hids⟩ := List.nodup_cons.mp distinct
    rw [List.foldl_cons, ih hids, put, queue?_updateQueue, Option.map_map]
    refine congrArg (Option.map · _) (funext fun q => ?_)
    by_cases he : i = id
    · subst he
      simp [hid]
    · simp [he]

/-- What offering, ending and reading leave alone. -/
def core (h : Hub) : HubSettings × SessionId × Bool := (h.settings, h.nextId, h.running)

theorem core_putAll (ids : List SessionId) : (ids.foldl (put frame) h).core = h.core := by
  induction ids generalizing h with
  | nil => rfl
  | cons id ids ih => exact ih

theorem indexes_putAll (ids : List SessionId) : (ids.foldl (put frame) h).sessions = h.sessions ∧
    (ids.foldl (put frame) h).users = h.users := by
  induction ids generalizing h with
  | nil => exact ⟨rfl, rfl⟩
  | cons id ids ih => exact ih

@[simp] theorem core_unregister : (h.unregister id).core = h.core := by
  unfold unregister
  split <;> rfl

theorem core_unregisterAll (ids : List SessionId) : (ids.foldl unregister h).core = h.core := by
  induction ids generalizing h with
  | nil => rfl
  | cons id ids ih => rw [List.foldl_cons, ih, core_unregister]

theorem core_offer : (h.offer user frame).2.core = h.core :=
  (core_unregisterAll _).trans (core_putAll _)

/-- **Offering puts the frame into the queues of the user's sessions that
accept it, and into no other.** -/
theorem Indexed.queue?_offer (hi : Indexed h) : (h.offer user frame).2.queue? i = (h.queue? i).map fun q =>
    if i ∈ h.sessionsOf user ∧ h.accepts i then { q with waiting := q.waiting ++ [frame] } else q := by
  have hqueues := queues_unregisterAll (h := ((h.sessionsOf user).filter h.accepts).foldl (put frame) h)
    ((h.sessionsOf user).filter fun id => !h.accepts id)
  have hput : (((h.sessionsOf user).filter h.accepts).foldl (put frame) h).queue? i = _ :=
    queue?_putAll ((hi.distinct user).filter h.accepts)
  simp only [List.mem_filter] at hput
  rw [← hput, queue?, queue?, ← hqueues]
  rfl

theorem session?_offer : (h.offer user frame).2.session? i =
    if i ∈ h.sessionsOf user ∧ ¬h.accepts i then none else h.session? i := by
  have hended := session?_unregisterAll (h := ((h.sessionsOf user).filter h.accepts).foldl (put frame) h)
    (i := i) ((h.sessionsOf user).filter fun id => !h.accepts id)
  simp only [List.mem_filter, Bool.not_eq_true', Bool.not_eq_true] at hended ⊢
  refine hended.trans ?_
  rw [session?, (indexes_putAll _).1, ← session?]

theorem Indexed.offer (hi : Indexed h) : Indexed (h.offer user frame).2 :=
  (hi.of_eq (indexes_putAll _).1 (indexes_putAll _).2).unregisterAll _

theorem offer_taken : (h.offer user frame).1 = true ↔ ∃ id ∈ h.sessionsOf user, h.accepts id := by
  simp [Hub.offer, List.filter_eq_nil_iff]

end

end Parley.Hub
