/-
Rows point at the latest message of their pair.

A row is pointed anew by storing, which knows the message, and by retiring,
but only when it shows the very message that is retired. `Pointed` is what
makes this enough: a row that shows another message shows a later one, and
that one stays the latest (`Pointed.retired`). Recalling changes what is
shown of a message and not which one is shown.
-/
import Parley.Proofs.Store.Change

namespace Parley

open Time (Instant)

namespace Store

variable {s : Store}

/-- Whether a message of a conversation is not deleted. -/
def live (conversation : String) (m : Message) : Bool :=
  m.conversation == conversation && m.status != .deleted

theorem live_iff {conversation : String} {m : Message} :
    live conversation m = true ↔ m.conversation = conversation ∧ m.status ≠ .deleted := by
  simp [live]

/-- The latest message of a conversation that is not deleted. -/
def newest? (s : Store) (conversation : String) : Option Message := (s.latest conversation).head?

theorem newest?_eq_find? (s : Store) (conversation : String) :
    s.newest? conversation = s.messages.reverse.find? (live conversation) := List.head?_filter

/-- What rows of a conversation should show. -/
def last (s : Store) (conversation : String) : Option LastMessage :=
  (s.newest? conversation).map (·.asLast)

/-- Every row shows the latest message of its conversation. -/
def Pointed (s : Store) : Prop := ∀ r ∈ s.rows, r.pointAt (s.last r.conversation) = r

theorem Pointed.empty : Pointed .empty := by simp [Pointed, Store.empty]

theorem Pointed.fields (hp : s.Pointed) {r : Conversation} (hr : r ∈ s.rows) :
    r.lastId = (s.last r.conversation).map (·.id) ∧
      r.lastTime = (s.last r.conversation).map (·.time) ∧
      r.lastContent = (s.last r.conversation).map (·.content) := by
  have := hp r hr
  exact ⟨(congrArg Conversation.lastId this).symm, (congrArg Conversation.lastTime this).symm,
    (congrArg Conversation.lastContent this).symm⟩

theorem mem_of_newest? {conversation : String} {m : Message} (h : s.newest? conversation = some m) :
    m ∈ s.messages ∧ m.conversation = conversation ∧ m.status ≠ .deleted := by
  rw [newest?_eq_find?] at h
  exact ⟨List.mem_reverse.mp (List.mem_of_find?_eq_some h), live_iff.mp (List.find?_some h)⟩

theorem newest?_eq_none {conversation : String} :
    s.newest? conversation = none ↔
      ∀ m ∈ s.messages, m.conversation = conversation → m.status = .deleted := by
  simp [newest?_eq_find?, live]

theorem Sound.id_le_newest? (h : s.Sound) {conversation : String} {m : Message}
    (hm : s.newest? conversation = some m) :
    ∀ n ∈ s.messages, n.conversation = conversation → n.status ≠ .deleted → n.id ≤ m.id := by
  rw [newest?_eq_find?, List.find?_eq_some_iff_append] at hm
  obtain ⟨-, later, earlier, hsplit, hlater⟩ := hm
  have hids := List.pairwise_reverse.mpr h.ids
  rw [hsplit, List.pairwise_append, List.pairwise_cons] at hids
  intro n hn hc hd
  rw [← List.mem_reverse, hsplit, List.mem_append, List.mem_cons] at hn
  rcases hn with hn | rfl | hn
  · have := hlater n hn
    simp [live_iff.mpr ⟨hc, hd⟩] at this
  · exact Int.le_refl _
  · exact Int.le_of_lt (hids.2.1.1 n hn)

/-! ## Moving messages -/

section

variable {p : Message → Bool} {new : Status} {now : Instant} {conversation : String}

theorem newest?_moveWhere_none (hp : ∀ m ∈ s.messages, p m = true → m.status ≠ .deleted)
    (hnone : s.newest? conversation = none) :
    (s.moveWhere p new now).newest? conversation = none := by
  rw [newest?_eq_none] at hnone ⊢
  intro m' hm' hc
  obtain ⟨m, hm, rfl⟩ := mem_moveWhere.mp hm'
  rw [Message.moveIf_conversation] at hc
  have hdeleted := hnone m hm hc
  rw [Message.moveIf_of_neg (Bool.eq_false_iff.mpr fun hpm => hp m hm hpm hdeleted)]
  exact hdeleted

theorem newest?_moveWhere_some (hp : ∀ m ∈ s.messages, p m = true → m.status ≠ .deleted) {m : Message}
    (hm : s.newest? conversation = some m) (hstays : p m = true → new ≠ .deleted) :
    (s.moveWhere p new now).newest? conversation = some (m.moveIf p new now) := by
  obtain ⟨-, hc, hd⟩ := mem_of_newest? hm
  rw [newest?_eq_find?, List.find?_eq_some_iff_append] at hm ⊢
  obtain ⟨-, later, earlier, hsplit, hlater⟩ := hm
  have hmoved : (s.moveWhere p new now).messages.reverse =
      later.map (Message.moveIf p new now) ++
        m.moveIf p new now :: earlier.map (Message.moveIf p new now) := by
    rw [moveWhere, ← List.map_reverse, hsplit, List.map_append, List.map_cons]
  refine ⟨?_, _, _, hmoved, ?_⟩
  · rw [live_iff, Message.moveIf_conversation]
    refine ⟨hc, ?_⟩
    cases hpm : p m with
    | true =>
      rw [Message.moveIf_of_pos hpm]
      exact hstays hpm
    | false => rwa [Message.moveIf_of_neg hpm]
  · simp only [List.mem_map]
    rintro _ ⟨n, hn, rfl⟩
    have hmem : n ∈ s.messages := by
      rw [← List.mem_reverse, hsplit]
      exact List.mem_append_left _ hn
    have hdead := hlater n hn
    rw [Bool.not_eq_true', Bool.eq_false_iff, ne_eq, live_iff, not_and_not_right] at hdead ⊢
    rw [Message.moveIf_conversation]
    intro hnc
    have hdeleted := hdead hnc
    rw [Message.moveIf_of_neg (Bool.eq_false_iff.mpr fun hpn => hp n hmem hpn hdeleted)]
    exact hdeleted

theorem last_moveWhere (hp : ∀ m ∈ s.messages, p m = true → m.status ≠ .deleted)
    (hshown : ∀ m, s.newest? conversation = some m → p m = true →
      m.status.isUnread = true ∧ new ≠ .recalled ∧ new ≠ .deleted) :
    (s.moveWhere p new now).last conversation = s.last conversation := by
  unfold last
  cases hm : s.newest? conversation with
  | none => rw [newest?_moveWhere_none hp hm]
  | some m =>
    rw [newest?_moveWhere_some hp hm fun hpm => (hshown m hm hpm).2.2, Option.map_some, Option.map_some]
    cases hpm : p m with
    | false => rw [Message.moveIf_of_neg hpm]
    | true =>
      obtain ⟨hunread, hnew, -⟩ := hshown m hm hpm
      have hnot : m.status ≠ .recalled := fun he => by simp [he, Status.isUnread] at hunread
      rw [Message.moveIf_of_pos hpm]
      simp only [Message.asLast, Message.shownContent, Message.move, hnew, hnot, if_false]

end

/-! ## The five changes -/

theorem Pointed.mapRows (hp : s.Pointed) {f : Conversation → Conversation} (hf : KeepsOwner f)
    (hshow : ∀ r last, r.pointAt last = r → (f r).pointAt last = f r) :
    Pointed { s with rows := s.rows.map f } := by
  intro r' hr'
  obtain ⟨r, hr, rfl⟩ := List.mem_map.mp hr'
  rw [hf.conversation]
  exact hshow r _ (hp r hr)

theorem Pointed.recountUnread (hp : s.Pointed) (conversation : String) (owner peer : UserId) :
    (s.recountUnread conversation owner peer).Pointed := by
  have hunread {r : Conversation} {last : Option LastMessage} (h : r.pointAt last = r) (n : Int) :
      { r with unread := n }.pointAt last = { r with unread := n } :=
    congrArg (fun q : Conversation => { q with unread := n }) h
  refine hp.mapRows ((KeepsOwner.unread _).ite fun r => r.ownerKey == Pair.ownerKey owner peer)
    fun r last h => ?_
  simp only
  split
  · exact hunread h _
  · exact h

theorem Pointed.moveWhere (hp : s.Pointed) {p : Message → Bool} {new : Status} {now : Instant}
    (hunread : ∀ m ∈ s.messages, p m = true → m.status.isUnread = true)
    (hnew : new ≠ .recalled ∧ new ≠ .deleted) : (s.moveWhere p new now).Pointed := by
  intro r hr
  rw [last_moveWhere]
  · exact hp r hr
  · intro m hm hpm hd
    simpa [hd, Status.isUnread] using hunread m hm hpm
  · exact fun m hm hpm => ⟨hunread m (mem_of_newest? hm).1 hpm, hnew⟩

theorem Pointed.retired (h : s.Sound) (hp : s.Pointed) {m : Message} (hm : m ∈ s.messages)
    {target : Status} (hs : m.status.canBecome target = true) (now : Instant) :
    (s.retired m target now).Pointed := by
  have hlive : m.status ≠ .deleted := fun hd => by simp [hd, Status.canBecome] at hs
  have hmoved : ((s.moveWhere (·.id == m.id) target now).repointRows m.conversation m.id).Pointed := by
    intro r' hr'
    obtain ⟨r, hr, rfl⟩ := List.mem_map.mp hr'
    by_cases hpoints : (r.conversation == m.conversation && r.lastId == some m.id) = true
    · -- The row shows the message, so it was pointed anew.
      simp only [hpoints, if_true]
      rw [Bool.and_eq_true, beq_iff_eq] at hpoints
      rw [← hpoints.1]
      rfl
    · -- The row shows another message, which did not move.
      simp only [hpoints]
      change r.pointAt ((s.moveWhere (·.id == m.id) target now).last r.conversation) = r
      rw [last_moveWhere]
      · exact hp r hr
      · intro n hn hid
        rwa [h.eq_of_beq hm hn hid]
      · intro n hn hid
        obtain ⟨hmem, hc, -⟩ := mem_of_newest? hn
        refine absurd ?_ hpoints
        rw [Bool.and_eq_true, beq_iff_eq, beq_iff_eq, (hp.fields hr).1, last, hn, ← hc,
          h.eq_of_beq hm hmem hid]
        exact ⟨rfl, rfl⟩
  unfold Store.retired
  simp only
  split
  · exact hmoved.recountUnread _ _ _
  · exact hmoved

theorem newest?_append (m : Message) (conversation : String) :
    newest? { s with messages := s.messages ++ [m] } conversation =
      if live conversation m then some m else s.newest? conversation := by
  simp only [newest?_eq_find?, List.reverse_append, List.reverse_singleton, List.singleton_append,
    List.find?_cons]
  cases live conversation m <;> rfl

theorem Pointed.add (h : s.Sound) (hp : s.Pointed) (draft : Draft) (now : Instant) :
    (s.add draft now).2.Pointed := by
  have hrows := (h.withRows draft now).1
  rw [add_eq]
  intro r' hr'
  obtain ⟨r, hr, rfl⟩ := List.mem_map.mp hr'
  generalize hm : s.messageOf draft now = m at *
  have hname : m.conversation = Pair.id m.sender m.recipient := by rw [← hm]; rfl
  have hsent : m.status = .sent := by rw [← hm]; rfl
  rw [(afterStoring_keepsOwner m).conversation]
  change (afterStoring m r).pointAt ((newest? { s with messages := s.messages ++ [m] }
    r.conversation).map (·.asLast)) = _
  rw [newest?_append]
  rcases hrows.afterStoring_cases hr hname with ⟨hc, unread, hshown⟩ | ⟨hc, hother⟩
  · have hasLast : m.asLast = ⟨m.id, m.content, m.createdAt⟩ := by
      simp [Message.asLast, Message.shownContent, hsent]
    rw [if_pos (live_iff.mpr ⟨hc.symm, by simp [hsent]⟩), Option.map_some, hasLast, hshown]
    rfl
  · rw [if_neg fun hlive => hc (live_iff.mp hlive).1.symm, hother]
    exact hp r ((mem_withRows hr).resolve_right fun he => hc (by rw [he, ← hm]; rfl))

/-- **The five changes keep what the rows show.** -/
theorem Pointed.change (h : s.Sound) (hp : s.Pointed) {asked : Archive.Ask → Prop} {s' : Store}
    (change : Change asked s s') : s'.Pointed := by
  cases change with
  | none => exact hp
  | stored => exact hp.add h _ _
  | delivered hm hs =>
    refine hp.moveWhere (fun n hn hid => ?_) (by simp)
    rw [h.eq_of_beq hm hn hid, hs]
    rfl
  | retired hm hs _ => exact hp.retired h hm hs _
  | marked =>
    refine (hp.moveWhere (fun n _ hreached => ?_) (by simp)).recountUnread _ _ _
    exact (reachedBy_iff.mp hreached).2.2.1

/-! ## Runs -/

/-- The message of a conversation with the greatest id of those that are
not deleted. -/
def IsNewest (s : Store) (conversation : String) (m : Message) : Prop :=
  m ∈ s.messages ∧ m.conversation = conversation ∧ m.status ≠ .deleted ∧
    ∀ n ∈ s.messages, n.conversation = conversation → n.status ≠ .deleted → n.id ≤ m.id

theorem Sound.isNewest (h : s.Sound) {conversation : String} {m : Message}
    (hm : s.newest? conversation = some m) : s.IsNewest conversation m := by
  obtain ⟨hmem, hc, hd⟩ := mem_of_newest? hm
  exact ⟨hmem, hc, hd, h.id_le_newest? hm⟩

end Store

namespace System

variable {settings : MessageSettings} {calls : List Call} {server : Server Backend.memory}
  {t : List Event} {s : System}

/-- **Rows show the last message of their pair.** However the calls take
turns, a row points at the message of its conversation with the greatest id
of those that are not deleted, or at none if all are. The two rows of a
pair show the same. -/
theorem last_messages_exact (fresh : server.store = .empty)
    (run : Run Server.StoreKept (System.start settings calls server) t s) :
    (∀ r ∈ s.store.rows,
      (∃ m, s.store.IsNewest r.conversation m ∧ r.lastId = some m.id ∧
        r.lastTime = some m.createdAt ∧
        r.lastContent = some (if m.status = .recalled then Message.recalledContent else m.content)) ∨
      ((∀ m ∈ s.store.messages, m.conversation = r.conversation → m.status = .deleted) ∧
        r.lastId = none ∧ r.lastTime = none ∧ r.lastContent = none)) ∧
    (∀ r ∈ s.store.rows, ∀ r' ∈ s.store.rows, r'.owner = r.peer → r'.peer = r.owner →
      r'.lastId = r.lastId ∧ r'.lastTime = r.lastTime ∧ r'.lastContent = r.lastContent) := by
  have hsound := run.sound fresh
  have hpointed : s.store.Pointed :=
    run.invariant fresh .empty fun s s' hs hp change => hp.change hs change
  constructor
  · intro r hr
    obtain ⟨hid, htime, hcontent⟩ := hpointed.fields hr
    rw [hid, htime, hcontent, Store.last]
    cases hm : s.store.newest? r.conversation with
    | none => exact .inr ⟨Store.newest?_eq_none.mp hm, rfl, rfl, rfl⟩
    | some m => exact .inl ⟨m, hsound.isNewest hm, rfl, rfl, rfl⟩
  · intro r hr r' hr' ho hpeer
    have hc : r'.conversation = r.conversation := by
      rw [(hsound.owned r hr).2, (hsound.owned r' hr').2, ho, hpeer, Pair.id_comm]
    obtain ⟨hid, htime, hcontent⟩ := hpointed.fields hr
    obtain ⟨hid', htime', hcontent'⟩ := hpointed.fields hr'
    rw [hid, htime, hcontent, hid', htime', hcontent', hc]
    exact ⟨rfl, rfl, rfl⟩

/-- A message that was recalled while the one after it was being deleted is
shown in its place. -/
theorem last_messages_of_recall_during_deletion : ∃ t s,
    Run Server.StoreKept
      (System.start {} [.send ⟨1, 2, 1, "one", none⟩, .send ⟨2, 1, 1, "two", none⟩, .recallMessage 1 1,
        .deleteMessage 1 2] (Server.fresh [2])) t s ∧
    s.store.rows.map (·.lastContent) =
      [some Message.recalledContent, some Message.recalledContent] ∧
    ∀ r ∈ s.store.rows, ∃ m, s.store.IsNewest r.conversation m ∧ r.lastId = some m.id := by
  obtain ⟨t, run⟩ := Run.play .nil [0, 0, 1, 1, 3, 2, 2, 2, 3, 2, 3, 0, 0]
  refine ⟨t, _, run, (and_iff_left_of_imp fun shown r hr => ?_).mpr (by decide +kernel)⟩
  rcases (last_messages_exact rfl run).1 r hr with ⟨m, hm, hid, -⟩ | ⟨-, -, -, hnone⟩
  · exact ⟨m, hm, hid⟩
  · have hmem := List.mem_map_of_mem (f := Conversation.lastContent) hr
    rw [shown, hnone] at hmem
    simp at hmem

end System
end Parley
