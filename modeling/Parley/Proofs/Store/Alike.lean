/-
Archives that differ only in what retired messages said.

`Store.Alike` relates two archives whose messages agree in everything but
the content and the extra of those that are recalled or deleted. Alike
archives answer alike (`Alike.answer`): what leaves the archive agrees
but for messages, and these agree as their participants may see them.
-/
import Mathlib.Data.List.Forall2
import Parley.Proofs.Store.Change

namespace Parley

open Time (Instant)

/-! ## Messages -/

/-- Whether a message is recalled or deleted. -/
def Message.IsRetired (m : Message) : Prop := m.status = .recalled ∨ m.status = .deleted

/-- The same message, but for the content and the extra if it is retired. -/
def Message.Alike (m m' : Message) : Prop :=
  m' = m ∨ m.IsRetired ∧ m' = { m with content := m'.content, extra := m'.extra }

namespace Message.Alike

variable {m m' : Message}

theorem refl (m : Message) : m.Alike m := .inl rfl

theorem eq_with (h : m.Alike m') : m' = { m with content := m'.content, extra := m'.extra } := by
  rcases h with rfl | ⟨-, h⟩
  · rfl
  · exact h

theorem id (h : m.Alike m') : m'.id = m.id := by rw [h.eq_with]

theorem sender (h : m.Alike m') : m'.sender = m.sender := by rw [h.eq_with]

theorem recipient (h : m.Alike m') : m'.recipient = m.recipient := by rw [h.eq_with]

theorem conversation (h : m.Alike m') : m'.conversation = m.conversation := by rw [h.eq_with]

theorem status (h : m.Alike m') : m'.status = m.status := by rw [h.eq_with]

theorem createdAt (h : m.Alike m') : m'.createdAt = m.createdAt := by rw [h.eq_with]

theorem eq_of_unread (h : m.Alike m') (hs : m.status.isUnread = true) : m' = m := by
  rcases h with h | ⟨hr | hr, -⟩
  · exact h
  · simp [hr, Status.isUnread] at hs
  · simp [hr, Status.isUnread] at hs

theorem masked (h : m.Alike m') (hd : m.status ≠ .deleted) : m'.masked = m.masked := by
  rcases h with rfl | ⟨hr, h⟩
  · rfl
  · have hs := hr.resolve_right hd
    rw [h]
    simp [Message.masked, hs]

theorem asLast (h : m.Alike m') (hd : m.status ≠ .deleted) : m'.asLast = m.asLast := by
  rcases h with rfl | ⟨hr, h⟩
  · rfl
  · have hs := hr.resolve_right hd
    rw [h]
    simp [Message.asLast, Message.shownContent, hs]

theorem retire (h : m.Alike m') {target : Status} (ht : target = .recalled ∨ target = .deleted)
    (now : Instant) : (m.move target now).Alike (m'.move target now) := by
  refine .inr ⟨ht, ?_⟩
  rw [h.eq_with]
  rfl

end Message.Alike

namespace Store

variable {s s' : Store}

/-- The same archive, but for what its retired messages said. -/
structure Alike (s s' : Store) : Prop where
  messages : List.Forall₂ Message.Alike s.messages s'.messages
  rows : s'.rows = s.rows
  counters : s'.counters = s.counters
  lastMessage : s'.lastMessage = s.lastMessage
  lastRow : s'.lastRow = s.lastRow

/-! ## Reading -/

theorem forall₂_filter {p : Message → Bool} (hp : ∀ m m', m.Alike m' → p m' = p m)
    {l l' : List Message} (h : List.Forall₂ Message.Alike l l') :
    List.Forall₂ Message.Alike (l.filter p) (l'.filter p) :=
  List.rel_filter (fun m m' hm => Bool.eq_iff_iff.mp (hp m m' hm).symm) h

theorem map_eq_of_forall₂ {β : Type} {f : Message → β} {l l' : List Message}
    (h : List.Forall₂ Message.Alike l l') (hf : ∀ m ∈ l, ∀ m', m.Alike m' → f m' = f m) :
    l'.map f = l.map f := by
  induction h with
  | nil => rfl
  | @cons m m' l l' hm _ ih =>
    rw [List.map_cons, List.map_cons, hf m List.mem_cons_self m' hm,
      ih fun n hn => hf n (List.mem_cons_of_mem _ hn)]

theorem find?_alike {id : Int} {l l' : List Message} (h : List.Forall₂ Message.Alike l l') :
    Option.Rel Message.Alike (l.find? fun m => m.id == id) (l'.find? fun m => m.id == id) := by
  induction h with
  | nil => exact .none
  | @cons m m' _ _ hm _ ih =>
    rw [List.find?_cons, List.find?_cons, hm.id]
    cases m.id == id with
    | true => exact .some hm
    | false => exact ih

theorem Alike.message? (h : s.Alike s') (id : Int) :
    (s.message? id = none ∧ s'.message? id = none) ∨
      ∃ m m', s.message? id = some m ∧ s'.message? id = some m' ∧ m.Alike m' := by
  have hfound : Option.Rel Message.Alike (s.message? id) (s'.message? id) := find?_alike h.messages
  cases hm : s.message? id with
  | none =>
    cases hm' : s'.message? id with
    | none => exact .inl ⟨rfl, rfl⟩
    | some m' => rw [hm, hm'] at hfound; cases hfound
  | some m =>
    cases hm' : s'.message? id with
    | none => rw [hm, hm'] at hfound; cases hfound
    | some m' =>
      rw [hm, hm'] at hfound
      cases hfound with
      | some hmm => exact .inr ⟨m, m', rfl, rfl, hmm⟩

theorem Alike.latest (h : s.Alike s') (conversation : String) :
    List.Forall₂ Message.Alike (s.latest conversation) (s'.latest conversation) :=
  forall₂_filter (fun m m' hm => by rw [hm.conversation, hm.status])
    (List.forall₂_reverse_iff.mpr h.messages)

theorem not_deleted_of_mem_latest {conversation : String} {m : Message}
    (hm : m ∈ s.latest conversation) : m.status ≠ .deleted := by
  have := (List.mem_filter.mp hm).2
  simp only [Bool.and_eq_true, bne_iff_ne] at this
  exact this.2

theorem Alike.last_eq (h : s.Alike s') (conversation : String) :
    (s'.latest conversation).head?.map (·.asLast) = (s.latest conversation).head?.map (·.asLast) := by
  rw [← List.head?_map, ← List.head?_map]
  congr 1
  exact map_eq_of_forall₂ (h.latest conversation) fun m hm m' hmm =>
    hmm.asLast (not_deleted_of_mem_latest hm)

theorem Alike.history_eq (h : s.Alike s') (conversation : String) (before : Option Int) (limit : Int) :
    (s'.history conversation before limit).map Message.masked =
      (s.history conversation before limit).map Message.masked := by
  refine map_eq_of_forall₂ (List.forall₂_take _ (forall₂_filter (fun m m' hm => by rw [hm.id])
    (h.latest conversation))) fun m hm m' hmm => hmm.masked ?_
  exact not_deleted_of_mem_latest (List.mem_filter.mp (List.mem_of_mem_take hm)).1

theorem Alike.length_filter (h : s.Alike s') {p : Message → Bool}
    (hp : ∀ m m', m.Alike m' → p m' = p m) :
    (s'.messages.filter p).length = (s.messages.filter p).length :=
  (forall₂_filter hp h.messages).length_eq.symm

theorem reachedBy_alike {reader : UserId} {conversation : String} {upTo : Option Int} {m m' : Message}
    (h : m.Alike m') : reachedBy reader conversation upTo m' = reachedBy reader conversation upTo m := by
  unfold reachedBy
  rw [h.conversation, h.recipient, h.status, h.id]

/-! ## Changing -/

theorem Alike.mapMessages (h : s.Alike s') {f g : Message → Message}
    (hf : ∀ m ∈ s.messages, ∀ m', m.Alike m' → (f m).Alike (g m')) :
    Alike { s with messages := s.messages.map f } { s' with messages := s'.messages.map g } where
  messages := by
    rw [List.forall₂_map_left_iff, List.forall₂_map_right_iff]
    refine ((List.forall₂_and_left _ _).mpr ⟨fun m hm => hm, h.messages⟩).imp fun m m' hm => ?_
    exact hf m hm.1 m' hm.2
  rows := h.rows
  counters := h.counters
  lastMessage := h.lastMessage
  lastRow := h.lastRow

theorem Alike.mapRows (h : s.Alike s') {f f' : Conversation → Conversation} (hf : f' = f) :
    Alike { s with rows := s.rows.map f } { s' with rows := s'.rows.map f' } :=
  ⟨h.messages, by simp only [h.rows, hf], h.counters, h.lastMessage, h.lastRow⟩

theorem Alike.repointRows (h : s.Alike s') {conversation conversation' : String}
    (hc : conversation' = conversation) (id : Int) :
    (s.repointRows conversation id).Alike (s'.repointRows conversation' id) :=
  h.mapRows (by rw [hc, h.last_eq])

theorem Alike.recountUnread (h : s.Alike s') {conversation conversation' : String}
    {owner owner' peer peer' : UserId} (hc : conversation' = conversation) (ho : owner' = owner)
    (hp : peer' = peer) :
    (s.recountUnread conversation owner peer).Alike
      (s'.recountUnread conversation' owner' peer') := by
  subst hc ho hp
  refine h.mapRows ?_
  rw [unreadOf, unreadOf, h.length_filter fun m m' hm => by rw [hm.conversation, hm.recipient, hm.status]]

theorem Alike.ensureRow (h : s.Alike s') (owner peer : UserId) (conversation : String) (now : Instant) :
    (s.ensureRow owner peer conversation now).Alike (s'.ensureRow owner peer conversation now) := by
  have hrow : s'.row? (Pair.ownerKey owner peer) = s.row? (Pair.ownerKey owner peer) := by
    rw [row?, h.rows, row?]
  unfold Store.ensureRow
  simp only [hrow]
  cases s.row? (Pair.ownerKey owner peer) with
  | some r => exact h
  | none =>
    exact ⟨h.messages, by simp only [h.rows, h.lastRow], h.counters, h.lastMessage,
      by simp only [h.lastRow]⟩

theorem Alike.add (h : s.Alike s') (draft : Draft) (now : Instant) :
    (s'.add draft now).1 = (s.add draft now).1 ∧ (s.add draft now).2.Alike (s'.add draft now).2 := by
  have hm : s'.messageOf draft now = s.messageOf draft now := by
    simp only [messageOf, counter, h.lastMessage, h.counters]
  have hrows : (s.withRows draft now).Alike (s'.withRows draft now) :=
    (h.ensureRow _ _ _ _).ensureRow _ _ _ _
  rw [add_eq, add_eq]
  refine ⟨hm, ?_, ?_, ?_, ?_, hrows.lastRow⟩
  · exact List.rel_append h.messages (hm ▸ .cons (.refl _) .nil)
  · simp only [hm, hrows.rows]
  · simp only [h.counters]
  · simp only [hm]

theorem Alike.transition (hs : s.Sound) (h : s.Alike s') (id : Int) (now : Instant) :
    (s'.transition id .sent .delivered now).1 = (s.transition id .sent .delivered now).1 ∧
      (s.transition id .sent .delivered now).2.Alike (s'.transition id .sent .delivered now).2 := by
  unfold Store.transition
  rcases h.message? id with ⟨hm, hm'⟩ | ⟨m, m', hm, hm', hmm⟩
  · simp only [hm, hm']
    exact ⟨trivial, h⟩
  · simp only [hm, hm', hmm.status]
    obtain ⟨hmem, hid⟩ := mem_of_message? hm
    split
    · next hsent =>
      refine ⟨rfl, h.mapMessages fun n hn n' hnn => ?_⟩
      rw [hnn.id]
      split
      · next he =>
        have hnm : n = m := hs.eq_of_id hn hmem (by rw [beq_iff_eq.mp he, hid])
        rw [hnn.eq_of_unread (by rw [hnm, hsent]; rfl)]
        exact .refl _
      · exact hnn
    · exact ⟨rfl, h⟩

theorem Alike.markRead (h : s.Alike s') (reader : UserId) (conversation : String) (upTo : Option Int)
    (now : Instant) :
    (s'.markRead reader conversation upTo now).1 = (s.markRead reader conversation upTo now).1 ∧
      (s.markRead reader conversation upTo now).2.Alike
        (s'.markRead reader conversation upTo now).2 := by
  unfold Store.markRead
  cases Pair.counterpart? conversation reader with
  | none => exact ⟨rfl, h⟩
  | some peer =>
    refine ⟨?_, Alike.recountUnread (h.mapMessages fun m _ m' hm => ?_) rfl rfl rfl⟩
    · simp only [h.length_filter fun m m' hm => reachedBy_alike hm]
    · rw [reachedBy_alike hm]
      split
      · next hreached =>
        rw [hm.eq_of_unread (reachedBy_iff.mp hreached).2.2.1]
        exact .refl _
      · exact hm

end Store

/-- Two outcomes of retiring a message that agree but for what it said. -/
inductive Retirement.Alike (target : Status) : Retirement → Retirement → Prop
  | applied {m m' : Message} (h : m.Alike m') (hs : m.status = target) :
    Alike target (.applied m) (.applied m')
  | stale {m m' : Message} (h : m.Alike m') : Alike target (.stale m) (.stale m')
  | missing : Alike target .missing .missing

/-- Two answers of the archive that agree in what participants may see. -/
def Archive.Matches : (q : Archive.Ask) → (r r' : Archive.signature.Reply q) → Prop
  | .find _, r, r' => ∃ m m', r = .ok m ∧ r' = .ok m' ∧ Option.Rel Message.Alike m m'
  | .retire _ _ target, r, r' => ∃ x x', r = .ok x ∧ r' = .ok x' ∧ Retirement.Alike target x x'
  | .history _ _ _, r, r' =>
    ∃ l l' : List Message, r = .ok l ∧ r' = .ok l' ∧ l'.map Message.masked = l.map Message.masked
  | _, r, r' => r' = r

namespace Store

variable {s s' : Store}

theorem Alike.retire (h : s.Alike s') (id : Int) (expected : Status) {target : Status}
    (ht : target = .recalled ∨ target = .deleted) (now : Instant) :
    Retirement.Alike target (s.retire id expected target now).1 (s'.retire id expected target now).1 ∧
      (s.retire id expected target now).2.Alike (s'.retire id expected target now).2 := by
  unfold Store.retire
  rcases h.message? id with ⟨hm, hm'⟩ | ⟨m, m', hm, hm', hmm⟩
  · simp only [hm, hm']
    exact ⟨.missing, h⟩
  · simp only [hm, hm', hmm.status]
    split
    · have hmoved := hmm.retire ht now
      have hrows := (h.mapMessages (f := fun n => if n.id == id then m.move target now else n)
        (g := fun n => if n.id == id then m'.move target now else n) fun n _ n' hn => by
          rw [hn.id]
          split
          · exact hmoved
          · exact hn).repointRows hmm.conversation id
      refine ⟨.applied hmoved rfl, ?_⟩
      split
      · exact hrows.recountUnread hmm.conversation hmm.recipient hmm.sender
      · exact hrows
    · exact ⟨.stale hmm, h⟩

/-- **Alike archives answer alike**, and stay alike. -/
theorem Alike.answer (hs : s.Sound) (h : s.Alike s') {q : Archive.Ask} (lawful : Lawful q)
    (now : Instant) : Archive.Matches q (Store.answer now q s).1 (Store.answer now q s').1 ∧
      (Store.answer now q s).2.Alike (Store.answer now q s').2 := by
  cases q with
  | store draft =>
    obtain ⟨hm, hstore⟩ := h.add draft now
    exact ⟨congrArg Except.ok hm, hstore⟩
  | find id =>
    exact ⟨⟨_, _, rfl, rfl, find?_alike h.messages⟩, h⟩
  | transition id old new =>
    obtain ⟨rfl, rfl⟩ := lawful
    obtain ⟨hmoved, hstore⟩ := h.transition hs id now
    exact ⟨congrArg Except.ok hmoved, hstore⟩
  | retire id old new =>
    obtain ⟨hretired, hstore⟩ := h.retire id old lawful.2 now
    exact ⟨⟨_, _, rfl, rfl, hretired⟩, hstore⟩
  | markRead reader conversation upTo => exact h.markRead reader conversation upTo now
  | history conversation before limit =>
    exact ⟨⟨_, _, rfl, rfl, h.history_eq conversation before limit⟩, h⟩
  | rows user offset limit =>
    have hpage : s'.page user offset limit = s.page user offset limit := by
      simp only [page, rowsOf, h.rows]
    exact ⟨congrArg Except.ok hpage, h⟩
  | row owner peer =>
    have hrow : s'.row? (Pair.ownerKey owner peer) = s.row? (Pair.ownerKey owner peer) := by
      simp only [row?, h.rows]
    exact ⟨congrArg Except.ok hrow, h⟩
  | unread user conversation =>
    have hunread : s'.unread user conversation = s.unread user conversation := by
      simp only [unread, h.rows]
    exact ⟨congrArg Except.ok hunread, h⟩

end Store
end Parley
