/-
How the archive is ordered after every run.

Storing alone numbers messages and makes rows, so each fact is shown of
storing and of nothing else (`Run.outline_invariant`): messages and rows
are numbered from 1 without a gap, and so are the messages of one
conversation (`Numbered`); every message is one that was checked before
(`Run.checked`); rows are there for pairs with a message and were changed
together (`Sided`). What is asked of a pair of users then depends on the
messages between them (`Run.shared`).
-/
import Parley.Proofs.Lifecycle
import Parley.Proofs.Log

namespace Parley

open Time (Instant)

/-! ## Numbers from 1 -/

/-- The numbers from 1 to a last one. -/
def oneTo (n : Nat) : List Int := (List.range n).map fun i : Nat => (i : Int) + 1

theorem oneTo_succ (n : Nat) : oneTo (n + 1) = oneTo n ++ [(n : Int) + 1] := by
  simp [oneTo, List.range_succ]

theorem nodup_oneTo (n : Nat) : (oneTo n).Nodup :=
  List.nodup_range.map fun i j (h : (i : Int) + 1 = j + 1) => by omega

theorem mem_oneTo {n : Nat} {i : Int} : i ∈ oneTo n ↔ 0 < i ∧ i ≤ n := by
  simp only [oneTo, List.mem_map, List.mem_range]
  constructor
  · rintro ⟨k, hk, rfl⟩
    omega
  · intro h
    exact ⟨(i - 1).toNat, by omega, by omega⟩

theorem map_append_eq_oneTo {α : Type} {f : α → Int} {l : List α} (h : l.map f = oneTo l.length) {a : α}
    (ha : f a = l.length + 1) : (l ++ [a]).map f = oneTo (l ++ [a]).length := by
  rw [List.map_append, h, List.length_append, List.length_singleton, oneTo_succ, List.map_singleton, ha]

/-! ## Checked messages -/

/-- What the check of a request makes sure of. -/
structure Draft.Checked (settings : MessageSettings) (d : Draft) : Prop where
  sender : 0 < d.sender
  recipient : 0 < d.recipient
  content : Text.blank d.content = false
  size : d.content.utf8ByteSize ≤ settings.greatestContent
  extra : d.extra ≠ some ""

theorem SendRequest.check_ok {settings : MessageSettings} {r : SendRequest} {d : Draft}
    (h : r.check settings = .ok d) : d.Checked settings := by
  unfold check at h
  split at h
  · cases h
  next hsender =>
  split at h
  · cases h
  next hrecipient =>
  split at h
  · cases h
  split at h
  · cases h
  next hblank =>
  split at h
  · cases h
  next hsize =>
  cases h
  refine ⟨Int.not_le.mp hsender, Int.not_le.mp hrecipient, by simpa using hblank, Nat.not_lt.mp hsize, ?_⟩
  simp [Option.filter_eq_some_iff]

/-- The draft that a message was made of. -/
def Message.draft (m : Message) : Draft := ⟨m.sender, m.recipient, m.kind, m.content, m.extra⟩

/-- Whether a message is one between two users. -/
def Message.Between (m : Message) (a b : UserId) : Prop :=
  m.sender = a ∧ m.recipient = b ∨ m.sender = b ∧ m.recipient = a

theorem Message.between_comm {m : Message} {a b : UserId} : m.Between a b ↔ m.Between b a := or_comm

theorem Message.Advanced.between {m m' : Message} (h : m.Advanced m') {a b : UserId}
    (hm : m.Between a b) : m'.Between a b := by
  rcases h with rfl | ⟨-, h⟩
  · exact hm
  · rw [h]
    exact hm

namespace Store

variable {s s' : Store}

theorem Sound.between_iff (h : s.Sound) {m : Message} (hm : m ∈ s.messages) {a b : UserId} :
    m.Between a b ↔ m.conversation = Pair.id a b := by
  rw [h.named m hm, Pair.id_eq_id_iff]
  rfl

/-! ## Numbers -/

/-- The messages of a conversation in storing order. -/
def messagesOf (s : Store) (conversation : String) : List Message :=
  s.messages.filter fun m => m.conversation == conversation

/-- Messages are numbered from 1, and so are those of each conversation. -/
structure Numbered (s : Store) : Prop where
  ids : s.messages.map (·.id) = oneTo s.messages.length
  last : s.lastMessage = s.messages.length
  seqs : ∀ c, (s.messagesOf c).map (·.seq) = oneTo (s.messagesOf c).length
  counters : ∀ c, s.counter c = (s.messagesOf c).length

theorem Numbered.empty : Numbered .empty := by
  constructor <;> simp [Store.empty, messagesOf, counter, oneTo]

theorem messagesOf_outline (s : Store) (c : String) :
    s.outline.messagesOf c = (s.messagesOf c).map Message.fixed := by
  simp only [messagesOf, outline, List.filter_map]
  rfl

theorem Numbered.outline : s.outline.Numbered ↔ s.Numbered := by
  have hids : s.outline.messages.map (·.id) = s.messages.map (·.id) := by
    simp only [Store.outline, List.map_map]
    rfl
  have hlength : s.outline.messages.length = s.messages.length := List.length_map _
  have hseqs (c : String) : (s.outline.messagesOf c).map (·.seq) = (s.messagesOf c).map (·.seq) := by
    rw [messagesOf_outline, List.map_map]
    rfl
  have hlengths (c : String) : (s.outline.messagesOf c).length = (s.messagesOf c).length := by
    rw [messagesOf_outline, List.length_map]
  constructor
  · rintro ⟨ids, last, seqs, counters⟩
    simp only [hids, hlength, hseqs, hlengths] at ids last seqs counters
    exact ⟨ids, last, seqs, counters⟩
  · rintro ⟨ids, last, seqs, counters⟩
    constructor
    · rwa [hids, hlength]
    · rwa [hlength]
    · simpa only [hseqs, hlengths] using seqs
    · intro c
      rw [hlengths]
      exact counters c

theorem messagesOf_append (s : Store) (m : Message) (c : String) :
    messagesOf { s with messages := s.messages ++ [m] } c =
      s.messagesOf c ++ if m.conversation = c then [m] else [] := by
  simp only [messagesOf, List.filter_append, List.filter_singleton, cond_eq_ite, beq_iff_eq]

theorem counter_bump (s : Store) (c c' : String) :
    counter { s with counters := bump c s.counters } c' = s.counter c' + if c = c' then 1 else 0 := by
  simp only [counter]
  induction s.counters with
  | nil => by_cases h : c = c' <;> simp [bump, h]
  | cons p rest ih =>
    obtain ⟨name, n⟩ := p
    unfold bump
    by_cases hname : name = c
    · by_cases hc : c = c' <;> simp [hname, hc]
    · by_cases hc' : name = c'
      · subst hc'
        simp [hname, Ne.symm hname]
      · have hbeq : (name == c') = false := by simpa using hc'
        simpa [hname, List.find?_cons, hbeq] using ih

theorem Numbered.add (h : s.Numbered) (draft : Draft) (now : Instant) :
    (s.add draft now).2.Numbered := by
  rw [add_eq]
  have hof (c : String) := messagesOf_append s (s.messageOf draft now) c
  constructor
  · refine map_append_eq_oneTo h.ids ?_
    rw [← h.last]
    rfl
  · simp only [messageOf, h.last, List.length_append, List.length_singleton, Int.natCast_add]
    rfl
  · intro c
    change (messagesOf { s with messages := _ } c).map _ = oneTo (messagesOf { s with messages := _ } c).length
    rw [hof]
    split
    · next hc =>
      refine map_append_eq_oneTo (h.seqs c) ?_
      rw [← h.counters, ← hc]
      rfl
    · simpa using h.seqs c
  · intro c
    change counter { s with counters := bump draft.conversation s.counters } c =
      (messagesOf { s with messages := _ } c).length
    rw [hof, counter_bump, h.counters, List.length_append]
    change _ + (if draft.conversation = c then (1 : Int) else 0) =
      ((_ + (if draft.conversation = c then _ else _ : List Message).length : Nat) : Int)
    split <;> simp

/-! ## Rows -/

/-- Rows are numbered from 1. -/
def RowsNumbered (s : Store) : Prop :=
  s.rows.map (·.id) = oneTo s.rows.length ∧ s.lastRow = s.rows.length

/-- Rows are numbered from 1, have a message of their pair, and were changed
at one time with the other row of it. -/
structure Sided (s : Store) : Prop where
  numbered : s.RowsNumbered
  needed : ∀ r ∈ s.rows, r.conversation ∈ s.messages.map (·.conversation)
  together : ∀ r ∈ s.rows, ∀ r' ∈ s.rows, r'.conversation = r.conversation →
    r'.updatedAt = r.updatedAt

theorem Sided.empty : Sided .empty := by
  constructor <;> simp [Store.empty, RowsNumbered, oneTo]

theorem RowsNumbered.outline : s.outline.RowsNumbered ↔ s.RowsNumbered := by
  simp only [RowsNumbered, Store.outline, List.map_map, List.length_map]
  rfl

theorem Sided.outline : s.outline.Sided ↔ s.Sided := by
  have hconversations : s.outline.messages.map (·.conversation) = s.messages.map (·.conversation) := by
    simp only [Store.outline, List.map_map]
    rfl
  constructor
  · rintro ⟨numbered, needed, together⟩
    rw [hconversations] at needed
    simp only [Store.outline, List.forall_mem_map] at needed together
    exact ⟨RowsNumbered.outline.mp numbered, needed, together⟩
  · rintro ⟨numbered, needed, together⟩
    refine ⟨RowsNumbered.outline.mpr numbered, ?_, ?_⟩
    · rw [hconversations]
      exact List.forall_mem_map.mpr needed
    · exact List.forall_mem_map.mpr fun r hr => List.forall_mem_map.mpr (together r hr)

theorem RowsNumbered.ensureRow (h : s.RowsNumbered) (owner peer : UserId) (conversation : String)
    (now : Instant) : (s.ensureRow owner peer conversation now).RowsNumbered := by
  rcases ensureRow_cases s owner peer conversation now with ⟨-, he⟩ | ⟨-, he⟩ <;> rw [he]
  · exact h
  · refine ⟨map_append_eq_oneTo h.1 ?_, ?_⟩
    · rw [← h.2]
      rfl
    · simp [h.2]

@[simp] theorem id_afterStoring {m : Message} {r : Conversation} : (afterStoring m r).id = r.id := by
  unfold afterStoring
  split
  · rfl
  · split <;> rfl

theorem Sided.add (h : s.Sound) (hs : s.Sided) (draft : Draft) (now : Instant) :
    (s.add draft now).2.Sided := by
  have hrows := (h.withRows draft now).1
  have hnumbered : (s.withRows draft now).RowsNumbered :=
    (hs.numbered.ensureRow _ _ _ _).ensureRow _ _ _ _
  rw [add_eq]
  generalize hm : s.messageOf draft now = m at *
  have hname : m.conversation = draft.conversation := by rw [← hm]; rfl
  have hf := afterStoring_keepsOwner m
  have hstored : m.conversation = Pair.id m.sender m.recipient := by rw [← hm]; rfl
  constructor
  · simpa [RowsNumbered, Function.comp_def] using hnumbered
  · refine List.forall_mem_map.mpr fun r hr => ?_
    rw [hf.conversation, List.map_append, List.mem_append]
    rcases mem_withRows hr with hr | hc
    · exact .inl (hs.needed r hr)
    · exact .inr (by simp [hc, hname])
  · refine List.forall_mem_map.mpr fun r hr => List.forall_mem_map.mpr fun r' hr' hc => ?_
    rw [hf.conversation, hf.conversation] at hc
    rcases hrows.afterStoring_cases hr hstored with ⟨hrm, _, he⟩ | ⟨hrm, he⟩ <;>
      rcases hrows.afterStoring_cases hr' hstored with ⟨hrm', _, he'⟩ | ⟨hrm', he'⟩
    · rw [he, he']
      rfl
    · exact absurd (hc.trans hrm) hrm'
    · exact absurd (hc.symm.trans hrm') hrm
    · -- Rows of other conversations are old.
      rw [he, he']
      exact hs.together r ((mem_withRows hr).resolve_right fun h => hrm (h.trans hname.symm)) r'
        ((mem_withRows hr').resolve_right fun h => hrm' (h.trans hname.symm)) hc

/-! ## Pairs -/

theorem Sided.row?_isSome (h : s.Sound) (hs : s.Sided) {a b : UserId} :
    (s.row? (Pair.ownerKey a b)).isSome = true ↔ ∃ m ∈ s.messages, m.Between a b := by
  constructor
  · intro hrow
    obtain ⟨r, hr⟩ := Option.isSome_iff_exists.mp hrow
    obtain ⟨hmem, hk⟩ := mem_of_row? hr
    obtain ⟨ho, hpeer⟩ := h.owner_peer hmem hk
    obtain ⟨m, hm, hc⟩ := List.mem_map.mp (hs.needed r hmem)
    rw [h.named m hm, (h.owned r hmem).2, ho, hpeer, Pair.id_eq_id_iff] at hc
    exact ⟨m, hm, hc⟩
  · rintro ⟨m, hm, hbetween⟩
    rw [Option.isSome_iff_ne_none, ne_eq, row?_eq_none, not_not]
    rcases hbetween with ⟨rfl, rfl⟩ | ⟨rfl, rfl⟩
    · exact (h.rowed m hm).1
    · exact (h.rowed m hm).2

theorem Sound.self_row (h : s.Sound) {m : Message} (hm : m ∈ s.messages) (hself : m.recipient = m.sender) :
    s.rows.countP (fun r => r.conversation == m.conversation) = 1 := by
  obtain ⟨r, hr, hk⟩ := List.mem_map.mp (h.rowed m hm).1
  obtain ⟨ho, hpeer⟩ := h.owner_peer hr hk
  have hc : r.conversation = m.conversation := by rw [(h.owned r hr).2, ho, hpeer, h.named m hm]
  have honly : ∀ r' ∈ s.rows, (r'.conversation == m.conversation) = true ↔ (r' == r) = true := by
    intro r' hr'
    rw [beq_iff_eq, beq_iff_eq]
    refine ⟨fun hc' => ?_, fun he => he ▸ hc⟩
    have hsides := hc'
    rw [(h.owned r' hr').2, h.named m hm, hself, Pair.id_eq_id_iff] at hsides
    have howner : r'.owner = m.sender := hsides.elim (·.1) (·.1)
    exact h.eq_of_conversation hr' hr (howner.trans ho.symm) (hc'.trans hc.symm)
  rw [List.countP_congr honly]
  exact List.count_eq_one_of_mem h.rowsDistinct hr

/-- How the parts of the archive are numbered, checked and paired. -/
structure InOrder (settings : MessageSettings) (s : Store) : Prop where
  /-- The ids of messages are the numbers from 1, in storing order. -/
  ids : s.messages.map (·.id) = oneTo s.messages.length
  /-- So are the places of the messages in a conversation. -/
  seqs : ∀ c, (s.messagesOf c).map (·.seq) = oneTo (s.messagesOf c).length
  counters : ∀ c, s.counter c = (s.messagesOf c).length
  named : ∀ m ∈ s.messages, m.conversation = Pair.id m.sender m.recipient
  checked : ∀ m ∈ s.messages, m.draft.Checked settings
  rowIds : (s.rows.map (·.id)).Nodup
  /-- Every row is found by its users and belongs to their conversation. -/
  owned : ∀ r ∈ s.rows, r.ownerKey = Pair.ownerKey r.owner r.peer ∧
    s.row? (Pair.ownerKey r.owner r.peer) = some r ∧ r.conversation = Pair.id r.owner r.peer
  /-- There is a row for each of two users with a message between them. -/
  rows : ∀ a b, (s.row? (Pair.ownerKey a b)).isSome = true ↔ ∃ m ∈ s.messages, m.Between a b
  /-- The two rows of a pair were changed at the same time. -/
  together : ∀ a b r r', s.row? (Pair.ownerKey a b) = some r → s.row? (Pair.ownerKey b a) = some r' →
    r'.updatedAt = r.updatedAt
  /-- A user with a message to itself has one row for itself. -/
  self : ∀ a, (∃ m ∈ s.messages, m.Between a a) →
    s.rows.countP (fun r => r.conversation == Pair.id a a) = 1

theorem InOrder.of_parts {settings : MessageSettings} (h : s.Sound) (hn : s.Numbered) (hs : s.Sided)
    (checked : ∀ m ∈ s.messages, m.draft.Checked settings) : s.InOrder settings where
  ids := hn.ids
  seqs := hn.seqs
  counters := hn.counters
  named := h.named
  checked := checked
  rowIds := by
    rw [hs.numbered.1]
    exact nodup_oneTo _
  owned r hr := by
    obtain ⟨hk, hc⟩ := h.owned r hr
    exact ⟨hk, hk ▸ h.row?_eq hr, hc⟩
  rows a b := hs.row?_isSome h
  together a b r r' hr hr' := by
    obtain ⟨hmem, hk⟩ := mem_of_row? hr
    obtain ⟨hmem', hk'⟩ := mem_of_row? hr'
    refine hs.together r hmem r' hmem' ?_
    obtain ⟨ho, hpeer⟩ := h.owner_peer hmem hk
    obtain ⟨ho', hpeer'⟩ := h.owner_peer hmem' hk'
    rw [(h.owned r hmem).2, (h.owned r' hmem').2, ho, hpeer, ho', hpeer', Pair.id_comm]
  self a := by
    rintro ⟨m, hm, hbetween⟩
    obtain ⟨hsender, hrecipient⟩ : m.sender = a ∧ m.recipient = a := by
      rcases hbetween with h | ⟨h, h'⟩
      · exact h
      · exact ⟨h, h'⟩
    have hc : m.conversation = Pair.id a a := by rw [h.named m hm, hsender, hrecipient]
    rw [← hc]
    exact h.self_row hm (hrecipient.trans hsender.symm)

end Store

/-! ## The call -/

theorem Server.run_sharesConversation (s : Server Backend.memory) (a b : UserId) : ∃ now,
    s.run (Messaging.sharesConversation a b).run =
      (.ok (!decide (a ≤ 0 ∨ b ≤ 0 ∨ a = b) && (s.store.row? (Pair.ownerKey a b)).isSome), { s with now := now }) := by
  unfold Messaging.sharesConversation
  split
  · next h =>
    rw [decide_eq_true h]
    exact ⟨s.now, rfl⟩
  · next h =>
    rw [decide_eq_false h]
    exact ⟨s.now.later Server.instantStep, rfl⟩

theorem System.run_sharesConversation (s : System) (a b : UserId) :
    (s.server.run (Messaging.sharesConversation a b).run).1 =
      .ok (!decide (a ≤ 0 ∨ b ≤ 0 ∨ a = b) && (s.store.row? (Pair.ownerKey a b)).isSome) := by
  obtain ⟨_, h⟩ := s.server.run_sharesConversation a b
  exact congrArg Prod.fst h

/-! ## Runs -/

namespace System

variable {settings : MessageSettings} {calls : List Call} {server : Server Backend.memory}
  {t t' : List Event} {s s' : System}

/-- **Every message is one that a request asked for and that passed its
check.** -/
theorem Run.checked (run : Run Server.StoreKept (System.start settings calls server) t s)
    (fresh : server.store = .empty) : ∀ m ∈ s.store.messages, ∃ request,
      .send request ∈ calls ∧ request.check settings = .ok m.draft := by
  refine run.outline_invariant (I := fun s => ∀ m ∈ s.messages, ∃ request,
    .send request ∈ calls ∧ request.check settings = .ok m.draft) fresh (by simp [Store.empty])
    (fun s => List.forall_mem_map) fun s draft now _ ih hasked => ?_
  rw [Store.add_eq]
  intro m hm
  rcases List.mem_append.mp hm with hm | hm
  · exact ih m hm
  · rw [List.mem_singleton.mp hm]
    obtain ⟨c, hc, hask⟩ := hasked
    cases c with
    | send request => exact ⟨request, hc, hask⟩
    | _ => exact hask.elim

theorem Run.inOrder (run : Run Server.StoreKept (System.start settings calls server) t s)
    (fresh : server.store = .empty) : s.store.InOrder settings := by
  refine .of_parts (run.sound fresh) ?_ ?_ fun m hm => ?_
  · exact run.outline_invariant fresh .empty (fun _ => Store.Numbered.outline)
      fun s draft now _ hn _ => hn.add draft now
  · exact run.outline_invariant fresh .empty (fun _ => Store.Sided.outline)
      fun s draft now h hs _ => hs.add h draft now
  · obtain ⟨request, -, hcheck⟩ := run.checked fresh m hm
    exact SendRequest.check_ok hcheck

theorem Run.shared (run : Run Server.StoreKept (System.start settings calls server) t s)
    (fresh : server.store = .empty) (a b : UserId) :
    (s.server.run (Messaging.sharesConversation b a).run).1 =
      (s.server.run (Messaging.sharesConversation a b).run).1 ∧
    ∀ t' s', Run Server.StoreKept s t' s' →
      (s.server.run (Messaging.sharesConversation a b).run).1 = .ok true →
        (s'.server.run (Messaging.sharesConversation a b).run).1 = .ok true := by
  have hrows := (run.inOrder fresh).rows
  have hrow : (s.store.row? (Pair.ownerKey b a)).isSome = (s.store.row? (Pair.ownerKey a b)).isSome := by
    rw [Bool.eq_iff_iff, hrows, hrows]
    simp only [Message.between_comm (a := b)]
  have hsame : (b ≤ 0 ∨ a ≤ 0 ∨ b = a) ↔ (a ≤ 0 ∨ b ≤ 0 ∨ a = b) := by rw [or_left_comm, eq_comm]
  refine ⟨?_, fun t' s' more hshared => ?_⟩
  · rw [run_sharesConversation, run_sharesConversation, hrow, decide_eq_decide.mpr hsame]
  · rw [run_sharesConversation, Except.ok.injEq, Bool.and_eq_true] at hshared ⊢
    obtain ⟨m, hm, hbetween⟩ := (hrows a b).mp hshared.2
    obtain ⟨m', hm', hadv⟩ := (run.grew fresh more).mem hm
    refine ⟨hshared.1, ?_⟩
    exact (((run.trans more).inOrder fresh).rows a b).mpr ⟨m', hm', hadv.between hbetween⟩

/-- **The archive is in order.** However the calls take turns, it holds the
messages that were stored, in storing order, and all parts of it are
numbered, checked and paired as `Store.InOrder` says. Whether two users
share a conversation is answered alike to both, and never turns from yes to
no. -/
theorem archive_in_order (fresh : server.store = .empty)
    (run : Run Server.StoreKept (System.start settings calls server) t s) :
    s.store.InOrder settings ∧
    s.store.messages.map Message.fixed = t.reverse.filterMap Event.stored? ∧
    ∀ a b, ∃ shared, (s.server.run (Messaging.sharesConversation a b).run).1 = .ok shared ∧
      (s.server.run (Messaging.sharesConversation b a).run).1 = .ok shared ∧
      (shared = true → ∀ t' s', Run Server.StoreKept s t' s' →
        (s'.server.run (Messaging.sharesConversation a b).run).1 = .ok true) := by
  refine ⟨run.inOrder fresh, run.log fresh, fun a b => ?_⟩
  obtain ⟨hsymm, hstays⟩ := run.shared fresh a b
  refine ⟨_, run_sharesConversation _ a b, ?_, fun hshared t' s' more => hstays t' s' more ?_⟩
  · rw [hsymm, run_sharesConversation]
  · rw [run_sharesConversation, hshared]

/-- Two users write to each other at once, one of them to itself as well,
and a blank message is refused. -/
theorem archive_in_order_after_first_contact : ∃ t s,
    Run Server.StoreKept
      (System.start {} [.send ⟨1, 2, 1, "hello", some ""⟩, .send ⟨2, 1, 1, "hi", none⟩,
        .send ⟨2, 2, 1, "note", none⟩, .send ⟨1, 3, 1, " ", none⟩] (Server.fresh [2])) t s ∧
    s.store.messages.map (·.seq) = [1, 2, 1] ∧
    s.store.messages.map (·.id) = [1, 2, 3] ∧
    s.store.rows.countP (fun r => r.conversation == Pair.id 2 2) = 1 ∧
    (s.server.run (Messaging.sharesConversation 1 2).run).1 = .ok true ∧
    (s.server.run (Messaging.sharesConversation 2 1).run).1 = .ok true := by
  obtain ⟨t, run⟩ := Run.play .nil [0, 1, 2, 3, 1, 0, 2, 0, 0, 1]
  refine ⟨t, _, run, by decide +kernel, ?_⟩
  obtain ⟨order, -, shares⟩ := archive_in_order rfl run
  obtain ⟨shared, hshared, hshared', -⟩ := shares 1 2
  refine ⟨?_, order.self 2 ((order.rows 2 2).mp (by decide +kernel)), by decide +kernel, ?_⟩
  · rw [order.ids]
    decide +kernel
  · rw [hshared', ← hshared]
    decide +kernel

end System
end Parley
