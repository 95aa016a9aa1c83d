/-
Unread counts are exact.

A row counts the unread messages of its conversation to its owner. The
count is kept in two ways, by adding one for a new message and by counting
again after reading and retiring; `Counted` holds of both as long as a
conversation is marked as read by its own id (`Counted.change`). The sum
over the rows of a user is then the number of all unread messages to that
user (`sum_unread`).
-/
import Mathlib.Algebra.BigOperators.Ring.Finset
import Parley.Proofs.Store.Change

namespace Parley

open Time (Instant)

theorem Status.isUnread_iff {s : Status} : s.isUnread = true ↔ s = .sent ∨ s = .delivered := by
  cases s <;> simp [isUnread]

namespace Store

variable {s : Store}

/-- Whether a message is one of the unread ones of a conversation to a user. -/
def counts (conversation : String) (user : UserId) (m : Message) : Bool :=
  m.conversation == conversation && m.recipient == user && m.status.isUnread

theorem counts_iff {conversation : String} {user : UserId} {m : Message} :
    counts conversation user m = true ↔
      m.conversation = conversation ∧ m.recipient = user ∧ m.status.isUnread = true := by
  simp only [counts, Bool.and_eq_true, beq_iff_eq, and_assoc]

/-- The number of unread messages of a conversation to a user. -/
def unreadCount (s : Store) (conversation : String) (user : UserId) : Nat :=
  s.messages.countP (counts conversation user)

theorem length_unreadOf (s : Store) (conversation : String) (user : UserId) :
    (s.unreadOf conversation user).length = s.unreadCount conversation user :=
  List.countP_eq_length_filter.symm

/-- Every row holds the number of its unread messages, as far as it can be
held. -/
def Counted (s : Store) : Prop :=
  ∀ r ∈ s.rows, r.unread = wrapCount (s.unreadCount r.conversation r.owner)

theorem Counted.empty : Counted .empty := by simp [Counted, Store.empty]

/-! ## Counting again -/

theorem wrapCount_add_one (n : Int) : wrapCount (wrapCount n + 1) = wrapCount (n + 1) :=
  Int.bmod_add_bmod

theorem wrapCount_of_lt {n : Nat} (h : n < 2 ^ 31) : wrapCount n = n :=
  Int.bmod_eq_of_le_mul_two (by omega) (by omega)

theorem Counted.recountUnread (h : s.Sound) {owner peer : UserId}
    (others : ∀ r ∈ s.rows, ¬(r.owner = owner ∧ r.conversation = Pair.id owner peer) →
      r.unread = wrapCount (s.unreadCount r.conversation r.owner)) :
    Counted (s.recountUnread (Pair.id owner peer) owner peer) := by
  intro r' hr'
  obtain ⟨r, hr, rfl⟩ := List.mem_map.mp hr'
  by_cases hk : r.ownerKey = Pair.ownerKey owner peer
  · obtain ⟨rfl, rfl⟩ := h.owner_peer hr hk
    simp only [beq_iff_eq, hk, if_true, length_unreadOf, (h.owned r hr).2]
    rfl
  · simp only [beq_iff_eq, hk, if_false]
    refine others r hr fun ⟨ho, hc⟩ => hk ?_
    rw [(h.owned r hr).2, ho, Pair.id_right_inj] at hc
    rw [(h.owned r hr).1, ho, hc]

theorem unreadCount_moveWhere {p : Message → Bool} {new : Status} {now : Instant}
    {conversation : String} {user : UserId}
    (h : ∀ m ∈ s.messages, p m = true → m.conversation = conversation → m.recipient = user →
      new.isUnread = m.status.isUnread) :
    (s.moveWhere p new now).unreadCount conversation user = s.unreadCount conversation user := by
  simp only [unreadCount, moveWhere, List.countP_map]
  refine List.countP_congr fun m hm => ?_
  rw [Function.comp, counts_iff, counts_iff, Message.moveIf_conversation, Message.moveIf_recipient]
  refine and_congr_right fun hc => and_congr_right fun hu => ?_
  cases hp : p m with
  | false => rw [Message.moveIf_of_neg hp]
  | true =>
    rw [Message.moveIf_of_pos hp, ← h m hm hp hc hu]
    rfl

/-! ## The five changes -/

theorem Counted.ensureRow (h : s.Sound) (hc : s.Counted) {owner peer : UserId}
    {conversation : String} (hname : conversation = Pair.id owner peer) (now : Instant) :
    (s.ensureRow owner peer conversation now).Counted := by
  rcases ensureRow_cases s owner peer conversation now with ⟨-, he⟩ | ⟨hnew, he⟩ <;> rw [he]
  · exact hc
  intro r hr
  rcases List.mem_append.mp hr with hr | hr
  · exact hc r hr
  -- The row is new, so no message of the pair was stored before.
  rw [List.mem_singleton.mp hr]
  have hnone : s.unreadCount conversation owner = 0 := by
    rw [unreadCount, List.countP_eq_zero]
    intro m hm hcount
    obtain ⟨hconv, rfl, -⟩ := counts_iff.mp hcount
    rw [h.named m hm, hname, Pair.id_comm, Pair.id_right_inj] at hconv
    rw [← hconv] at hnew
    exact hnew (h.rowed m hm).2
  change (0 : Int) = wrapCount (s.unreadCount conversation owner)
  rw [hnone]
  rfl

theorem Counted.add (h : s.Sound) (hc : s.Counted) (draft : Draft) (now : Instant) :
    (s.add draft now).2.Counted := by
  have hrows := (h.withRows draft now).1
  have hcounted : (s.withRows draft now).Counted :=
    Counted.ensureRow (h.ensureRow rfl now) (Counted.ensureRow h hc rfl now) (Pair.id_comm _ _) now
  rw [add_eq]
  intro r' hr'
  obtain ⟨r, hr, rfl⟩ := List.mem_map.mp hr'
  generalize hm : s.messageOf draft now = m at *
  have hname : m.conversation = Pair.id m.sender m.recipient := by rw [← hm]; rfl
  have hsent : m.status.isUnread = true := by rw [← hm]; rfl
  have hcount : r.unread = wrapCount (s.unreadCount r.conversation r.owner) := by
    have := hcounted r hr
    simpa only [unreadCount, messages_withRows] using this
  have hf := afterStoring_keepsOwner m
  rw [hf.owner, hf.conversation]
  simp only [unreadCount, List.countP_append, List.countP_singleton]
  obtain ⟨hkey, hconv⟩ := hrows.owned r hr
  by_cases hk : r.ownerKey = Pair.ownerKey m.recipient m.sender
  · have hcounts : counts r.conversation r.owner m = true := by
      obtain ⟨ho, hp⟩ := Pair.ownerKey_eq_iff.mp (hkey.symm.trans hk)
      simp [counts, hname, hconv, ho, hp, hsent, Pair.id_comm]
    simp only [afterStoring, hk, if_true, hcounts, hcount, wrapCount_add_one]
    rfl
  · have hcounts : counts r.conversation r.owner m = false := by
      rw [Bool.eq_false_iff]
      intro hcounts
      obtain ⟨hc, ho, -⟩ := counts_iff.mp hcounts
      rw [hname, hconv, ← ho, Pair.id_comm, Pair.id_right_inj] at hc
      exact hk (by rw [hkey, ← ho, ← hc])
    have hsame : (afterStoring m r).unread = r.unread := by
      simp only [afterStoring, hk, if_false]
      split <;> rfl
    simp only [hsame, hcounts, hcount, unreadCount]
    rfl

theorem Counted.delivered (h : s.Sound) (hc : s.Counted) {m : Message} (hm : m ∈ s.messages)
    (hs : m.status = .sent) (now : Instant) :
    (s.moveWhere (·.id == m.id) .delivered now).Counted := by
  intro r hr
  rw [unreadCount_moveWhere]
  · exact hc r hr
  · intro n hn hid _ _
    rw [h.eq_of_beq hm hn hid, hs]
    rfl

theorem mem_repointRows {conversation : String} {id : Int} {r : Conversation}
    (h : r ∈ (s.repointRows conversation id).rows) :
    ∃ q ∈ s.rows, r.owner = q.owner ∧ r.conversation = q.conversation ∧ r.unread = q.unread := by
  obtain ⟨q, hq, rfl⟩ := List.mem_map.mp h
  refine ⟨q, hq, ?_⟩
  split <;> exact ⟨rfl, rfl, rfl⟩

theorem Counted.retired (h : s.Sound) (hc : s.Counted) {m : Message} (hm : m ∈ s.messages)
    {target : Status} (ht : target = .recalled ∨ target = .deleted) (now : Instant) :
    (s.retired m target now).Counted := by
  have hnew : target.isUnread = false := by rcases ht with rfl | rfl <;> rfl
  have hmoved := (h.moveWhere (·.id == m.id) target now).repointRows m.conversation m.id
  unfold Store.retired
  simp only
  split
  · have hname : m.conversation = Pair.id m.recipient m.sender :=
      (h.named m hm).trans (Pair.id_comm _ _)
    rw [hname] at hmoved ⊢
    refine Counted.recountUnread hmoved fun r hr hother => ?_
    obtain ⟨q, hq, ho, hconv, hu⟩ := mem_repointRows hr
    rw [ho, hconv] at hother ⊢
    rw [hu, hc q hq]
    congr 2
    -- The message that moved is not one that this row counts.
    refine (unreadCount_moveWhere fun n hn hid hcn hrn => absurd ⟨?_, ?_⟩ hother).symm
    · rw [← hrn, h.eq_of_beq hm hn hid]
    · rw [← hcn, h.eq_of_beq hm hn hid, hname]
  · next hread =>
    intro r hr
    obtain ⟨q, hq, ho, hconv, hu⟩ := mem_repointRows hr
    rw [ho, hconv, hu, hc q hq]
    congr 2
    refine (unreadCount_moveWhere fun n hn hid _ _ => ?_).symm
    rw [h.eq_of_beq hm hn hid, hnew]
    exact (Bool.eq_false_iff.mpr hread).symm

theorem Counted.marked (h : s.Sound) (hc : s.Counted) {reader peer : UserId} {conversation : String}
    (hname : conversation = Pair.id reader peer) (upTo : Option Int) (now : Instant) :
    (s.marked reader peer conversation upTo now).Counted := by
  subst hname
  refine Counted.recountUnread (h.moveWhere _ _ _) fun r hr hother => ?_
  rw [hc r hr]
  congr 2
  refine (unreadCount_moveWhere fun n _ hreached hcn hrn => absurd ?_ hother).symm
  obtain ⟨hconv, hreader, -⟩ := reachedBy_iff.mp hreached
  exact ⟨hrn.symm.trans hreader, hcn.symm.trans hconv⟩

/-- **The five changes keep the counts**, if conversations are read by ids
of pairs. -/
theorem Counted.change (h : s.Sound) (hc : s.Counted) {asked : Archive.Ask → Prop}
    (named : ∀ reader conversation upTo, asked (.markRead reader conversation upTo) →
      ∃ a b, conversation = Pair.id a b) {s' : Store} (change : Change asked s s') :
    s'.Counted := by
  cases change with
  | none => exact hc
  | stored => exact hc.add h _ _
  | delivered hm hs => exact hc.delivered h hm hs _
  | retired hm _ ht => exact hc.retired h hm ht _
  | marked hask hp =>
    obtain ⟨a, b, rfl⟩ := named _ _ _ hask
    exact hc.marked h (Pair.id_eq_of_counterpart? hp) _ _

/-! ## Sums -/

/-- Whether a message is one of the unread ones to a user. -/
def countsTo (user : UserId) (m : Message) : Bool := m.recipient == user && m.status.isUnread

theorem countsTo_iff {user : UserId} {m : Message} :
    countsTo user m = true ↔ m.recipient = user ∧ m.status.isUnread = true := by
  simp only [countsTo, Bool.and_eq_true, beq_iff_eq]

theorem countP_eq_sum {α : Type} (p : α → Bool) (l : List α) :
    l.countP p = (l.map fun a => if p a then 1 else 0).sum := by
  induction l with
  | nil => rfl
  | cons a l ih => rw [List.countP_cons, List.map_cons, List.sum_cons, ih, Nat.add_comm]

theorem sum_counts {user : UserId} {conversations : List String} (distinct : conversations.Nodup)
    {messages : List Message}
    (covered : ∀ m ∈ messages, countsTo user m = true → m.conversation ∈ conversations) :
    (conversations.map fun c => messages.countP (counts c user)).sum =
      messages.countP (countsTo user) := by
  induction messages with
  | nil => simp
  | cons m messages ih =>
    simp only [List.countP_cons, List.sum_map_add]
    rw [ih fun n hn => covered n (List.mem_cons_of_mem _ hn)]
    congr 1
    rw [← countP_eq_sum (fun c => counts c user m)]
    cases hm : countsTo user m with
    | false =>
      rw [List.countP_eq_zero.mpr fun c _ hc => ?_]
      · rfl
      · exact absurd (countsTo_iff.mpr (counts_iff.mp hc).2) (Bool.eq_false_iff.mp hm)
    | true =>
      have hcounts : (fun c => counts c user m) = (· == m.conversation) := by
        funext c
        rw [Bool.eq_iff_iff, counts_iff, beq_iff_eq, eq_comm]
        exact and_iff_left (countsTo_iff.mp hm)
      rw [hcounts]
      exact List.count_eq_one_of_mem distinct (covered m List.mem_cons_self hm)

theorem Sound.conversationsDistinct (h : s.Sound) (user : UserId) :
    ((s.rows.filter fun r => r.owner == user).map (·.conversation)).Nodup := by
  refine List.Nodup.map_on ?_ (h.rowsDistinct.filter _)
  intro r hr r' hr' hc
  obtain ⟨hr, ho⟩ := List.mem_filter.mp hr
  obtain ⟨hr', ho'⟩ := List.mem_filter.mp hr'
  rw [beq_iff_eq] at ho ho'
  exact h.eq_of_conversation hr hr' (ho.trans ho'.symm) hc

theorem Sound.mem_conversations (h : s.Sound) {m : Message} (hm : m ∈ s.messages) :
    m.conversation ∈ (s.rows.filter fun r => r.owner == m.recipient).map (·.conversation) := by
  obtain ⟨r, hr, hk⟩ := List.mem_map.mp (h.rowed m hm).2
  obtain ⟨ho, hp⟩ := h.owner_peer hr hk
  refine List.mem_map.mpr ⟨r, List.mem_filter.mpr ⟨hr, by simp [ho]⟩, ?_⟩
  rw [(h.owned r hr).2, ho, hp, h.named m hm, Pair.id_comm]

theorem sum_unread (h : s.Sound)
    (exact : ∀ r ∈ s.rows, r.unread = s.unreadCount r.conversation r.owner) (user : UserId) :
    s.unread user none = s.messages.countP (countsTo user) := by
  have hrows : (s.rows.filter fun r => r.owner == user).map (·.unread) =
      ((s.rows.filter fun r => r.owner == user).map fun r => s.unreadCount r.conversation user).map
        Nat.cast := by
    rw [List.map_map]
    refine List.map_congr_left fun r hr => ?_
    obtain ⟨hr, ho⟩ := List.mem_filter.mp hr
    rw [exact r hr, beq_iff_eq.mp ho]
    rfl
  simp only [unread, Option.all_none, Bool.and_true, hrows]
  rw [← List.sum_eq_foldr, ← Nat.cast_list_sum]
  congr 1
  rw [← sum_counts (h.conversationsDistinct user), List.map_map]
  · rfl
  · intro m hm hto
    exact (countsTo_iff.mp hto).1 ▸ h.mem_conversations hm

theorem unread_pair (h : s.Sound)
    (exact : ∀ r ∈ s.rows, r.unread = s.unreadCount r.conversation r.owner) (user peer : UserId) :
    s.unread user (some (Pair.id user peer)) = s.unreadCount (Pair.id user peer) user := by
  generalize hc : Pair.id user peer = conversation
  have hmem {r} : r ∈ s.rows.filter (fun r => r.owner == user && r.conversation == conversation) ↔
      r ∈ s.rows ∧ r.owner = user ∧ r.conversation = conversation := by
    simp only [List.mem_filter, Bool.and_eq_true, beq_iff_eq]
  simp only [unread, Option.all_some]
  cases hrows : s.rows.filter (fun r => r.owner == user && r.conversation == conversation) with
  | nil =>
    have hnone : s.unreadCount conversation user = 0 := by
      rw [unreadCount, List.countP_eq_zero]
      intro m hm hcounts
      obtain ⟨hconv, rfl, -⟩ := counts_iff.mp hcounts
      obtain ⟨r, hr, hrc⟩ := List.mem_map.mp (h.mem_conversations hm)
      obtain ⟨hr, ho⟩ := List.mem_filter.mp hr
      have := hmem.mpr ⟨hr, beq_iff_eq.mp ho, hrc.trans hconv⟩
      simp [hrows] at this
    rw [hnone]
    rfl
  | cons r rest =>
    obtain ⟨hr, ho, hrc⟩ := hmem.mp (hrows ▸ List.mem_cons_self)
    have hdistinct := h.rowsDistinct.filter
      fun r => r.owner == user && r.conversation == conversation
    rw [hrows, List.nodup_cons] at hdistinct
    have hrest : rest = [] := by
      refine List.eq_nil_iff_forall_not_mem.mpr fun r' hr' => hdistinct.1 ?_
      obtain ⟨hmem', ho', hrc'⟩ := hmem.mp (hrows ▸ List.mem_cons_of_mem _ hr')
      rwa [h.eq_of_conversation hr hmem' (ho.trans ho'.symm) (hrc.trans hrc'.symm)]
    rw [hrest, List.map_cons, List.map_nil, List.foldr_cons, List.foldr_nil, Int.add_zero, exact r hr,
      ho, hrc]

theorem Counted.exact (hc : s.Counted) (few : s.messages.length < 2 ^ 31) :
    ∀ r ∈ s.rows, r.unread = s.unreadCount r.conversation r.owner := fun r hr =>
  (hc r hr).trans (wrapCount_of_lt (Nat.lt_of_le_of_lt List.countP_le_length few))

end Store

/-! ## The call -/

theorem Server.run_unread_all (s : Server Backend.memory) (user : UserId) :
    (s.run (Messaging.unread user none).run).1 = .ok (s.store.unread user none) := rfl

theorem Server.run_unread_one (s : Server Backend.memory) {user other : UserId} {conversation : String}
    (hne : conversation ≠ "") (hc : Messaging.counterpart conversation user = .ok other) :
    (s.run (Messaging.unread user (some conversation)).run).1 =
      .ok (s.store.unread user (some conversation)) := by
  have hf : (some conversation).filter (fun c => decide (c ≠ "")) = some conversation := by simp [hne]
  unfold Messaging.unread
  generalize (some conversation).filter (fun c => decide (c ≠ "")) = asked at hf
  subst hf
  simp only [Messaging.participating, hc]
  rfl

theorem Pair.id_ne_empty (a b : UserId) : Pair.id a b ≠ "" := by
  intro h
  have := congrArg String.toList h
  simp [Pair.id] at this

theorem Messaging.counterpart_ok {conversation : String} {user other : UserId}
    (h : Pair.counterpart? conversation user = some other) :
    Messaging.counterpart conversation user = .ok other := by
  unfold Messaging.counterpart
  cases hid : Pair.ofId? conversation with
  | none => simp [Pair.counterpart?, hid] at h
  | some p => simp only [h]

/-! ## Runs -/

namespace System

variable {settings : MessageSettings} {calls : List Call} {server : Server Backend.memory}
  {t : List Event} {s : System}

/-- **Unread counts are exact.** However the calls take turns, a row counts
the messages of its conversation to its owner that are sent or delivered,
and the service answers with their number. It reads ids of conversations
back for positive users only, and refuses all others. -/
theorem unread_counts_exact (fresh : server.store = .empty)
    (named : ∀ reader conversation upTo, Call.markRead reader conversation upTo ∈ calls →
      ∃ a b, conversation = Pair.id a b)
    (run : Run Server.StoreKept (System.start settings calls server) t s)
    (few : s.store.messages.length < 2 ^ 31) :
    (∀ r ∈ s.store.rows, r.unread = s.store.messages.countP fun m =>
      m.conversation = r.conversation ∧ m.recipient = r.owner ∧
        (m.status = .sent ∨ m.status = .delivered)) ∧
    (∀ u, (s.server.run (Messaging.unread u none).run).1 =
      .ok (s.store.messages.countP fun m =>
        m.recipient = u ∧ (m.status = .sent ∨ m.status = .delivered))) ∧
    (∀ u v, 0 < u → u < 2 ^ 63 → 0 < v → v < 2 ^ 63 →
      (s.server.run (Messaging.unread u (some (Pair.id u v))).run).1 =
        .ok (s.store.messages.countP fun m =>
          m.conversation = Pair.id u v ∧ m.recipient = u ∧
            (m.status = .sent ∨ m.status = .delivered))) := by
  have hnamed : ∀ reader conversation upTo, Asked settings calls (.markRead reader conversation upTo) →
      ∃ a b, conversation = Pair.id a b := by
    rintro reader conversation upTo ⟨c, hc, hask⟩
    cases c with
    | markRead reader' conversation' upTo' =>
      obtain ⟨rfl, rfl, -⟩ := hask
      exact named _ _ _ hc
    | _ => cases hask
  have hcounted : s.store.Counted :=
    run.invariant fresh .empty fun s s' hs hc change => hc.change hs hnamed change
  have hsound := run.sound fresh
  have hexact := hcounted.exact few
  have hcounts (conversation : String) (u : UserId) :
      Store.counts conversation u = fun m => decide (m.conversation = conversation ∧ m.recipient = u ∧
        (m.status = .sent ∨ m.status = .delivered)) := by
    funext m
    rw [Bool.eq_iff_iff, Store.counts_iff, decide_eq_true_iff, Status.isUnread_iff]
  have hcountsTo (u : UserId) :
      Store.countsTo u = fun m => decide (m.recipient = u ∧
        (m.status = .sent ∨ m.status = .delivered)) := by
    funext m
    rw [Bool.eq_iff_iff, Store.countsTo_iff, decide_eq_true_iff, Status.isUnread_iff]
  refine ⟨fun r hr => ?_, fun u => ?_, fun u v hu hu' hv hv' => ?_⟩
  · rw [hexact r hr, Store.unreadCount, hcounts]
  · rw [Server.run_unread_all, ← hcountsTo]
    exact congrArg _ (Store.sum_unread hsound hexact u)
  · have hother := Messaging.counterpart_ok
      (Pair.counterpart?_id hu (Int.le_sub_one_of_lt hu') hv (Int.le_sub_one_of_lt hv'))
    rw [Server.run_unread_one _ (Pair.id_ne_empty u v) hother, ← hcounts]
    exact congrArg _ (Store.unread_pair hsound hexact u v)

/-- The conversation of two users is read before the first message was noted
as delivered, and a note to oneself stays unread. -/
theorem unread_counts_of_early_read : ∃ t s,
    Run Server.StoreKept
      (System.start {} [.send ⟨1, 2, 1, "hello", none⟩, .send ⟨2, 2, 1, "note", none⟩,
        .markRead 2 (Pair.id 1 2) none] (Server.fresh [2])) t s ∧
    s.store.messages.map (·.status) = [.read, .delivered] ∧
    s.store.rows.map (·.unread) = [0, 0, 1] ∧
    (s.server.run (Messaging.unread 2 none).run).1 = .ok 1 := by
  obtain ⟨t, run⟩ := Run.play .nil [0, 0, 1, 1, 0, 2, 0, 1, 1]
  refine ⟨t, _, run, by decide +kernel, by decide +kernel, ?_⟩
  have exact := unread_counts_exact rfl ?_ run (by decide +kernel)
  · rw [exact.2.1]
    decide +kernel
  · simp only [List.mem_cons, List.not_mem_nil]
    rintro reader conversation upTo (h | h | h | h) <;> cases h
    exact ⟨1, 2, rfl⟩

end System
end Parley
