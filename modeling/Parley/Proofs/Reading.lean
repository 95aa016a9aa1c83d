/-
Marks of reading combine.

A mark says up to which message a reader has come. Two marks, one after the
other, do what one mark with the larger bound does, for what the first has
reached is read and not reached again (`Store.reachedBy_moveIf`). The count of
the reader's row is made anew by each mark, so it follows from the statuses
alone.

`System.Tally` keeps the books of a run: which caller counted which message.
No message comes to stand in it twice (`System.Tally.nodup`).
-/
import Mathlib.Data.Option.NAry
import Parley.Proofs.Lifecycle
import Parley.Proofs.Retirement
import Parley.Proofs.Spelling

namespace Parley

open Time (Instant)

/-! ## Bounds -/

namespace Messaging

/-- The bound that reaches as far as both. What is not positive is no bound,
and without one all messages are reached. -/
def larger (b₁ b₂ : Option Int) : Option Int := Option.map₂ max (positive? b₁) (positive? b₂)

theorem larger_comm (b₁ b₂ : Option Int) : larger b₁ b₂ = larger b₂ b₁ := Option.map₂_comm max_comm

theorem positive?_eq_some_iff {b : Option Int} {n : Int} : positive? b = some n ↔ b = some n ∧ 0 < n := by
  simp [positive?, Option.filter_eq_some_iff]

theorem positive?_larger (b₁ b₂ : Option Int) : positive? (larger b₁ b₂) = larger b₁ b₂ := by
  rw [larger]
  cases h₁ : positive? b₁ with
  | none => rfl
  | some n₁ =>
    cases positive? b₂ with
    | none => rfl
    | some n₂ => exact positive?_eq_some_iff.mpr ⟨rfl, lt_max_of_lt_left (positive?_eq_some_iff.mp h₁).2⟩

end Messaging

/-! ## Messages -/

theorem Status.seen_of_canBecome {a b : Status} (ha : a.isUnread = false) (h : a.canBecome b = true) :
    b.isUnread = false := by
  cases a <;> cases b <;> simp_all [isUnread, canBecome]

/-- The message without the time of its last change. -/
def Message.undated (m : Message) : Message := { m with updatedAt := m.createdAt }

/-- Whether a message from a peer waits for its reader, up to a bound. -/
def Message.Awaits (reader peer : UserId) (upTo : Option Int) (m : Message) : Prop :=
  m.sender = peer ∧ m.recipient = reader ∧ (m.status = .sent ∨ m.status = .delivered) ∧
    ∀ bound ∈ upTo, 0 < bound → m.id ≤ bound

instance (reader peer : UserId) (upTo : Option Int) : DecidablePred (Message.Awaits reader peer upTo) :=
  fun _ => inferInstanceAs (Decidable (_ ∧ _ ∧ _ ∧ _))

namespace Store

variable {s : Store} {reader peer : UserId} {c : String} {b b₁ b₂ : Option Int} {now now₁ now₂ : Instant}
  {m : Message}

theorem reachedBy_moveIf : reachedBy reader c b₂ (m.moveIf (reachedBy reader c b₁) .read now) =
    (reachedBy reader c b₂ m && !reachedBy reader c b₁ m) := by
  cases h : reachedBy reader c b₁ m with
  | false => simp [Message.moveIf_of_neg h]
  | true =>
    rw [Message.moveIf_of_pos h]
    simp [reachedBy, Message.move, Status.isUnread]

theorem reachedBy_map₂ : reachedBy reader c (Option.map₂ max b₁ b₂) m =
    (reachedBy reader c b₁ m || reachedBy reader c b₂ m) := by
  rw [reachedBy, reachedBy, reachedBy, ← Bool.and_or_distrib_left]
  congr 1
  cases b₁ <;> cases b₂ <;> simp

theorem undated_moveIf_moveIf (now₃ : Instant) :
    ((m.moveIf (reachedBy reader c b₁) .read now₁).moveIf (reachedBy reader c b₂) .read now₂).undated =
      (m.moveIf (reachedBy reader c (Option.map₂ max b₁ b₂)) .read now₃).undated := by
  have hagain := @reachedBy_moveIf reader c b₁ b₂ now₁ m
  have hboth := @reachedBy_map₂ reader c b₁ b₂ m
  cases h₁ : reachedBy reader c b₁ m with
  | true =>
    simp only [h₁, Bool.not_true, Bool.and_false] at hagain
    simp only [h₁, Bool.true_or] at hboth
    rw [Message.moveIf_of_neg hagain, Message.moveIf_of_pos h₁, Message.moveIf_of_pos hboth]
    rfl
  | false =>
    simp only [h₁, Bool.false_or] at hboth
    rw [Message.moveIf_of_neg h₁]
    cases h₂ : reachedBy reader c b₂ m with
    | true =>
      rw [Message.moveIf_of_pos h₂, Message.moveIf_of_pos (hboth.trans h₂)]
      rfl
    | false => rw [Message.moveIf_of_neg h₂, Message.moveIf_of_neg (hboth.trans h₂)]

theorem countP_or {α : Type} (p q : α → Bool) (l : List α) :
    l.countP (fun a => p a || q a) = l.countP p + l.countP fun a => q a && !p a := by
  induction l with
  | nil => rfl
  | cons a l ih =>
    simp only [List.countP_cons, ih]
    cases p a <;> cases q a <;> simp <;> omega

/-! ## The archive -/

/-- The archive without the times at which messages changed last. -/
def undated (s : Store) : Store := { s with messages := s.messages.map Message.undated }

theorem markRead_eq_ok {n : Nat} (h : (s.markRead reader c b now).1 = .ok n) :
    n = s.messages.countP (reachedBy reader c b) ∧ ∃ peer, (s.markRead reader c b now).2 = s.marked reader peer c b now := by
  cases hp : Pair.counterpart? c reader with
  | none =>
    rw [markRead_eq_error hp] at h
    cases h
  | some peer =>
    rw [markRead_eq hp] at h ⊢
    cases h
    exact ⟨rfl, peer, rfl⟩

theorem unreadCount_eq_of_undated {s s' : Store}
    (h : s.messages.map Message.undated = s'.messages.map Message.undated) (c : String) (user : UserId) :
    s.unreadCount c user = s'.unreadCount c user := by
  have hcount (l : List Message) : l.countP (counts c user) = (l.map Message.undated).countP (counts c user) := by
    rw [List.countP_map]
    rfl
  rw [unreadCount, unreadCount, hcount, h, ← hcount]

/-- A row with a count, if it is of a key. -/
def counting (key : String) (n : Int) (r : Conversation) : Conversation :=
  if r.ownerKey = key then { r with unread := n } else r

theorem counting_counting (key : String) (n n' : Int) (r : Conversation) :
    counting key n' (counting key n r) = counting key n' r := by
  by_cases hk : r.ownerKey = key <;> simp [counting, hk]

@[simp] theorem counters_marked : (s.marked reader peer c b now).counters = s.counters := rfl

@[simp] theorem lastMessage_marked : (s.marked reader peer c b now).lastMessage = s.lastMessage := rfl

@[simp] theorem lastRow_marked : (s.marked reader peer c b now).lastRow = s.lastRow := rfl

theorem messages_marked : (s.marked reader peer c b now).messages =
    s.messages.map (Message.moveIf (reachedBy reader c b) .read now) := rfl

theorem rows_marked : (s.marked reader peer c b now).rows = s.rows.map (counting (Pair.ownerKey reader peer)
    (wrapCount ((s.marked reader peer c b now).unreadCount c reader))) := rows_recountUnread _ _ _ _

/-- **Two marks do what one with the larger bound does**, but for the times. -/
theorem undated_marked_marked (now₃ : Instant) :
    ((s.marked reader peer c b₁ now₁).marked reader peer c b₂ now₂).undated =
      (s.marked reader peer c (Option.map₂ max b₁ b₂) now₃).undated := by
  have hmessages : ((s.marked reader peer c b₁ now₁).marked reader peer c b₂ now₂).messages.map Message.undated =
      (s.marked reader peer c (Option.map₂ max b₁ b₂) now₃).messages.map Message.undated := by
    simp only [messages_marked, List.map_map]
    exact List.map_congr_left fun m _ => undated_moveIf_moveIf now₃
  have hrows : ((s.marked reader peer c b₁ now₁).marked reader peer c b₂ now₂).rows =
      (s.marked reader peer c (Option.map₂ max b₁ b₂) now₃).rows := by
    rw [rows_marked, rows_marked, rows_marked, List.map_map, unreadCount_eq_of_undated hmessages]
    exact List.map_congr_left fun r _ => counting_counting _ _ _ r
  simp only [undated, hmessages, hrows, counters_marked, lastMessage_marked, lastRow_marked]

theorem countP_marked : s.messages.countP (reachedBy reader c (Option.map₂ max b₁ b₂)) =
    s.messages.countP (reachedBy reader c b₁) +
      (s.marked reader peer c b₁ now).messages.countP (reachedBy reader c b₂) := by
  have hboth : reachedBy reader c (Option.map₂ max b₁ b₂) =
      fun m => reachedBy reader c b₁ m || reachedBy reader c b₂ m := funext fun m => reachedBy_map₂
  rw [hboth, countP_or, messages_marked, List.countP_map]
  congr 2
  exact funext fun m => reachedBy_moveIf.symm

theorem not_reachedBy_marked : ∀ m ∈ (s.marked reader peer c b now).messages, reachedBy reader c b m = false := by
  intro m hm
  rw [messages_marked] at hm
  obtain ⟨n, -, rfl⟩ := List.mem_map.mp hm
  rw [reachedBy_moveIf, Bool.and_not_self]

theorem marked_marked : (s.marked reader peer c b now₁).marked reader peer c b now₂ =
    s.marked reader peer c b now₁ := by
  have hmoved : (s.marked reader peer c b now₁).moveWhere (reachedBy reader c b) .read now₂ =
      s.marked reader peer c b now₁ := moveWhere_of_none not_reachedBy_marked
  have hrows : (s.marked reader peer c b now₁).rows.map (counting (Pair.ownerKey reader peer)
      (wrapCount ((s.marked reader peer c b now₁).unreadCount c reader))) = (s.marked reader peer c b now₁).rows := by
    rw [rows_marked, List.map_map]
    exact List.map_congr_left fun r _ => counting_counting _ _ _ r
  have hrecounted : ((s.marked reader peer c b now₁).recountUnread c reader peer).rows =
      (s.marked reader peer c b now₁).rows := (rows_recountUnread _ _ _ _).trans hrows
  rw [marked, hmoved]
  exact congrArg (fun rows => { s.marked reader peer c b now₁ with rows := rows }) hrecounted

/-! ## What changes -/

/-- Only messages that waited for the reader up to a bound have changed, `n` of
them, and the row of the reader, which counts what still waits. -/
structure OnlyRead (s s' : Store) (reader peer : UserId) (upTo : Option Int) (now : Instant) (n : Nat) : Prop where
  counted : s.messages.countP (fun m => m.Awaits reader peer upTo) = n
  messages : s'.messages = s.messages.map fun m =>
    if m.Awaits reader peer upTo then { m with status := .read, updatedAt := now } else m
  rows : s'.rows = s.rows.map fun r =>
    if r.owner = reader ∧ r.peer = peer then
      { r with unread := wrapCount (s'.messages.countP fun m => m.Awaits reader peer none) }
    else r
  counters : s'.counters = s.counters
  lastMessage : s'.lastMessage = s.lastMessage
  lastRow : s'.lastRow = s.lastRow

theorem Sound.reachedBy_eq (h : s.Sound) (hm : m ∈ s.messages) (b : Option Int) :
    reachedBy reader (Pair.id reader peer) (Messaging.positive? b) m = decide (m.Awaits reader peer b) := by
  have hbound : (Messaging.positive? b).all (fun bound => m.id ≤ bound) = true ↔
      ∀ bound ∈ b, 0 < bound → m.id ≤ bound := by
    cases b with
    | none => simp [Messaging.positive?]
    | some n => by_cases hn : 0 < n <;> simp [Messaging.positive?, Option.filter_some, hn]
  rw [Bool.eq_iff_iff, reachedBy_iff, decide_eq_true_iff, Message.Awaits, hbound, Status.isUnread_iff, h.named m hm]
  constructor
  · rintro ⟨hc, rfl, hrest⟩
    exact ⟨Pair.id_right_inj.mp ((Pair.id_comm _ _).trans hc), rfl, hrest⟩
  · rintro ⟨rfl, rfl, hrest⟩
    exact ⟨Pair.id_comm _ _, rfl, hrest⟩

theorem Sound.unreadCount_eq (h : s.Sound) : s.unreadCount (Pair.id reader peer) reader =
    s.messages.countP fun m => m.Awaits reader peer none := by
  refine List.countP_congr fun m hm => ?_
  rw [← h.reachedBy_eq hm none, reachedBy_iff, counts_iff]
  simp [Messaging.positive?]

/-- **A mark changes what it reaches and the count of one row.** -/
theorem Sound.onlyRead (h : s.Sound) (b : Option Int) (now : Instant) :
    s.OnlyRead (s.marked reader peer (Pair.id reader peer) (Messaging.positive? b) now) reader peer b now
      (s.messages.countP (reachedBy reader (Pair.id reader peer) (Messaging.positive? b))) where
  counted := List.countP_congr fun m hm => by rw [h.reachedBy_eq hm b]
  messages := by
    refine List.map_congr_left fun m hm => ?_
    rw [Message.moveIf, h.reachedBy_eq hm b]
    simp only [decide_eq_true_eq]
    rfl
  rows := by
    have hsound : (s.marked reader peer (Pair.id reader peer) (Messaging.positive? b) now).Sound :=
      (h.moveWhere _ _ _).recountUnread _ _ _
    rw [rows_marked, hsound.unreadCount_eq]
    refine List.map_congr_left fun r hr => ?_
    simp only [counting, (h.owned r hr).1, Pair.ownerKey_eq_iff]
  counters := counters_marked
  lastMessage := lastMessage_marked
  lastRow := lastRow_marked

theorem OnlyRead.nothing_left {s' : Store} {n : Nat} (h : s.OnlyRead s' reader peer b now n)
    (unbounded : ∀ bound ∈ b, bound ≤ 0) : s'.messages.countP (fun m => m.Awaits reader peer none) = 0 := by
  rw [List.countP_eq_zero, h.messages]
  intro m' hm'
  obtain ⟨m, -, rfl⟩ := List.mem_map.mp hm'
  rw [decide_eq_true_iff]
  split
  · simp [Message.Awaits]
  · next hnot =>
    rintro ⟨hsender, hrecipient, hstatus, -⟩
    refine hnot ⟨hsender, hrecipient, hstatus, fun bound hbound hpos => ?_⟩
    exact absurd (unbounded bound hbound) (Int.not_le.mpr hpos)

theorem OnlyRead.unread {s' : Store} {n : Nat} (h : s.OnlyRead s' reader peer b now n) (hs : s'.Sound)
    (unbounded : ∀ bound ∈ b, bound ≤ 0) :
    (∀ r ∈ s'.rows, r.owner = reader → r.peer = peer → r.unread = 0) ∧
      s'.unread reader (some (Pair.id reader peer)) = 0 := by
  have hrow : ∀ r ∈ s'.rows, r.owner = reader → r.peer = peer → r.unread = 0 := by
    intro r' hr' ho hp
    rw [h.rows, h.nothing_left unbounded] at hr'
    obtain ⟨r, -, rfl⟩ := List.mem_map.mp hr'
    split
    · rfl
    · next hnot =>
      rw [if_neg hnot] at ho hp
      exact absurd ⟨ho, hp⟩ hnot
  refine ⟨hrow, ?_⟩
  have hzero : ∀ n ∈ (s'.rows.filter fun r => r.owner == reader && r.conversation == Pair.id reader peer).map
      (·.unread), n = 0 := by
    intro n hn
    obtain ⟨r, hr, rfl⟩ := List.mem_map.mp hn
    simp only [List.mem_filter, Bool.and_eq_true, beq_iff_eq] at hr
    obtain ⟨hr, rfl, hc⟩ := hr
    exact hrow r hr rfl (Pair.id_right_inj.mp ((hs.owned r hr).2.symm.trans hc))
  simp only [Store.unread, Option.all_some, ← List.sum_eq_foldr]
  exact List.sum_eq_zero hzero

end Store

/-! ## The call -/

namespace Server

variable {reader peer : UserId} {c : String}

/-- The call to mark the conversation of a reader with a peer, alone. -/
def marking (s : Server Backend.memory) (reader peer : UserId) (upTo : Option Int) :
    Except Failure Nat × Server Backend.memory :=
  s.run (Messaging.markRead reader (Pair.id reader peer) upTo).run

theorem run_markRead_eq (s : Server Backend.memory) (hp : Pair.counterpart? c reader = some peer)
    (upTo : Option Int) : s.run (Messaging.markRead reader c upTo).run =
      (.ok (s.store.messages.countP (Store.reachedBy reader c (Messaging.positive? upTo))),
        { s.asked with archive := s.store.marked reader peer c (Messaging.positive? upTo) s.now }) := by
  rw [run_markRead (Messaging.counterpart_ok hp)]
  exact congrArg (fun p : Except Failure Nat × Store => (p.1, ({ s.asked with archive := p.2 } : Server Backend.memory)))
    (Store.markRead_eq hp (Messaging.positive? upTo) s.now)

/-- Two marks count together what one counts, and leave what it leaves, times
of change apart. -/
def Combines (s : Server Backend.memory) (reader peer : UserId) (b₁ b₂ single : Option Int) : Prop :=
  let first := s.marking reader peer b₁
  let second := first.2.marking reader peer b₂
  let one := s.marking reader peer single
  second.2.store.undated = one.2.store.undated ∧
    ∃ n₁ n₂, first.1 = .ok n₁ ∧ second.1 = .ok n₂ ∧ one.1 = .ok (n₁ + n₂)

theorem combines_larger (s : Server Backend.memory) (hp : Pair.counterpart? (Pair.id reader peer) reader = some peer)
    (b₁ b₂ : Option Int) : s.Combines reader peer b₁ b₂ (Messaging.larger b₁ b₂) := by
  have hmark (s : Server Backend.memory) (b : Option Int) : s.marking reader peer b = _ := s.run_markRead_eq hp b
  have hlarger : Messaging.positive? (Messaging.larger b₁ b₂) =
      Option.map₂ max (Messaging.positive? b₁) (Messaging.positive? b₂) := Messaging.positive?_larger b₁ b₂
  unfold Combines
  simp only [hmark, hlarger]
  refine ⟨Store.undated_marked_marked s.now, _, _, rfl, rfl, ?_⟩
  exact congrArg _ Store.countP_marked

theorem marking_marking (s : Server Backend.memory) (hp : Pair.counterpart? (Pair.id reader peer) reader = some peer)
    (b : Option Int) : ((s.marking reader peer b).2.marking reader peer b).1 = .ok 0 ∧
      ((s.marking reader peer b).2.marking reader peer b).2.store = (s.marking reader peer b).2.store := by
  have hmark (s : Server Backend.memory) (b : Option Int) : s.marking reader peer b = _ := s.run_markRead_eq hp b
  simp only [hmark]
  refine ⟨congrArg _ (List.countP_eq_zero.mpr fun m hm => ?_), Store.marked_marked⟩
  rw [Store.not_reachedBy_marked m hm]
  exact Bool.false_ne_true

theorem run_markRead_outsider (s : Server Backend.memory) (hr : 0 < reader) (hr' : reader < 2 ^ 63) (hp : 0 < peer)
    (hp' : peer < 2 ^ 63) {user : UserId} (hur : user ≠ reader) (hup : user ≠ peer) (upTo : Option Int) :
    s.run (Messaging.markRead user (Pair.id reader peer) upTo).run = (.error .notParticipant, s) := by
  have hid := Pair.ofId?_id_of_pos hr (Int.le_sub_one_of_lt hr') hp (Int.le_sub_one_of_lt hp')
  have hnone : Pair.counterpart? (Pair.id reader peer) user = none := by
    refine Option.eq_none_iff_forall_ne_some.mpr fun other hother => ?_
    obtain ⟨low, high, hread, huser⟩ := Pair.counterpart?_eq_some_iff.mp hother
    cases hid.symm.trans hread
    rcases huser with ⟨he, -⟩ | ⟨-, he, -⟩
    · exact (min_choice reader peer).elim (fun h => hur (he.trans h)) fun h => hup (he.trans h)
    · exact (max_choice reader peer).elim (fun h => hur (he.trans h)) fun h => hup (he.trans h)
  have hrefused : Messaging.counterpart (Pair.id reader peer) user = .error .notParticipant := by
    simp only [Messaging.counterpart, hid, hnone]
  unfold Messaging.markRead
  simp only [Messaging.participating, hrefused]
  rfl

end Server

/-! ## Books -/

/-- The messages that are marked and counted by an event before an archive. -/
def Event.marks (s : Store) : Event → List Int
  | ⟨_, .archive (.markRead reader conversation upTo), .ok _⟩ =>
    (s.messages.filter (Store.reachedBy reader conversation upTo)).map (·.id)
  | _ => []

namespace System

variable {settings : MessageSettings} {calls : List Call} {server : Server Backend.memory}
  {t : List Event} {s s' : System} {l : List (Nat × Int)}

/-- A run with its books: the callers with the messages that they counted,
the latest first. -/
inductive Tally (start : System) : List (Nat × Int) → List Event → System → Prop
  | nil : Tally start [] [] start
  | step {l : List (Nat × Int)} {t : List Event} {s s' : System} {e : Option Event} (tally : Tally start l t s)
    (step : Step Server.StoreKept s e s') :
    Tally start ((e.toList.flatMap fun e => (e.marks s.store).map (e.caller, ·)) ++ l) (e.toList ++ t) s'

theorem Run.tally {start : System} (run : Run Server.StoreKept start t s) : ∃ l, Tally start l t s := by
  induction run with
  | nil => exact ⟨[], .nil⟩
  | step _ step ih =>
    obtain ⟨l, tally⟩ := ih
    exact ⟨_, tally.step step⟩

theorem Tally.run {start : System} (tally : Tally start l t s) : Run Server.StoreKept start t s := by
  induction tally with
  | nil => exact .nil
  | step _ step ih => exact ih.step step

theorem Run.marks_step (run : Run Server.StoreKept (System.start settings calls server) t s) {e : Event}
    (step : Step Server.StoreKept s (some e) s') {id : Int} (hid : id ∈ e.marks s.store) :
    (∃ m ∈ s.store.messages, m.id = id ∧ m.status.isUnread = true) ∧
      ∃ m ∈ s'.store.messages, m.id = id ∧ m.status = .read := by
  unfold Event.marks at hid
  split at hid
  · next reader conversation upTo n =>
    obtain ⟨m, hm, rfl⟩ := List.mem_map.mp hid
    obtain ⟨hm, hreached⟩ := List.mem_filter.mp hm
    refine ⟨⟨m, hm, rfl, (Store.reachedBy_iff.mp hreached).2.2.1⟩, ?_⟩
    rcases run.step_cases step with ⟨j, q, c, -, -, hevent, hstore⟩ | ⟨-, hnot⟩
    · generalize hr : (Store.answer s.server.now q s.store).1 = r at hevent
      cases hevent
      obtain ⟨-, peer, hmarked⟩ := Store.markRead_eq_ok hr
      refine ⟨m.move .read s.server.now, ?_, rfl, rfl⟩
      rw [hstore]
      change _ ∈ (s.store.markRead reader conversation upTo s.server.now).2.messages
      rw [hmarked, Store.messages_marked]
      exact List.mem_map.mpr ⟨m, hm, Message.moveIf_of_pos hreached⟩
    · exact absurd rfl (hnot _ _ _)
  · cases hid

theorem Run.marks_nodup (run : Run Server.StoreKept (System.start settings calls server) t s)
    (fresh : server.store = .empty) (e : Event) : (e.marks s.store).Nodup := by
  unfold Event.marks
  split
  · exact (run.sound fresh).idsDistinct.sublist (List.filter_sublist.map _)
  · exact List.nodup_nil

theorem Tally.seen (tally : Tally (System.start settings calls server) l t s) (fresh : server.store = .empty) :
    ∀ p ∈ l, ∃ m ∈ s.store.messages, m.id = p.2 ∧ m.status.isUnread = false := by
  induction tally with
  | nil => simp
  | @step l t s s' e tally step ih =>
    intro p hp
    rcases List.mem_append.mp hp with hnew | hold
    · obtain ⟨e', he', hmarks⟩ := List.mem_flatMap.mp hnew
      obtain rfl : e = some e' := by simpa using he'
      obtain ⟨id, hid, rfl⟩ := List.mem_map.mp hmarks
      obtain ⟨-, m, hm, rfl, hread⟩ := tally.run.marks_step step hid
      exact ⟨m, hm, rfl, by rw [hread]; rfl⟩
    · obtain ⟨m, hm, hid, hseen⟩ := ih p hold
      obtain ⟨m', hm', hadv⟩ := ((tally.run.change fresh step).grew (tally.run.sound fresh)).mem hm
      refine ⟨m', hm', hadv.id.trans hid, ?_⟩
      rcases hadv.status with he | hbecomes
      · rw [he, hseen]
      · exact Status.seen_of_canBecome hseen hbecomes

theorem Tally.nodup (tally : Tally (System.start settings calls server) l t s) (fresh : server.store = .empty) :
    (l.map (·.2)).Nodup := by
  induction tally with
  | nil => exact List.nodup_nil
  | @step l t s s' e tally step ih =>
    cases e with
    | none => exact ih
    | some e =>
      have hnew : ((e.marks s.store).map fun id => (e.caller, id)).map (·.2) = e.marks s.store := by
        rw [List.map_map]
        exact List.map_id _
      rw [List.map_append, Option.toList_some, List.flatMap_singleton, hnew]
      refine (tally.run.marks_nodup fresh e).append ih fun id hid hold => ?_
      -- What the books hold has been seen, and a mark reaches what has not.
      obtain ⟨p, hp, rfl⟩ := List.mem_map.mp hold
      obtain ⟨m, hm, hmid, hseen⟩ := tally.seen fresh p hp
      obtain ⟨⟨n, hn, hnid, hunread⟩, -⟩ := tally.run.marks_step step hid
      rw [(tally.run.sound fresh).eq_of_id hm hn (hmid.trans hnid.symm), hunread] at hseen
      cases hseen

theorem markRead_action (settings : MessageSettings) (reader : UserId) (c : String) (b : Option Int) :
    (∃ f, ((Call.markRead reader c b).action settings).run = .done (.error f)) ∨
      ((Call.markRead reader c b).action settings).run =
        .ask (.archive (.markRead reader c (Messaging.positive? b))) .done := by
  change (∃ f, (Messaging.markRead reader c b).run = .done (.error f)) ∨ (Messaging.markRead reader c b).run = _
  unfold Messaging.markRead
  simp only [Messaging.participating]
  cases Messaging.counterpart c reader with
  | error f => exact .inl ⟨f, rfl⟩
  | ok other => exact .inr rfl

theorem countP_marks (e : Event) (s : Store) (i : Nat) :
    ((e.marks s).map (e.caller, ·)).countP (·.1 == i) = if e.caller = i then (e.marks s).length else 0 := by
  rw [List.countP_map]
  split
  · next he => exact List.countP_eq_length.mpr fun _ _ => beq_iff_eq.mpr he
  · next he => exact List.countP_eq_zero.mpr fun _ _ => mt beq_iff_eq.mp he

/-- **The books of a call agree with its answer.** -/
theorem Tally.counted (tally : Tally (System.start settings calls server) l t s) {i : Nat} {reader : UserId}
    {c : String} {b : Option Int}
    {rest : Program Surroundings.signature (Except Failure (Call.markRead reader c b).Answer)}
    (hi : s.callers[i]? = some ⟨.markRead reader c b, rest⟩) :
    (rest = ((Call.markRead reader c b).action settings).run ∧ l.countP (·.1 == i) = 0) ∨
      ∃ r, rest = .done r ∧ ∀ n, r = .ok n → l.countP (·.1 == i) = n := by
  induction tally generalizing rest with
  | nil =>
    simp only [System.start, List.getElem?_map, Option.map_eq_some_iff] at hi
    obtain ⟨call, -, hcall⟩ := hi
    cases hcall
    exact .inl ⟨rfl, rfl⟩
  | step tally step ih =>
    cases step with
    | elsewhere h => exact ih hi
    | @turn callers server j call q next hj =>
      rw [Option.toList_some, List.flatMap_singleton, List.countP_append, countP_marks]
      by_cases hij : j = i
      · subst hij
        have hlt := (List.getElem?_eq_some_iff.mp hj).1
        cases (List.getElem?_set_self hlt).symm.trans hi
        -- The call takes one turn, so it has none of its messages in the books before it.
        rcases ih hj with ⟨hask, hnone⟩ | ⟨r, hdone, -⟩
        · rcases markRead_action settings reader c b with ⟨f, hrefused⟩ | hasks
          · cases hask.trans hrefused
          · cases hask.trans hasks
            refine .inr ⟨_, rfl, fun n hn => ?_⟩
            rw [if_pos rfl, hnone, Nat.add_zero, hn]
            obtain ⟨hcount, -⟩ := Store.markRead_eq_ok hn
            rw [hcount, List.countP_eq_length_filter]
            exact List.length_map _
        · cases hdone
      · rw [if_neg hij, Nat.zero_add]
        exact ih ((List.getElem?_set_ne hij).symm.trans hi)

/-- **Marks of reading combine.** However the calls before took turns, two marks
that a reader makes one after the other, in either order, leave what one with
the larger bound leaves, times of change apart, and count together what it
counts. A mark that is repeated counts nothing and changes nothing. Without a
bound the reader's count becomes zero. A mark changes what waits for the reader
up to its bound and the count of the reader's row, and whoever is not of the
pair is refused. Throughout a run no message is counted twice. -/
theorem reading_combines (fresh : server.store = .empty)
    (run : Run Server.StoreKept (System.start settings calls server) t s) {reader peer : UserId}
    (hr : 0 < reader) (hr' : reader < 2 ^ 63) (hp : 0 < peer) (hp' : peer < 2 ^ 63) :
    let mark := s.server.marking reader peer
    (∀ b₁ b₂, s.server.Combines reader peer b₁ b₂ (Messaging.larger b₁ b₂) ∧
      s.server.Combines reader peer b₂ b₁ (Messaging.larger b₁ b₂)) ∧
    (∀ b, ((mark b).2.marking reader peer b).1 = .ok 0 ∧
      ((mark b).2.marking reader peer b).2.store = (mark b).2.store) ∧
    (∀ b, (∀ bound ∈ b, bound ≤ 0) →
      (∀ r ∈ (mark b).2.store.rows, r.owner = reader → r.peer = peer → r.unread = 0) ∧
      ((mark b).2.run (Messaging.unread reader (some (Pair.id reader peer))).run).1 = .ok 0) ∧
    (∀ b, ∃ n, (mark b).1 = .ok n ∧ s.store.OnlyRead (mark b).2.store reader peer b s.server.now n) ∧
    (∀ user b, user ≠ reader → user ≠ peer →
      s.server.run (Messaging.markRead user (Pair.id reader peer) b).run = (.error .notParticipant, s.server)) ∧
    ∃ l, Tally (System.start settings calls server) l t s ∧ (l.map (·.2)).Nodup ∧
      ∀ i reader c b n, s.callers[i]? = some ⟨.markRead reader c b, .done (.ok n)⟩ →
        l.countP (·.1 == i) = n := by
  intro mark
  have hsound := run.sound fresh
  have hpeer := Pair.counterpart?_id hr (Int.le_sub_one_of_lt hr') hp (Int.le_sub_one_of_lt hp')
  have hmark (b : Option Int) : mark b = _ := s.server.run_markRead_eq hpeer b
  have honly (b : Option Int) : ∃ n, (mark b).1 = .ok n ∧
      s.store.OnlyRead (mark b).2.store reader peer b s.server.now n := by
    rw [hmark]
    exact ⟨_, rfl, hsound.onlyRead b s.server.now⟩
  refine ⟨fun b₁ b₂ => ⟨s.server.combines_larger hpeer b₁ b₂, ?_⟩, fun b => s.server.marking_marking hpeer b,
    fun b unbounded => ?_, honly, fun user b hur hup => s.server.run_markRead_outsider hr hr' hp hp' hur hup b, ?_⟩
  · rw [Messaging.larger_comm]
    exact s.server.combines_larger hpeer b₂ b₁
  · obtain ⟨n, -, honlyRead⟩ := honly b
    have hbehind : (mark b).2.store.Sound := by
      rw [hmark]
      exact (hsound.moveWhere _ _ _).recountUnread _ _ _
    obtain ⟨hrow, hunread⟩ := honlyRead.unread hbehind unbounded
    refine ⟨hrow, ?_⟩
    rw [Server.run_unread_one _ (Pair.id_ne_empty reader peer) (Messaging.counterpart_ok hpeer), hunread]
  · obtain ⟨l, tally⟩ := run.tally
    refine ⟨l, tally, tally.nodup fresh, fun i reader c b n hi => ?_⟩
    rcases tally.counted hi with ⟨hstart, -⟩ | ⟨r, hdone, hcounted⟩
    · rcases markRead_action settings reader c b with ⟨f, hrefused⟩ | hasks
      · cases hstart.trans hrefused
      · cases hstart.trans hasks
    · cases hdone
      exact hcounted n rfl

/-- Four messages, a recall of the second and a reader who has come to the first. -/
def halfRead : System :=
  System.start {} [.send ⟨1, 2, 1, "one", none⟩, .send ⟨1, 2, 1, "two", none⟩, .send ⟨2, 1, 1, "three", none⟩,
    .send ⟨1, 2, 1, "four", none⟩, .recallMessage 1 2, .markRead 2 (Pair.id 1 2) (some 1)] (Server.fresh [])

/-- The reader came to the first message while the second was being recalled. One
message is left to be read, and one stands in the books of the reader's call. -/
theorem reading_combines_around_recall : ∃ l t s, Tally halfRead l t s ∧
    s.store.messages.map (·.status) = [.read, .recalled, .sent, .sent] ∧
    (s.server.marking 2 1 (some (-1))).1 = .ok 1 ∧
    s.server.Combines 2 1 (some 3) (some (-1)) none ∧
    (l.map (·.2)).Nodup ∧ l.countP (·.1 == 5) = 1 := by
  obtain ⟨t, run⟩ := Run.play (.nil : Run Server.StoreKept halfRead [] halfRead)
    [0, 0, 0, 1, 1, 1, 4, 5, 4, 2, 2, 2, 4, 3, 3, 3, 4]
  have combine := reading_combines rfl run (by decide : (0 : UserId) < 2) (by decide) (by decide : (0 : UserId) < 1)
    (by decide)
  obtain ⟨hcombines, -, -, -, -, l, tally, hnodup, hcounted⟩ := combine
  refine ⟨l, t, _, tally, by decide +kernel, by decide +kernel, (hcombines (some 3) (some (-1))).1, hnodup, ?_⟩
  exact hcounted 5 2 (Pair.id 1 2) (some 1) 1 (by with_unfolding_all rfl)

end System
end Parley
