/-
Other spellings of the id of a pair.

An id is read as two numbers to tell who takes part, and compared as a text
with what messages and rows hold. Reading passes over leading zeros and
plus signs, which no stored id has (`Sound.not_spelled`). A participant who
spells the id so is let in and finds nothing; and marking as read, which
picks the row by the two numbers and counts by the text, sets the count of
a row to zero whose messages stay unread (`spelled_otherwise`).
-/
import Parley.Proofs.LastMessage
import Parley.Proofs.Unread

namespace Parley

open Time (Instant)

namespace Store

variable {s : Store} {c : String}

theorem Sound.not_spelled (h : s.Sound) {low high : UserId} (hc : Pair.ofId? c = some (low, high))
    (hne : c ≠ Pair.id low high) :
    (∀ m ∈ s.messages, m.conversation ≠ c) ∧ ∀ r ∈ s.rows, r.conversation ≠ c := by
  have hstored (a b : UserId) : Pair.id a b ≠ c := by
    rintro rfl
    obtain ⟨rfl, rfl⟩ := Pair.ofId?_id_eq_some hc
    refine hne (Pair.id_eq_id_iff.mpr ?_)
    omega
  constructor
  · intro m hm
    rw [h.named m hm]
    exact hstored _ _
  · intro r hr
    rw [(h.owned r hr).2]
    exact hstored _ _

theorem moveWhere_of_none {p : Message → Bool} (h : ∀ m ∈ s.messages, p m = false) {new : Status}
    {now : Instant} : s.moveWhere p new now = s := by
  have hmessages : s.messages.map (Message.moveIf p new now) = s.messages :=
    (List.map_congr_left fun m hm => Message.moveIf_of_neg (h m hm)).trans (List.map_id _)
  rw [moveWhere, hmessages]

theorem markRead_of_none {reader peer : UserId} (hp : Pair.counterpart? c reader = some peer)
    (hnone : ∀ m ∈ s.messages, m.conversation = c → m.status.isUnread = false) (upTo : Option Int)
    (now : Instant) : s.markRead reader c upTo now =
      (.ok 0, s.updateRow (Pair.ownerKey reader peer) fun r => { r with unread := 0 }) := by
  have hreached : ∀ m ∈ s.messages, reachedBy reader c upTo m = false := by
    intro m hm
    rw [Bool.eq_false_iff, ne_eq, reachedBy_iff]
    rintro ⟨hc, -, hunread, -⟩
    simp [hnone m hm hc] at hunread
  have hcount : s.messages.countP (reachedBy reader c upTo) = 0 :=
    List.countP_eq_zero.mpr fun m hm => by simp [hreached m hm]
  have hunread : s.unreadOf c reader = [] := by
    refine List.filter_eq_nil_iff.mpr fun m hm => ?_
    rw [Bool.and_eq_true, Bool.and_eq_true, beq_iff_eq]
    rintro ⟨⟨hc, -⟩, hunread⟩
    simp [hnone m hm hc] at hunread
  rw [markRead_eq hp, hcount, marked, moveWhere_of_none hreached, recountUnread, hunread]
  rfl

/-- The archive without its times. -/
def timeless (s : Store) : Store :=
  { s with
    messages := s.messages.map fun m => { m with createdAt := ⟨0, 0⟩, updatedAt := ⟨0, 0⟩ }
    rows := s.rows.map fun r =>
      { r with lastTime := none, createdAt := ⟨0, 0⟩, updatedAt := ⟨0, 0⟩ } }

theorem latest_eq_nil : s.latest c = [] ↔ ∀ m ∈ s.messages, m.conversation = c → m.status = .deleted := by
  rw [← newest?_eq_none, newest?, List.head?_eq_none_iff]

theorem unread_of_none (hnone : ∀ r ∈ s.rows, r.conversation ≠ c) (user : UserId) :
    s.unread user (some c) = 0 := by
  have hrows : s.rows.filter (fun r => r.owner == user && r.conversation == c) = [] := by
    refine List.filter_eq_nil_iff.mpr fun r hr => ?_
    rw [Bool.and_eq_true, beq_iff_eq (b := c)]
    exact fun h => hnone r hr h.2
  simp only [unread, Option.all_some, hrows]
  rfl

end Store

/-! ## The calls -/

theorem Messaging.historyLimit_pos (limit : Option Int) : 0 < historyLimit limit := by
  unfold historyLimit positive?
  cases limit with
  | none => decide
  | some n =>
    by_cases hn : 0 < n
    · simp only [Option.filter_some, hn, decide_true, if_true, Option.map_some, Option.getD_some]
      omega
    · simp [Option.filter_some, hn]

namespace Server

variable {s : Server Backend.memory} {user other : UserId} {c : String}

theorem run_markRead (hc : Messaging.counterpart c user = .ok other) (upTo : Option Int) :
    s.run (Messaging.markRead user c upTo).run =
      s.answerArchive (.markRead user c (Messaging.positive? upTo)) := by
  unfold Messaging.markRead
  simp only [Messaging.participating, hc]
  rfl

theorem run_history (hc : Messaging.counterpart c user = .ok other) (before limit : Option Int) :
    (s.run (Messaging.history user c before limit).run).1 =
      let found := s.store.history c (Messaging.positive? before) (Messaging.historyLimit limit + 1)
      .ok ⟨((found.take (Messaging.historyLimit limit).toNat).reverse).map Message.masked,
        Messaging.historyLimit limit < found.length⟩ := by
  unfold Messaging.history
  simp only [Messaging.participating, hc]
  rfl

theorem run_markRead_of_none (hc : Pair.counterpart? c user = some other)
    (hnone : ∀ m ∈ s.store.messages, m.conversation = c → m.status.isUnread = false)
    (upTo : Option Int) : s.run (Messaging.markRead user c upTo).run =
      (.ok 0, { s with
        archive := s.store.updateRow (Pair.ownerKey user other) fun r => { r with unread := 0 }
        now := s.now.later instantStep }) := by
  rw [run_markRead (Messaging.counterpart_ok hc)]
  exact congrArg (fun p : Except Failure Nat × Store =>
      (p.1, ({ s with archive := p.2, now := s.now.later instantStep } : Server Backend.memory)))
    (Store.markRead_of_none hc hnone (Messaging.positive? upTo) s.now)

theorem run_history_eq_empty (hc : Pair.counterpart? c user = some other) :
    (∀ before limit, (s.run (Messaging.history user c before limit).run).1 = .ok ⟨[], false⟩) ↔
      ∀ m ∈ s.store.messages, m.conversation = c → m.status = .deleted := by
  rw [← Store.latest_eq_nil]
  constructor
  · intro h
    have := h none none
    rw [run_history (Messaging.counterpart_ok hc)] at this
    have hpage := congrArg HistoryPage.messages (Except.ok.inj this)
    have hall : (s.store.latest c).filter (fun m =>
        (Messaging.positive? none).all fun bound => m.id < bound) = s.store.latest c :=
      List.filter_eq_self.mpr fun _ _ => rfl
    rw [Store.history, hall, List.map_eq_nil_iff, List.reverse_eq_nil_iff, List.take_take,
      List.take_eq_nil_iff] at hpage
    exact hpage.resolve_left (by decide)
  · intro h before limit
    have := Messaging.historyLimit_pos limit
    rw [run_history (Messaging.counterpart_ok hc)]
    simp [Store.history, h]
    omega

/-- The calls of a user that name a conversation do the same by two names,
times apart. -/
structure SameConversation (s : Server Backend.memory) (user : UserId) (c c' : String) : Prop where
  markRead : ∀ upTo, (s.run (Messaging.markRead user c upTo).run).1 =
      (s.run (Messaging.markRead user c' upTo).run).1 ∧
    (s.run (Messaging.markRead user c upTo).run).2.store.timeless =
      (s.run (Messaging.markRead user c' upTo).run).2.store.timeless
  history : ∀ before limit, (s.run (Messaging.history user c before limit).run).1 =
    (s.run (Messaging.history user c' before limit).run).1
  unread : (s.run (Messaging.unread user (some c)).run).1 =
    (s.run (Messaging.unread user (some c')).run).1

theorem SameConversation.refl : s.SameConversation user c c :=
  ⟨fun _ => ⟨rfl, rfl⟩, fun _ _ => rfl, rfl⟩

end Server

/-! ## Runs -/

namespace System

variable {settings : MessageSettings} {calls : List Call} {server : Server Backend.memory}
  {t : List Event} {s : System} {user low high : UserId} {c : String}

/-- **Whoever spells an id otherwise finds nothing.** Marking as read moves
no message and sets the count of the user's row to zero. -/
theorem Run.spelled_otherwise (run : Run Server.StoreKept (System.start settings calls server) t s)
    (fresh : server.store = .empty) (hc : Pair.ofId? c = some (low, high))
    (huser : user = low ∨ user = high) (hne : c ≠ Pair.id low high) :
    (∀ upTo, s.server.run (Messaging.markRead user c upTo).run = (.ok 0, { s.server with
      archive := s.store.updateRow (Pair.ownerKey user (if user = low then high else low))
        fun r => { r with unread := 0 }
      now := s.server.now.later Server.instantStep })) ∧
    (∀ before limit, (s.server.run (Messaging.history user c before limit).run).1 = .ok ⟨[], false⟩) ∧
    (s.server.run (Messaging.unread user (some c)).run).1 = .ok 0 := by
  obtain ⟨hmessages, hrows⟩ := (run.sound fresh).not_spelled hc hne
  have hother := Pair.counterpart?_of_ofId? hc huser
  have hempty : c ≠ "" := by
    rintro rfl
    simp [Pair.ofId?, Text.cut?] at hc
  refine ⟨fun upTo => ?_, ?_, ?_⟩
  · exact Server.run_markRead_of_none hother (fun m hm h => absurd h (hmessages m hm)) upTo
  · exact (Server.run_history_eq_empty hother).mpr fun m hm h => absurd h (hmessages m hm)
  · rw [Server.run_unread_one _ hempty (Messaging.counterpart_ok hother)]
    exact congrArg _ (Store.unread_of_none hrows user)

/-- **A spelling names the conversation of its pair only if it is the id.**
Every other spelling that is accepted of a participant does the same as the
id just where the pair has nothing to show and nothing counted: it finds no
message, and marking as read by it moves none and sets the count of the
user's row to zero. -/
theorem only_ids_name_conversations (fresh : server.store = .empty)
    (run : Run Server.StoreKept (System.start settings calls server) t s)
    (hc : Pair.ofId? c = some (low, high)) (huser : user = low ∨ user = high) :
    (s.server.SameConversation user c (Pair.id low high) ↔ c = Pair.id low high ∨
      (∀ m ∈ s.store.messages, m.conversation = Pair.id low high → m.status = .deleted) ∧
        s.store.unread user (some (Pair.id low high)) = 0) ∧
    (c ≠ Pair.id low high →
      (∀ upTo, (s.server.run (Messaging.markRead user c upTo).run).1 = .ok 0 ∧
        (s.server.run (Messaging.markRead user c upTo).run).2.store =
          s.store.updateRow (Pair.ownerKey user (if user = low then high else low))
            fun r => { r with unread := 0 }) ∧
      (∀ before limit, (s.server.run (Messaging.history user c before limit).run).1 =
        .ok ⟨[], false⟩) ∧
      (s.server.run (Messaging.unread user (some c)).run).1 = .ok 0) := by
  have otherwise := run.spelled_otherwise fresh hc huser
  obtain ⟨hlow, hle, hhigh⟩ := Pair.ofId?_bounds hc
  have hid : Pair.ofId? (Pair.id low high) = some (low, high) := by
    rw [Pair.ofId?_id_of_pos hlow (Int.le_trans hle hhigh) (Int.lt_of_lt_of_le hlow hle) hhigh,
      Int.min_eq_left hle, Int.max_eq_right hle]
  have hother := Pair.counterpart?_of_ofId? hid huser
  have hunread := Server.run_unread_one s.server (Pair.id_ne_empty low high) (Messaging.counterpart_ok hother)
  refine ⟨⟨fun same => ?_, ?_⟩, fun hne => ?_⟩
  · refine or_iff_not_imp_left.mpr fun hne => ?_
    obtain ⟨-, hhistory, hcount⟩ := otherwise hne
    refine ⟨(Server.run_history_eq_empty hother).mp fun before limit => ?_, ?_⟩
    · rw [← same.history, hhistory]
    · rw [same.unread, hunread] at hcount
      exact Except.ok.inj hcount
  · rintro (rfl | ⟨hdeleted, hcount⟩)
    · exact .refl
    by_cases hne : c = Pair.id low high
    · exact hne ▸ .refl
    obtain ⟨hmark, hhistory, hzero⟩ := otherwise hne
    refine ⟨fun upTo => ?_, fun before limit => ?_, ?_⟩
    · rw [hmark, Server.run_markRead_of_none hother fun m hm h => ?_]
      · exact ⟨rfl, rfl⟩
      · rw [hdeleted m hm h]
        rfl
    · rw [hhistory, (Server.run_history_eq_empty hother).mpr hdeleted]
    · rw [hzero, hunread]
      exact congrArg _ hcount.symm
  · obtain ⟨hmark, hhistory, hzero⟩ := otherwise hne
    exact ⟨fun upTo => ⟨by rw [hmark], by rw [hmark]; rfl⟩, hhistory, hzero⟩

/-- A leading zero is enough for a user not to find the message that waits. -/
theorem only_ids_name_conversations_with_leading_zero : ∃ t s,
    Run Server.StoreKept (System.start {} [.send ⟨1, 2, 1, "hello", none⟩] (Server.fresh [])) t s ∧
    ¬s.server.SameConversation 2 "01_2" (Pair.id 1 2) ∧
    (s.server.run (Messaging.history 2 "01_2" none none).run).1 = .ok ⟨[], false⟩ := by
  obtain ⟨t, run⟩ := Run.play .nil [0, 0]
  refine ⟨t, _, run, ?_⟩
  have hread : Pair.ofId? "01_2" = some (1, 2) := by decide +kernel
  obtain ⟨hsame, hotherwise⟩ := only_ids_name_conversations rfl run hread (.inr rfl)
  refine ⟨fun same => ?_, (hotherwise (by decide +kernel)).2.1 none none⟩
  rcases hsame.mp same with hid | ⟨-, hunread⟩
  · exact absurd hid (by decide +kernel)
  · exact absurd hunread (by decide +kernel)

/-- A message waits for a user, who marks the conversation as read by an id
with a leading zero: no message is found, the count is gone and the message
stays unread. By the id of the pair there is one. -/
theorem mark_read_with_leading_zero_loses_count : ∃ t s,
    Run Server.StoreKept (System.start {} [.send ⟨1, 2, 1, "hello", none⟩] (Server.fresh [])) t s ∧
    Pair.ofId? "01_2" = some (1, 2) ∧
    (s.server.run (Messaging.markRead 2 (Pair.id 1 2) none).run).1 = .ok 1 ∧
    (s.server.run (Messaging.markRead 2 "01_2" none).run).1 = .ok 0 ∧
    let behind := (s.server.run (Messaging.markRead 2 "01_2" none).run).2
    (s.server.run (Messaging.unread 2 (some (Pair.id 1 2))).run).1 = .ok 1 ∧
    (behind.run (Messaging.unread 2 (some (Pair.id 1 2))).run).1 = .ok 0 ∧
    behind.store.messages.map (·.status) = [.sent] := by
  obtain ⟨t, run⟩ := Run.play .nil [0, 0]
  refine ⟨t, _, run, ?_⟩
  decide +kernel

end System
end Parley
