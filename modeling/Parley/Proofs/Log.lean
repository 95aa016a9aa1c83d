/-
What was stored stays in storing order.

Only storing adds anything to the archive, and nothing takes anything away.
`Store.outline` leaves out of the archive what reading and retiring change:
the statuses of messages, and what rows show and count. A step of a run
stores one message or keeps the outline (`Run.stores_or_keeps`), so a
property of the outline is shown for all runs by looking at storing alone
(`Run.outline_invariant`), and the messages are those that were stored, one
after another (`Run.log`).
-/
import Parley.Proofs.Store.Change

namespace Parley

open Time (Instant)

/-- What stays of a message for good. -/
def Message.fixed (m : Message) : Message := m.move .sent m.createdAt

/-- What reading and retiring leave of a row. -/
def Conversation.side (r : Conversation) : Conversation := { r.pointAt none with unread := 0 }

@[simp] theorem Message.fixed_moveIf {p : Message → Bool} {new : Status} {now : Instant} {m : Message} :
    (m.moveIf p new now).fixed = m.fixed := by
  unfold moveIf
  split <;> rfl

@[simp] theorem Conversation.side_unread {r : Conversation} {unread : Int} :
    Conversation.side { r with unread := unread } = r.side := rfl

namespace Store

variable {s s' : Store}

/-- What reading and retiring leave of the archive. -/
def outline (s : Store) : Store :=
  { s with messages := s.messages.map Message.fixed, rows := s.rows.map Conversation.side }

@[simp] theorem outline_moveWhere {p : Message → Bool} {new : Status} {now : Instant} :
    (s.moveWhere p new now).outline = s.outline := by
  simp [outline, moveWhere, Function.comp_def]

theorem outline_mapRows {f : Conversation → Conversation} (hf : ∀ r, (f r).side = r.side) :
    outline { s with rows := s.rows.map f } = s.outline := by
  simp [outline, Function.comp_def, hf]

@[simp] theorem outline_recountUnread {conversation : String} {owner peer : UserId} :
    (s.recountUnread conversation owner peer).outline = s.outline :=
  outline_mapRows fun r => by
    rw [apply_ite Conversation.side, Conversation.side_unread, ite_self]

@[simp] theorem outline_repointRows {conversation : String} {retired : Int} :
    (s.repointRows conversation retired).outline = s.outline :=
  outline_mapRows fun r => by split <;> rfl

theorem Change.keeps_or_stores {asked : Archive.Ask → Prop} (change : Change asked s s') :
    s'.outline = s.outline ∨
      ∃ draft now, asked (.store draft) ∧ s' = (s.add draft now).2 := by
  cases change with
  | none => exact .inl rfl
  | stored h => exact .inr ⟨_, _, h, rfl⟩
  | delivered => exact .inl outline_moveWhere
  | retired =>
    refine .inl ?_
    unfold Store.retired
    simp only
    split <;> simp
  | marked => exact .inl (by simp [Store.marked])

end Store

/-! ## Runs -/

/-- The message that was stored at a turn. -/
def Event.stored? : Event → Option Message
  | ⟨_, .archive (.store _), .ok m⟩ => some m
  | _ => none

namespace System

variable {settings : MessageSettings} {calls : List Call} {server : Server Backend.memory}
  {t : List Event} {s s' : System} {e : Option Event}

/-- **A step stores a message or keeps the outline of the archive.** -/
theorem Run.stores_or_keeps (run : Run Server.StoreKept (System.start settings calls server) t s)
    (fresh : server.store = .empty) (step : Step Server.StoreKept s e s') :
    (∃ draft, Asked settings calls (.store draft) ∧
      e.bind Event.stored? = some (s.store.messageOf draft s.server.now) ∧
      s'.store = (s.store.add draft s.server.now).2) ∨
    (e.bind Event.stored? = none ∧ s'.store.outline = s.store.outline) := by
  rcases run.step_cases step with ⟨i, q, c, hc, hask, rfl, hstore⟩ | ⟨hstore, hnot⟩
  · have hasked : Asked settings calls q := ⟨c, hc, hask⟩
    rw [hstore]
    cases q with
    | store draft =>
      refine .inl ⟨draft, hasked, ?_, rfl⟩
      change some (s.store.add draft s.server.now).1 = _
      rw [Store.add_eq]
    | _ =>
      refine .inr ⟨rfl, ?_⟩
      have change : Store.Change (Eq _) s.store _ :=
        Store.answer_change (run.sound fresh) rfl hasked.lawful s.server.now
      exact change.keeps_or_stores.resolve_right fun ⟨_, _, h, _⟩ => nomatch h
  · refine .inr ⟨?_, by rw [hstore]⟩
    match e with
    | none => rfl
    | some ⟨i, .archive q, r⟩ => exact absurd rfl (hnot i q r)
    | some ⟨_, .areFriends _ _, _⟩ | some ⟨_, .profile _, _⟩ | some ⟨_, .time, _⟩
    | some ⟨_, .offer _ _, _⟩ | some ⟨_, .isOnline _, _⟩ | some ⟨_, .stats, _⟩
    | some ⟨_, .openSession _, _⟩ | some ⟨_, .closeSession _, _⟩ | some ⟨_, .touch _, _⟩ => rfl

theorem Run.outline_invariant {I : Store → Prop}
    (run : Run Server.StoreKept (System.start settings calls server) t s)
    (fresh : server.store = .empty) (hI : I .empty) (outline : ∀ s : Store, I s.outline ↔ I s)
    (add : ∀ s draft now, s.Sound → I s → Asked settings calls (.store draft) →
      I (s.add draft now).2) : I s.store := by
  refine run.invariant fresh hI fun s s' hs hI change => ?_
  rcases change.keeps_or_stores with hkept | ⟨draft, now, hasked, rfl⟩
  · rw [← outline, hkept, outline]
    exact hI
  · exact add s draft now hs hI hasked

/-- **The archive holds what was stored, in storing order.** -/
theorem Run.log (run : Run Server.StoreKept (System.start settings calls server) t s)
    (fresh : server.store = .empty) :
    s.store.messages.map Message.fixed = t.reverse.filterMap Event.stored? := by
  induction run with
  | nil =>
    change server.store.messages.map Message.fixed = []
    rw [fresh]
    rfl
  | @step t s s' e run step ih =>
    rw [List.reverse_append, List.filterMap_append, ← ih]
    have hnew : e.toList.reverse.filterMap Event.stored? = (e.bind Event.stored?).toList := by
      cases e with
      | none => rfl
      | some e => cases h : e.stored? <;> simp [h]
    rw [hnew]
    rcases run.stores_or_keeps fresh step with ⟨draft, -, hstored, hstore⟩ | ⟨hstored, hkept⟩
    · rw [hstored, hstore, Store.add_eq]
      exact List.map_append
    · rw [hstored, Option.toList_none, List.append_nil]
      exact congrArg Store.messages hkept

theorem Run.stored_of_mem (run : Run Server.StoreKept (System.start settings calls server) t s)
    (fresh : server.store = .empty) {m : Message} (hm : m ∈ s.store.messages) :
    ∃ e ∈ t, e.stored? = some m.fixed := by
  have hfixed := List.mem_map_of_mem (f := Message.fixed) hm
  rw [run.log fresh, List.mem_filterMap] at hfixed
  obtain ⟨e, he, hstored⟩ := hfixed
  exact ⟨e, List.mem_reverse.mp he, hstored⟩

theorem Run.stored_once (run : Run Server.StoreKept (System.start settings calls server) t s)
    (fresh : server.store = .empty) {e e' : Event} (he : e ∈ t) (he' : e' ∈ t) {m n : Message}
    (hm : e.stored? = some m) (hn : e'.stored? = some n) (hid : m.id = n.id) : e = e' := by
  have hids : (t.filterMap Event.stored?).Pairwise fun m n => m.id ≠ n.id := by
    have hdistinct : (s.store.messages.map Message.fixed).Pairwise fun m n => m.id ≠ n.id :=
      List.pairwise_map.mpr (List.pairwise_map.mp (run.sound fresh).idsDistinct)
    rw [run.log fresh, List.filterMap_reverse, List.pairwise_reverse] at hdistinct
    exact hdistinct.imp Ne.symm
  have honce : t.Pairwise fun e e' =>
      ¬∃ m n, e.stored? = some m ∧ e'.stored? = some n ∧ m.id = n.id := by
    refine (List.pairwise_filterMap.mp hids).imp ?_
    rintro e e' h ⟨m, n, hm, hn, hid⟩
    exact h m hm n hn hid
  refine Event.eq_of_pairwise honce ?_ he he' ⟨m, n, hm, hn, hid⟩
  rintro e e' ⟨m, n, hm, hn, hid⟩
  exact ⟨n, m, hn, hm, hid.symm⟩

end System
end Parley
