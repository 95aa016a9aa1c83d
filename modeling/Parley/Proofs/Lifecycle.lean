/-
Messages stay, and their statuses only move forward.

The archive would move a message from any status to any other; what it is
asked for is what keeps the lifecycle. `Store.Grew` says that every message
is still where it was, and differs only in a later status and the time of
the change. It holds of each of the five changes, so of a step and of any
number of steps. An applied retirement leaves the message with a status
that it has reached for good (`Run.retired`), and this orders the
retirements of one message in time.
-/
import Parley.Proofs.Store.Change

namespace Parley

open Time (Instant)

/-! ## Statuses -/

theorem Status.canBecome_iff {a b : Status} :
    a.canBecome b = true ↔ a.toInt < b.toInt := by
  cases a <;> cases b <;> decide

theorem Status.canBecome_trans {a b c : Status} (hab : a.canBecome b = true)
    (hbc : b.canBecome c = true) : a.canBecome c = true := by
  rw [canBecome_iff] at *
  omega

theorem Status.not_canBecome_self (a : Status) : ¬a.canBecome a = true := by
  rw [canBecome_iff]
  omega

theorem Status.toInt_le {a b : Status} (h : b = a ∨ a.canBecome b = true) : a.toInt ≤ b.toInt := by
  rcases h with rfl | h
  · exact Int.le_refl _
  · exact Int.le_of_lt (canBecome_iff.mp h)

theorem Status.retired_of_le {s : Status} (h : Status.recalled.toInt ≤ s.toInt) :
    s = .recalled ∨ s = .deleted := by
  cases s <;> simp_all [toInt]

theorem Status.read_of_isUnread {a : Status} (h : a.isUnread = true) : a.canBecome .read = true := by
  cases a <;> simp_all [isUnread, canBecome]

/-! ## Messages -/

/-- The message as it was, or moved forward in its lifecycle at a later time. -/
def Message.Advanced (m m' : Message) : Prop :=
  m' = m ∨ m.status.canBecome m'.status = true ∧
    m' = { m with status := m'.status, updatedAt := m'.updatedAt }

namespace Message.Advanced

variable {m m' m'' : Message}

theorem refl (m : Message) : m.Advanced m := .inl rfl

theorem trans (h : m.Advanced m') (h' : m'.Advanced m'') : m.Advanced m'' := by
  rcases h with rfl | ⟨hs, h⟩
  · exact h'
  rcases h' with rfl | ⟨hs', h'⟩
  · exact .inr ⟨hs, h⟩
  · refine .inr ⟨Status.canBecome_trans hs hs', ?_⟩
    rw [h', h]

theorem id (h : m.Advanced m') : m'.id = m.id := by
  rcases h with rfl | ⟨-, h⟩
  · rfl
  · rw [h]

theorem status (h : m.Advanced m') : m'.status = m.status ∨ m.status.canBecome m'.status = true := by
  rcases h with rfl | ⟨hs, -⟩
  · exact .inl rfl
  · exact .inr hs

theorem moveIf {p : Message → Bool} {new : Status} (h : p m = true → m.status.canBecome new = true)
    (now : Instant) : m.Advanced (m.moveIf p new now) := by
  cases hp : p m with
  | true =>
    rw [Message.moveIf_of_pos hp]
    exact .inr ⟨h hp, rfl⟩
  | false =>
    rw [Message.moveIf_of_neg hp]
    exact .refl m

end Message.Advanced

/-! ## The archive -/

namespace Store

variable {s s' s'' : Store}

/-- Every message is still in its place, as it was or further on. -/
def Grew (s s' : Store) : Prop :=
  ∀ (i : Nat) m, s.messages[i]? = some m → ∃ m', s'.messages[i]? = some m' ∧ m.Advanced m'

theorem Grew.refl (s : Store) : s.Grew s := fun _ m hm => ⟨m, hm, .refl m⟩

theorem Grew.trans (h : s.Grew s') (h' : s'.Grew s'') : s.Grew s'' := by
  intro i m hm
  obtain ⟨m', hm', hadv⟩ := h i m hm
  obtain ⟨m'', hm'', hadv'⟩ := h' i m' hm'
  exact ⟨m'', hm'', hadv.trans hadv'⟩

theorem Grew.mem (h : s.Grew s') {m : Message} (hm : m ∈ s.messages) :
    ∃ m' ∈ s'.messages, m.Advanced m' := by
  obtain ⟨i, hi⟩ := List.getElem?_of_mem hm
  obtain ⟨m', hm', hadv⟩ := h i m hi
  exact ⟨m', List.mem_of_getElem? hm', hadv⟩

theorem Grew.of_moveWhere {p : Message → Bool} {new : Status} {now : Instant}
    (hmessages : s'.messages = (s.moveWhere p new now).messages)
    (h : ∀ m ∈ s.messages, p m = true → m.status.canBecome new = true) : s.Grew s' := by
  intro i m hm
  refine ⟨m.moveIf p new now, ?_, .moveIf (h m (List.mem_of_getElem? hm)) now⟩
  rw [hmessages, moveWhere, List.getElem?_map, hm]
  rfl

theorem messages_retired (s : Store) (m : Message) (target : Status) (now : Instant) :
    (s.retired m target now).messages = (s.moveWhere (·.id == m.id) target now).messages := by
  unfold retired
  simp only
  split <;> rfl

/-- **The five changes move messages forward only.** -/
theorem Change.grew (h : s.Sound) {asked : Archive.Ask → Prop} (change : Change asked s s') :
    s.Grew s' := by
  cases change with
  | none => exact .refl s
  | stored =>
    intro i m hm
    rw [add_eq]
    refine ⟨m, ?_, .refl m⟩
    exact (List.getElem?_append_left (List.getElem?_eq_some_iff.mp hm).1).trans hm
  | @delivered m now hm hs =>
    refine .of_moveWhere rfl fun n hn hid => ?_
    rw [h.eq_of_beq hm hn hid, hs]
    rfl
  | @retired m target now hm hs =>
    refine .of_moveWhere (messages_retired s m target now) fun n hn hid => ?_
    rw [h.eq_of_beq hm hn hid]
    exact hs
  | marked =>
    refine .of_moveWhere rfl fun n _ hreached => Status.read_of_isUnread ?_
    exact (reachedBy_iff.mp hreached).2.2.1

end Store

/-! ## Runs -/

/-- The archive showed a message as it held it then. -/
inductive Event.Shows (m : Message) : Event → Prop
  | stored {i : Nat} {draft : Draft} : Shows m ⟨i, .archive (.store draft), .ok m⟩
  | found {i : Nat} {id : Int} : Shows m ⟨i, .archive (.find id), .ok (some m)⟩
  | stale {i : Nat} {id : Int} {old target : Status} :
    Shows m ⟨i, .archive (.retire id old target), .ok (.stale m)⟩

/-- The archive applied a retirement of a message. -/
inductive Event.Retires (id : Int) (target : Status) : Event → Prop
  | mk {i : Nat} {old : Status} {m : Message} :
    Retires id target ⟨i, .archive (.retire id old target), .ok (.applied m)⟩

namespace System

variable {settings : MessageSettings} {calls : List Call} {server : Server Backend.memory}
  {t t' : List Event} {s s' : System} {e : Option Event}

theorem Run.grew (run : Run Server.StoreKept (System.start settings calls server) t s)
    (fresh : server.store = .empty) (more : Run Server.StoreKept s t' s') :
    s.store.Grew s'.store := by
  induction more with
  | nil => exact .refl _
  | step more step ih =>
    have run := run.trans more
    exact ih.trans ((run.change fresh step).grew (run.sound fresh))

theorem Run.shows_step (run : Run Server.StoreKept (System.start settings calls server) t s)
    (fresh : server.store = .empty) {e : Event} (step : Step Server.StoreKept s (some e) s') {m : Message}
    (he : e.Shows m) : m ∈ s'.store.messages := by
  rcases run.step_cases step with ⟨j, q, c, -, -, hevent, hstore⟩ | ⟨-, hnot⟩
  · rw [hstore]
    generalize hr : (Store.answer s.server.now q s.store).1 = r at hevent
    cases he with
    | stored =>
      cases hevent
      have hm : (s.store.add _ s.server.now).1 = m := Except.ok.inj hr
      change m ∈ (s.store.add _ s.server.now).2.messages
      rw [← hm, Store.add_eq]
      exact List.mem_append_right _ (List.mem_singleton_self _)
    | found =>
      cases hevent
      exact (Store.mem_of_message? (Except.ok.inj hr)).1
    | @stale _ id old target =>
      cases hevent
      have hm : (s.store.retire id old target s.server.now).1 = .stale m := Except.ok.inj hr
      change m ∈ (s.store.retire id old target s.server.now).2.messages
      rcases Store.retire_cases (run.sound fresh) id old target s.server.now with
        ⟨-, he⟩ | ⟨m', hm', -, -, he⟩ | ⟨m', -, -, -, he⟩ <;> rw [he] at hm ⊢ <;> cases hm
      exact hm'
  · cases he <;> exact absurd rfl (hnot _ _ _)

/-- **A message that was shown is still there**, as it was or further on. -/
theorem Run.shown (run : Run Server.StoreKept (System.start settings calls server) t s)
    (fresh : server.store = .empty) {m : Message} :
    ∀ e ∈ t, e.Shows m → ∃ m' ∈ s.store.messages, m.Advanced m' := by
  induction run with
  | nil => simp
  | @step t s s' e run step ih =>
    intro e' he' hshows
    rcases List.mem_append.mp he' with hnew | hold
    · obtain rfl : e = some e' := by simpa using hnew
      exact ⟨m, run.shows_step fresh step hshows, .refl m⟩
    · obtain ⟨m', hm', hadv⟩ := ih e' hold hshows
      obtain ⟨m'', hm'', hadv'⟩ := ((run.change fresh step).grew (run.sound fresh)).mem hm'
      exact ⟨m'', hm'', hadv.trans hadv'⟩

theorem Run.retires_step (run : Run Server.StoreKept (System.start settings calls server) t s)
    (fresh : server.store = .empty) {e : Event} (step : Step Server.StoreKept s (some e) s') {id : Int}
    {target : Status} (he : e.Retires id target) :
    (∃ m ∈ s.store.messages, m.id = id ∧ m.status.canBecome target = true) ∧
      ∃ m ∈ s'.store.messages, m.id = id ∧ m.status = target := by
  obtain @⟨i, old, m⟩ := he
  rcases run.step_cases step with ⟨j, q, c, hc, hask, hevent, hstore⟩ | ⟨-, hnot⟩
  · generalize hr : (Store.answer s.server.now q s.store).1 = r at hevent
    cases hevent
    have lawful := Asked.lawful ⟨c, hc, hask⟩
    have hreply : (s.store.retire id old target s.server.now).1 = .applied m := Except.ok.inj hr
    rcases Store.retire_cases (run.sound fresh) id old target s.server.now with
      ⟨-, he⟩ | ⟨m, -, -, -, he⟩ | ⟨m, hm, hid, hs, he⟩
    · simp [he] at hreply
    · simp [he] at hreply
    · refine ⟨⟨m, hm, hid, hs ▸ lawful.1⟩, m.move target s.server.now, ?_, hid, rfl⟩
      rw [hstore]
      change m.move target s.server.now ∈ (s.store.retire id old target s.server.now).2.messages
      rw [he, Store.messages_retired, Store.mem_moveWhere]
      exact ⟨m, hm, Message.moveIf_of_pos (by simp)⟩
  · exact absurd rfl (hnot _ _ _)

theorem Run.retired (run : Run Server.StoreKept (System.start settings calls server) t s)
    (fresh : server.store = .empty) {id : Int} {target : Status} :
    ∀ e ∈ t, e.Retires id target → ∃ m ∈ s.store.messages, m.id = id ∧
      (m.status = target ∨ target.canBecome m.status = true) := by
  induction run with
  | nil => simp
  | @step t s s' e run step ih =>
    intro e' he' hretires
    rcases List.mem_append.mp he' with hnew | hold
    · obtain rfl : e = some e' := by simpa using hnew
      obtain ⟨-, m, hm, hid, hs⟩ := run.retires_step fresh step hretires
      exact ⟨m, hm, hid, .inl hs⟩
    · obtain ⟨m, hm, hid, hs⟩ := ih e' hold hretires
      obtain ⟨m', hm', hadv⟩ := ((run.change fresh step).grew (run.sound fresh)).mem hm
      refine ⟨m', hm', hadv.id.trans hid, ?_⟩
      rcases hs with rfl | hs
      · exact hadv.status
      · rcases hadv.status with he | hs'
        · exact .inr (he ▸ hs)
        · exact .inr (Status.canBecome_trans hs hs')

/-- **The retirements of a message move it forward**, the earlier ones
first. -/
theorem Run.retirements (run : Run Server.StoreKept (System.start settings calls server) t s)
    (fresh : server.store = .empty) : t.Pairwise fun later earlier => ∀ id a b,
      earlier.Retires id a → later.Retires id b → a.canBecome b = true := by
  induction run with
  | nil => exact .nil
  | @step t s s' e run step ih =>
    cases e with
    | none => exact ih
    | some e =>
      refine List.pairwise_cons.mpr ⟨fun e' he' id a b hearlier hlater => ?_, ih⟩
      obtain ⟨m, hm, hid, hs⟩ := run.retired fresh e' he' hearlier
      obtain ⟨⟨m', hm', hid', hs'⟩, -⟩ := run.retires_step fresh step hlater
      obtain rfl : m' = m := (run.sound fresh).eq_of_id hm' hm (hid'.trans hid.symm)
      rcases hs with rfl | hs
      · exact hs'
      · exact Status.canBecome_trans hs hs'

theorem Run.retires_of_ended (run : Run Server.StoreKept (System.start settings calls server) t s)
    {i : Nat} {c : Call} {a : c.Answer} (hi : s.callers[i]? = some ⟨c, .done (.ok a)⟩) {id : Int}
    {target : Status} (hends : ∀ A, c.Ends A (.ok a) →
      ∃ old m, A (.archive (.retire id old target)) (.ok (.applied m))) :
    ∃ e ∈ t, e.caller = i ∧ e.Retires id target := by
  obtain ⟨old, m, -, happlied⟩ := hends _ (run.ended hi)
  exact ⟨_, happlied, rfl, .mk⟩

theorem Run.retires_once (run : Run Server.StoreKept (System.start settings calls server) t s)
    (fresh : server.store = .empty) {id : Int} {target : Status} {e e' : Event} (he : e ∈ t)
    (he' : e' ∈ t) (hretires : e.Retires id target) (hretires' : e'.Retires id target) : e = e' := by
  have honce : t.Pairwise fun later earlier =>
      ¬(later.Retires id target ∧ earlier.Retires id target) := by
    refine (run.retirements fresh).imp fun h ⟨hlater, hearlier⟩ => ?_
    exact Status.not_canBecome_self target (h id target target hearlier hlater)
  exact Event.eq_of_pairwise honce (fun _ _ => And.symm) he he' ⟨hretires, hretires'⟩

theorem Run.late_delivery (run : Run Server.StoreKept (System.start settings calls server) t s)
    (fresh : server.store = .empty) {i : Nat} {id : Int} {old new : Status}
    {r : Surroundings.signature.Reply (.archive (.transition id old new))}
    (step : Step Server.StoreKept s (some ⟨i, .archive (.transition id old new), r⟩) s')
    {m : Message} (hm : m ∈ s.store.messages) (hid : m.id = id) (hs : m.status ≠ .sent) :
    s'.store = s.store := by
  rcases run.step_cases step with ⟨j, q, c, hc, hask, hevent, hstore⟩ | ⟨-, hnot⟩
  · generalize (Store.answer s.server.now q s.store).1 = r at hevent
    cases hevent
    obtain ⟨rfl, rfl⟩ := Asked.lawful ⟨c, hc, hask⟩
    rw [hstore]
    change (s.store.transition id .sent .delivered s.server.now).2 = s.store
    subst hid
    unfold Store.transition
    simp only [(run.sound fresh).message?_eq hm, hs, if_false]
  · exact absurd rfl (hnot _ _ _)

/-- **The messages stay and only advance.** However the calls take turns,
a step leaves every message where it is and changes at most its status, as
the lifecycle allows, with the time of the change. So does what follows. A
message is recalled by one call at most and deleted by one call at most,
and not recalled after it was deleted. Noting that a message was delivered
leaves a later status alone. -/
theorem messages_only_advance (fresh : server.store = .empty)
    (run : Run Server.StoreKept (System.start settings calls server) t s) :
    (∀ e s', Step Server.StoreKept s e s' → s.store.Grew s'.store) ∧
    (∀ t' s', Run Server.StoreKept s t' s' → s.store.Grew s'.store) ∧
    (∀ (i j : Nat) user user' id m m', s.callers[i]? = some ⟨.recallMessage user id, .done (.ok m)⟩ →
      s.callers[j]? = some ⟨.recallMessage user' id, .done (.ok m')⟩ → i = j) ∧
    (∀ (i j : Nat) user user' id, s.callers[i]? = some ⟨.deleteMessage user id, .done (.ok ())⟩ →
      s.callers[j]? = some ⟨.deleteMessage user' id, .done (.ok ())⟩ → i = j) ∧
    (t.Pairwise fun later earlier => ∀ id,
      earlier.Retires id .deleted → ¬later.Retires id .recalled) ∧
    (∀ i id old new r s', Step Server.StoreKept s (some ⟨i, .archive (.transition id old new), r⟩) s' →
      ∀ m ∈ s.store.messages, m.id = id → m.status ≠ .sent → s'.store = s.store) := by
  refine ⟨fun e s' step => run.grew fresh (.step .nil step), fun t' s' more => run.grew fresh more,
    ?_, ?_, ?_, fun i id old new r s' step m hm hid hs => run.late_delivery fresh step hm hid hs⟩
  · intro i j user user' id m m' hi hj
    obtain ⟨e, he, rfl, hretires⟩ := run.retires_of_ended hi fun A h => h
    obtain ⟨e', he', rfl, hretires'⟩ := run.retires_of_ended hj fun A h => h
    rw [run.retires_once fresh he he' hretires hretires']
  · intro i j user user' id hi hj
    obtain ⟨e, he, rfl, hretires⟩ := run.retires_of_ended hi fun A h => h
    obtain ⟨e', he', rfl, hretires'⟩ := run.retires_of_ended hj fun A h => h
    rw [run.retires_once fresh he he' hretires hretires']
  · refine (run.retirements fresh).imp fun h id hearlier hlater => ?_
    have := h id .deleted .recalled hearlier hlater
    simp [Status.canBecome] at this

/-- A message that was deleted before it was noted as delivered, while it was
being recalled, stays deleted whatever follows. -/
theorem messages_only_advance_after_deletion : ∃ t s,
    Run Server.StoreKept
      (System.start {} [.send ⟨1, 2, 1, "hello", none⟩, .recallMessage 1 1, .deleteMessage 2 1]
        (Server.fresh [2])) t s ∧
    s.store.messages.map (·.status) = [.deleted] ∧
    ∀ t' s', Run Server.StoreKept s t' s' →
      ∃ m, s'.store.messages[0]? = some m ∧ m.status = .deleted := by
  obtain ⟨t, run⟩ := Run.play .nil [0, 0, 0, 1, 2, 2, 1, 1, 0, 1, 2]
  refine ⟨t, _, run, (and_iff_left_of_imp fun hdeleted t' s' more => ?_).mpr (by decide +kernel)⟩
  obtain ⟨m, hm, hs⟩ := List.map_eq_singleton_iff.mp hdeleted
  obtain ⟨m', hm', hadv⟩ := (messages_only_advance rfl run).2.1 t' s' more 0 m (by rw [hm]; rfl)
  refine ⟨m', hm', ?_⟩
  rcases hadv.status with he | hbecomes
  · rw [he, hs]
  · rw [hs] at hbecomes
    cases m'.status <;> simp [Status.canBecome] at hbecomes

end System
end Parley
