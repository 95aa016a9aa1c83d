/-
The changes that the calls of the service make in the archive in memory.

`Store.Change` lists the five things that one question can do to the
archive (`answer_change`). `System.Run.change` reads every step of a run as
one of them, so a property of the archive is shown for all runs by going
through the five (`System.Run.invariant`).
-/
import Parley.Proofs.Turns

namespace Parley

open Time (Instant)

namespace Store

variable {s : Store}

/-! ## Storing a message -/

/-- The archive with the rows of the pair of a draft. -/
def withRows (s : Store) (draft : Draft) (now : Instant) : Store :=
  (s.ensureRow draft.sender draft.recipient draft.conversation now).ensureRow draft.recipient
    draft.sender draft.conversation now

/-- The message that a draft becomes. -/
def messageOf (s : Store) (draft : Draft) (now : Instant) : Message :=
  { id := s.lastMessage + 1, sender := draft.sender, recipient := draft.recipient,
    conversation := draft.conversation, kind := draft.kind, content := draft.content,
    extra := draft.extra, status := .sent, seq := s.counter draft.conversation + 1,
    createdAt := now, updatedAt := now }

/-- A row that points at a message that was just stored. -/
def showing (m : Message) (r : Conversation) : Conversation :=
  { r with
    lastId := some m.id, lastContent := some m.content, lastTime := some m.createdAt,
    updatedAt := m.createdAt }

/-- What storing a message makes of a row. -/
def afterStoring (m : Message) (r : Conversation) : Conversation :=
  if r.ownerKey = Pair.ownerKey m.recipient m.sender then
    { showing m r with unread := wrapCount (r.unread + 1) }
  else if r.ownerKey = Pair.ownerKey m.sender m.recipient then showing m r
  else r

theorem afterStoring_keepsOwner (m : Message) : KeepsOwner (afterStoring m) := by
  constructor <;> intro r <;> unfold afterStoring <;> split
  · rfl
  · split <;> rfl
  · rfl
  · split <;> rfl
  · rfl
  · split <;> rfl
  · rfl
  · split <;> rfl

@[simp] theorem messages_withRows {draft : Draft} {now : Instant} :
    (s.withRows draft now).messages = s.messages := by simp [withRows]

@[simp] theorem lastMessage_withRows {draft : Draft} {now : Instant} :
    (s.withRows draft now).lastMessage = s.lastMessage := by simp [withRows]

theorem messageOf_withRows (s : Store) (draft : Draft) (now : Instant) :
    (s.withRows draft now).messageOf draft now = s.messageOf draft now := by
  have hcounter : (s.withRows draft now).counter draft.conversation = s.counter draft.conversation := by
    simp [withRows, counter]
  simp only [messageOf, lastMessage_withRows, hcounter]

/-- **Storing** makes the rows, puts the message at the end and changes the
rows of its pair. -/
theorem add_eq (s : Store) (draft : Draft) (now : Instant) :
    s.add draft now = (s.messageOf draft now,
      { s.withRows draft now with
        messages := s.messages ++ [s.messageOf draft now]
        counters := bump draft.conversation s.counters
        lastMessage := (s.messageOf draft now).id
        rows := (s.withRows draft now).rows.map (afterStoring (s.messageOf draft now)) }) := by
  have hm := messageOf_withRows s draft now
  simp only [add, updateRow, List.map_map, Prod.mk.injEq]
  refine ⟨hm, ?_⟩
  congr 1
  · simp only [messages_ensureRow]
    rw [← hm]
    rfl
  · refine List.map_congr_left fun r _ => ?_
    rw [← hm]
    simp only [Function.comp, afterStoring, showing, messageOf, withRows, beq_iff_eq]
    by_cases hr : r.ownerKey = Pair.ownerKey draft.recipient draft.sender
    · by_cases hs : Pair.ownerKey draft.recipient draft.sender = Pair.ownerKey draft.sender draft.recipient <;>
        simp [hr, hs]
    · by_cases hs : r.ownerKey = Pair.ownerKey draft.sender draft.recipient
      · have hne : Pair.ownerKey draft.sender draft.recipient ≠ Pair.ownerKey draft.recipient draft.sender :=
          fun he => hr (hs.trans he)
        simp [hs, hne]
      · simp [hr, hs]
  · simp only [counters_ensureRow]
  · simp only [lastMessage_ensureRow]
    rfl

theorem Sound.withRows (h : s.Sound) (draft : Draft) (now : Instant) :
    (s.withRows draft now).Sound ∧
      Pair.ownerKey draft.sender draft.recipient ∈ (s.withRows draft now).keys ∧
      Pair.ownerKey draft.recipient draft.sender ∈ (s.withRows draft now).keys :=
  ⟨(h.ensureRow rfl now).ensureRow (Pair.id_comm _ _) now,
    keys_subset_ensureRow _ _ _ _ _ mem_keys_ensureRow, mem_keys_ensureRow⟩

theorem mem_withRows {draft : Draft} {now : Instant} {r : Conversation}
    (h : r ∈ (s.withRows draft now).rows) : r ∈ s.rows ∨ r.conversation = draft.conversation := by
  have hensure : ∀ {s : Store} {owner peer : UserId},
      r ∈ (s.ensureRow owner peer draft.conversation now).rows →
        r ∈ s.rows ∨ r.conversation = draft.conversation := by
    intro s owner peer hr
    rcases ensureRow_cases s owner peer draft.conversation now with ⟨-, he⟩ | ⟨-, he⟩ <;> rw [he] at hr
    · exact .inl hr
    · exact (List.mem_append.mp hr).imp_right fun hr => by rw [List.mem_singleton.mp hr]; rfl
  exact (hensure h).elim hensure .inr

theorem Sound.afterStoring_cases (h : s.Sound) {r : Conversation} (hr : r ∈ s.rows) {m : Message}
    (hname : m.conversation = Pair.id m.sender m.recipient) :
    (r.conversation = m.conversation ∧
      ∃ unread, afterStoring m r = { showing m r with unread := unread }) ∨
    (r.conversation ≠ m.conversation ∧ afterStoring m r = r) := by
  obtain ⟨hkey, hconv⟩ := h.owned r hr
  unfold afterStoring
  by_cases hrecipient : r.ownerKey = Pair.ownerKey m.recipient m.sender
  · obtain ⟨ho, hpeer⟩ := h.owner_peer hr hrecipient
    rw [if_pos hrecipient]
    exact .inl ⟨by rw [hconv, hname, ho, hpeer, Pair.id_comm], _, rfl⟩
  rw [if_neg hrecipient]
  by_cases hsender : r.ownerKey = Pair.ownerKey m.sender m.recipient
  · obtain ⟨ho, hpeer⟩ := h.owner_peer hr hsender
    rw [if_pos hsender]
    exact .inl ⟨by rw [hconv, hname, ho, hpeer], r.unread, rfl⟩
  rw [if_neg hsender]
  refine .inr ⟨fun hc => ?_, rfl⟩
  rw [hconv, hname, Pair.id_eq_id_iff] at hc
  rcases hc with ⟨ho, hpeer⟩ | ⟨ho, hpeer⟩
  · exact hsender (by rw [hkey, ho, hpeer])
  · exact hrecipient (by rw [hkey, ho, hpeer])

theorem Sound.add (h : s.Sound) (draft : Draft) (now : Instant) : (s.add draft now).2.Sound := by
  obtain ⟨hrows, hsender, hrecipient⟩ := h.withRows draft now
  have hid : (s.withRows draft now).lastMessage < (s.messageOf draft now).id := by
    simp only [lastMessage_withRows, messageOf]
    omega
  have := (hrows.append hid rfl hsender hrecipient (bump draft.conversation s.counters)).mapRows
    (afterStoring_keepsOwner (s.messageOf draft now))
  rw [add_eq]
  simpa only [messages_withRows] using this

/-! ## The five changes -/

/-- The archive after a message was retired. -/
def retired (s : Store) (m : Message) (target : Status) (now : Instant) : Store :=
  let s := (s.moveWhere (·.id == m.id) target now).repointRows m.conversation m.id
  if m.status.isUnread then s.recountUnread m.conversation m.recipient m.sender else s

/-- The archive after messages were marked as read. -/
def marked (s : Store) (reader peer : UserId) (conversation : String) (upTo : Option Int)
    (now : Instant) : Store :=
  (s.moveWhere (reachedBy reader conversation upTo) .read now).recountUnread conversation reader peer

/-- What one of the questions that are asked can do to the archive. -/
inductive Change (asked : Archive.Ask → Prop) (s : Store) : Store → Prop
  | none : Change asked s s
  | stored {draft : Draft} {now : Instant} (h : asked (.store draft)) :
    Change asked s (s.add draft now).2
  | delivered {m : Message} {now : Instant} (hm : m ∈ s.messages) (hs : m.status = .sent) :
    Change asked s (s.moveWhere (·.id == m.id) .delivered now)
  | retired {m : Message} {target : Status} {now : Instant} (hm : m ∈ s.messages)
    (hs : m.status.canBecome target = true) (ht : target = .recalled ∨ target = .deleted) :
    Change asked s (s.retired m target now)
  | marked {reader peer : UserId} {conversation : String} {upTo : Option Int} {now : Instant}
    (h : asked (.markRead reader conversation upTo))
    (hp : Pair.counterpart? conversation reader = some peer) :
    Change asked s (s.marked reader peer conversation upTo now)

/-- The changes of statuses that the service asks for. -/
def Lawful : Archive.Ask → Prop
  | .transition _ old new => old = .sent ∧ new = .delivered
  | .retire _ old new => old.canBecome new = true ∧ (new = .recalled ∨ new = .deleted)
  | _ => True

theorem Sound.updateMessage_eq (h : s.Sound) {m : Message} (hm : m ∈ s.messages) (new : Status)
    (now : Instant) : s.updateMessage m.id (fun _ => m.move new now) =
      s.moveWhere (·.id == m.id) new now := by
  unfold updateMessage Store.moveWhere
  congr 1
  refine List.map_congr_left fun n hn => ?_
  by_cases he : n.id = m.id
  · simp [Message.moveIf, h.eq_of_id hn hm he]
  · simp [Message.moveIf, he]

theorem transition_change {asked : Archive.Ask → Prop} (id : Int) (now : Instant) :
    Change asked s (s.transition id .sent .delivered now).2 := by
  unfold transition
  cases hm : s.message? id with
  | none => exact .none
  | some m =>
    obtain ⟨hmem, rfl⟩ := mem_of_message? hm
    simp only
    split
    · next hs => exact .delivered hmem hs
    · exact .none

theorem retire_cases (h : s.Sound) (id : Int) (old new : Status) (now : Instant) :
    (s.message? id = none ∧ s.retire id old new now = (.missing, s)) ∨
      (∃ m ∈ s.messages, m.id = id ∧ m.status ≠ old ∧ s.retire id old new now = (.stale m, s)) ∨
      ∃ m ∈ s.messages, m.id = id ∧ m.status = old ∧
        s.retire id old new now = (.applied (m.move new now), s.retired m new now) := by
  unfold retire
  cases hm : s.message? id with
  | none => exact .inl ⟨rfl, rfl⟩
  | some m =>
    obtain ⟨hmem, rfl⟩ := mem_of_message? hm
    simp only
    split
    · next hs =>
      refine .inr (.inr ⟨m, hmem, rfl, hs, ?_⟩)
      rw [Store.retired, ← h.updateMessage_eq hmem, ← hs]
      rfl
    · next hs => exact .inr (.inl ⟨m, hmem, rfl, hs, rfl⟩)

theorem retire_change (h : s.Sound) {asked : Archive.Ask → Prop} (id : Int) {old new : Status}
    (hold : old.canBecome new = true) (hnew : new = .recalled ∨ new = .deleted) (now : Instant) :
    Change asked s (s.retire id old new now).2 := by
  rcases retire_cases h id old new now with ⟨-, he⟩ | ⟨m, -, -, -, he⟩ | ⟨m, hm, -, rfl, he⟩ <;> rw [he]
  · exact .none
  · exact .none
  · exact .retired hm hold hnew

theorem markRead_eq {reader peer : UserId} {conversation : String}
    (hp : Pair.counterpart? conversation reader = some peer) (upTo : Option Int) (now : Instant) :
    s.markRead reader conversation upTo now =
      (.ok (s.messages.countP (reachedBy reader conversation upTo)), s.marked reader peer conversation upTo now) := by
  unfold markRead
  rw [hp, List.countP_eq_length_filter]
  rfl

theorem markRead_eq_error {reader : UserId} {conversation : String}
    (hp : Pair.counterpart? conversation reader = none) (upTo : Option Int) (now : Instant) :
    s.markRead reader conversation upTo now = (.error .notParticipant, s) := by
  unfold markRead
  rw [hp]

theorem markRead_change {asked : Archive.Ask → Prop} {reader : UserId} {conversation : String}
    {upTo : Option Int} (h : asked (.markRead reader conversation upTo)) (now : Instant) :
    Change asked s (s.markRead reader conversation upTo now).2 := by
  cases hp : Pair.counterpart? conversation reader with
  | none =>
    rw [markRead_eq_error hp]
    exact .none
  | some peer =>
    rw [markRead_eq hp]
    exact .marked h hp

/-- **An answer makes one of the five changes.** -/
theorem answer_change (h : s.Sound) {asked : Archive.Ask → Prop} {q : Archive.Ask} (hq : asked q)
    (lawful : Lawful q) (now : Instant) : Change asked s (Store.answer now q s).2 := by
  cases q with
  | store draft => exact .stored hq
  | transition id old new =>
    obtain ⟨rfl, rfl⟩ := lawful
    exact transition_change id now
  | retire id old new => exact retire_change h id lawful.1 lawful.2 now
  | markRead reader conversation upTo => exact markRead_change hq now
  | _ => exact .none

theorem Change.sound (h : s.Sound) {asked : Archive.Ask → Prop} {s' : Store}
    (change : Change asked s s') : s'.Sound := by
  cases change with
  | none => exact h
  | stored => exact h.add _ _
  | delivered => exact h.moveWhere _ _ _
  | retired =>
    unfold Store.retired
    simp only
    split
    · exact ((h.moveWhere _ _ _).repointRows _ _).recountUnread _ _ _
    · exact (h.moveWhere _ _ _).repointRows _ _
  | marked => exact (h.moveWhere _ _ _).recountUnread _ _ _

end Store

namespace System

variable {settings : MessageSettings} {calls : List Call} {server : Server Backend.memory}
  {t : List Event} {s s' : System} {e : Option Event}

/-- What one of the calls may ask of the archive. -/
def Asked (settings : MessageSettings) (calls : List Call) (q : Archive.Ask) : Prop :=
  ∃ c ∈ calls, c.MayAsk settings (.archive q)

theorem Asked.lawful {q : Archive.Ask} (h : Asked settings calls q) : Store.Lawful q := by
  obtain ⟨c, -, hask⟩ := h
  cases q with
  | transition id old new => cases c <;> simp_all [Call.MayAsk, Store.Lawful]
  | retire id old new => cases c <;> simp_all [Call.MayAsk, Store.Lawful]
  | _ => trivial

theorem Run.sound (run : Run Server.StoreKept (System.start settings calls server) t s)
    (fresh : server.store = .empty) : s.store.Sound := by
  refine run.store_invariant (fresh ▸ Store.Sound.empty) fun c hc q hask now s hs => ?_
  have hasked : Asked settings calls q := ⟨c, hc, hask⟩
  exact (Store.answer_change hs hasked hasked.lawful now).sound hs

theorem Run.change (run : Run Server.StoreKept (System.start settings calls server) t s)
    (fresh : server.store = .empty) (step : Step Server.StoreKept s e s') :
    Store.Change (Asked settings calls) s.store s'.store := by
  rcases run.step_cases step with ⟨i, q, c, hc, hask, -, hstore⟩ | ⟨hstore, -⟩
  · rw [hstore]
    have hasked : Asked settings calls q := ⟨c, hc, hask⟩
    exact Store.answer_change (run.sound fresh) hasked hasked.lawful _
  · rw [hstore]
    exact .none

/-- **What the five changes keep holds after every run.** -/
theorem Run.invariant {I : Store → Prop}
    (run : Run Server.StoreKept (System.start settings calls server) t s)
    (fresh : server.store = .empty) (hI : I .empty)
    (changes : ∀ s s', s.Sound → I s → Store.Change (Asked settings calls) s s' → I s') :
    I s.store := by
  induction run with
  | nil =>
    show I server.store
    rw [fresh]
    exact hI
  | step run step ih => exact changes _ _ (run.sound fresh) ih (run.change fresh step)

end System
end Parley
