/-
What keeps the parts of the archive in memory together.

`Sound` is kept by the four ways in which the archive changes: a new row
(`ensureRow`), a new message at the end (`Sound.append`), rows changed in
place (`Sound.mapRows`), and messages moved to another status
(`Sound.moveWhere`).
-/
import Mathlib.Data.List.Nodup
import Parley.Proofs.Keys
import Parley.Store

namespace Parley

open Time (Instant)

/-! ## Moving messages -/

/-- The message with another status. -/
def Message.move (m : Message) (new : Status) (now : Instant) : Message :=
  { m with status := new, updatedAt := now }

/-- The message with another status, if it is meant. -/
def Message.moveIf (p : Message → Bool) (new : Status) (now : Instant) (m : Message) : Message :=
  if p m then m.move new now else m

namespace Message

variable {p : Message → Bool} {new : Status} {now : Instant} {m : Message}

theorem moveIf_of_pos (h : p m = true) : m.moveIf p new now = m.move new now := if_pos h

theorem moveIf_of_neg (h : p m = false) : m.moveIf p new now = m := by simp [moveIf, h]

@[simp] theorem moveIf_id : (m.moveIf p new now).id = m.id := by
  unfold moveIf; split <;> rfl

@[simp] theorem moveIf_sender : (m.moveIf p new now).sender = m.sender := by
  unfold moveIf; split <;> rfl

@[simp] theorem moveIf_recipient : (m.moveIf p new now).recipient = m.recipient := by
  unfold moveIf; split <;> rfl

@[simp] theorem moveIf_conversation : (m.moveIf p new now).conversation = m.conversation := by
  unfold moveIf; split <;> rfl

end Message

namespace Store

variable {s : Store}

/-- The archive with the messages that are meant moved. -/
def moveWhere (s : Store) (p : Message → Bool) (new : Status) (now : Instant) : Store :=
  { s with messages := s.messages.map (Message.moveIf p new now) }

/-- The keys of the rows. -/
def keys (s : Store) : List String := s.rows.map (·.ownerKey)

/-- How the parts of the archive fit together. -/
structure Sound (s : Store) : Prop where
  /-- Ids grow in storing order. -/
  ids : s.messages.Pairwise fun m n => m.id < n.id
  /-- No id is above the last one given out. -/
  below : ∀ m ∈ s.messages, m.id ≤ s.lastMessage
  /-- A message stands in the conversation of its two users. -/
  named : ∀ m ∈ s.messages, m.conversation = Pair.id m.sender m.recipient
  keysDistinct : s.keys.Nodup
  /-- A row has the key and the conversation of its two users. -/
  owned : ∀ r ∈ s.rows,
    r.ownerKey = Pair.ownerKey r.owner r.peer ∧ r.conversation = Pair.id r.owner r.peer
  /-- Both users of a message have a row. -/
  rowed : ∀ m ∈ s.messages, Pair.ownerKey m.sender m.recipient ∈ s.keys ∧
    Pair.ownerKey m.recipient m.sender ∈ s.keys

theorem Sound.empty : Sound .empty := by
  constructor <;> simp [Store.empty, keys]

/-! ## Looking up -/

theorem Sound.idsDistinct (h : s.Sound) : (s.messages.map (·.id)).Nodup :=
  List.pairwise_map.mpr (h.ids.imp Int.ne_of_lt)

theorem Sound.eq_of_id (h : s.Sound) {m n : Message} (hm : m ∈ s.messages) (hn : n ∈ s.messages)
    (he : m.id = n.id) : m = n := List.inj_on_of_nodup_map h.idsDistinct hm hn he

theorem Sound.eq_of_beq (h : s.Sound) {m n : Message} (hm : m ∈ s.messages) (hn : n ∈ s.messages)
    (he : (n.id == m.id) = true) : n = m := h.eq_of_id hn hm (beq_iff_eq.mp he)

theorem mem_of_message? {id : Int} {m : Message} (h : s.message? id = some m) :
    m ∈ s.messages ∧ m.id = id :=
  ⟨List.mem_of_find?_eq_some h, by simpa using List.find?_some h⟩

theorem reachedBy_iff {reader : UserId} {conversation : String} {upTo : Option Int} {m : Message} :
    reachedBy reader conversation upTo m = true ↔
      m.conversation = conversation ∧ m.recipient = reader ∧ m.status.isUnread = true ∧
        upTo.all (fun bound => m.id ≤ bound) = true := by
  simp only [reachedBy, Bool.and_eq_true, beq_iff_eq, and_assoc]

theorem Sound.message?_eq (h : s.Sound) {m : Message} (hm : m ∈ s.messages) :
    s.message? m.id = some m := by
  cases hf : s.message? m.id with
  | none =>
    have := List.find?_eq_none.mp hf m hm
    simp at this
  | some n =>
    obtain ⟨hn, hid⟩ := mem_of_message? hf
    rw [h.eq_of_id hn hm hid]

theorem Sound.eq_of_key (h : s.Sound) {r r' : Conversation} (hr : r ∈ s.rows) (hr' : r' ∈ s.rows)
    (he : r.ownerKey = r'.ownerKey) : r = r' :=
  List.inj_on_of_nodup_map h.keysDistinct hr hr' he

theorem mem_of_row? {key : String} {r : Conversation} (h : s.row? key = some r) :
    r ∈ s.rows ∧ r.ownerKey = key :=
  ⟨List.mem_of_find?_eq_some h, by simpa using List.find?_some h⟩

theorem row?_eq_none {key : String} : s.row? key = none ↔ key ∉ s.keys := by
  simp [row?, keys]

theorem Sound.owner_peer (h : s.Sound) {r : Conversation} (hr : r ∈ s.rows) {owner peer : UserId}
    (hk : r.ownerKey = Pair.ownerKey owner peer) : r.owner = owner ∧ r.peer = peer :=
  Pair.ownerKey_eq_iff.mp ((h.owned r hr).1.symm.trans hk)

theorem Sound.row?_eq (h : s.Sound) {r : Conversation} (hr : r ∈ s.rows) :
    s.row? r.ownerKey = some r := by
  cases hf : s.row? r.ownerKey with
  | none => exact absurd (List.mem_map_of_mem hr) (row?_eq_none.mp hf)
  | some r' =>
    obtain ⟨hr', hk⟩ := mem_of_row? hf
    rw [h.eq_of_key hr' hr hk]

theorem Sound.eq_of_conversation (h : s.Sound) {r r' : Conversation} (hr : r ∈ s.rows)
    (hr' : r' ∈ s.rows) (ho : r.owner = r'.owner) (hc : r.conversation = r'.conversation) :
    r = r' := by
  obtain ⟨hk, hconv⟩ := h.owned r hr
  obtain ⟨hk', hconv'⟩ := h.owned r' hr'
  rw [hconv, hconv', ho, Pair.id_right_inj] at hc
  refine h.eq_of_key hr hr' ?_
  rw [hk, hk', ho, hc]

theorem Sound.rowsDistinct (h : s.Sound) : s.rows.Nodup := h.keysDistinct.of_map

/-! ## Changes that keep it -/

theorem mem_moveWhere {p : Message → Bool} {new : Status} {now : Instant} {m : Message} :
    m ∈ (s.moveWhere p new now).messages ↔ ∃ n ∈ s.messages, n.moveIf p new now = m :=
  List.mem_map

theorem Sound.moveWhere (h : s.Sound) (p : Message → Bool) (new : Status) (now : Instant) :
    (s.moveWhere p new now).Sound where
  ids := by
    simp only [Store.moveWhere, List.pairwise_map, Message.moveIf_id]
    exact h.ids
  below m hm := by
    obtain ⟨n, hn, rfl⟩ := mem_moveWhere.mp hm
    rw [Message.moveIf_id]
    exact h.below n hn
  named m hm := by
    obtain ⟨n, hn, rfl⟩ := mem_moveWhere.mp hm
    simpa using h.named n hn
  keysDistinct := h.keysDistinct
  owned := h.owned
  rowed m hm := by
    obtain ⟨n, hn, rfl⟩ := mem_moveWhere.mp hm
    rw [Message.moveIf_sender, Message.moveIf_recipient]
    exact h.rowed n hn

/-- A change of rows that leaves alone whose they are. -/
structure KeepsOwner (f : Conversation → Conversation) : Prop where
  key : ∀ r, (f r).ownerKey = r.ownerKey
  owner : ∀ r, (f r).owner = r.owner
  peer : ∀ r, (f r).peer = r.peer
  conversation : ∀ r, (f r).conversation = r.conversation

theorem keys_mapRows {f : Conversation → Conversation} (hf : KeepsOwner f) :
    keys { s with rows := s.rows.map f } = s.keys := by
  simp only [keys, List.map_map]
  exact List.map_congr_left fun r _ => hf.key r

theorem Sound.mapRows (h : s.Sound) {f : Conversation → Conversation} (hf : KeepsOwner f) :
    Sound { s with rows := s.rows.map f } where
  ids := h.ids
  below := h.below
  named := h.named
  keysDistinct := by
    rw [keys_mapRows hf]
    exact h.keysDistinct
  owned := by
    simp only [List.mem_map]
    rintro _ ⟨r, hr, rfl⟩
    rw [hf.key, hf.owner, hf.peer, hf.conversation]
    exact h.owned r hr
  rowed := by
    rw [keys_mapRows hf]
    exact h.rowed

theorem KeepsOwner.ite {f : Conversation → Conversation} (hf : KeepsOwner f)
    (p : Conversation → Bool) : KeepsOwner fun r => if p r then f r else r where
  key r := by split <;> simp [hf.key]
  owner r := by split <;> simp [hf.owner]
  peer r := by split <;> simp [hf.peer]
  conversation r := by split <;> simp [hf.conversation]

theorem KeepsOwner.unread (f : Conversation → Int) : KeepsOwner fun r => { r with unread := f r } :=
  ⟨fun _ => rfl, fun _ => rfl, fun _ => rfl, fun _ => rfl⟩

theorem KeepsOwner.pointAt (last : Option LastMessage) : KeepsOwner fun r => r.pointAt last :=
  ⟨fun _ => rfl, fun _ => rfl, fun _ => rfl, fun _ => rfl⟩

theorem Sound.updateRow (h : s.Sound) {f : Conversation → Conversation} (hf : KeepsOwner f)
    (key : String) : (s.updateRow key f).Sound := h.mapRows (hf.ite fun r => r.ownerKey == key)

theorem Sound.recountUnread (h : s.Sound) (conversation : String) (owner peer : UserId) :
    (s.recountUnread conversation owner peer).Sound := h.updateRow (KeepsOwner.unread _) _

theorem Sound.repointRows (h : s.Sound) (conversation : String) (retired : Int) :
    (s.repointRows conversation retired).Sound :=
  h.mapRows ((KeepsOwner.pointAt _).ite fun r => r.conversation == conversation && r.lastId == some retired)

/-! ## A new message -/

/-- The row that is made for an owner. -/
def newRow (s : Store) (owner peer : UserId) (conversation : String) (now : Instant) : Conversation :=
  { id := s.lastRow + 1, ownerKey := Pair.ownerKey owner peer, owner := owner, peer := peer,
    conversation := conversation, lastId := none, lastContent := none, lastTime := none,
    unread := 0, isTop := false, isMute := false, createdAt := now, updatedAt := now }

theorem ensureRow_cases (s : Store) (owner peer : UserId) (conversation : String) (now : Instant) :
    (Pair.ownerKey owner peer ∈ s.keys ∧ s.ensureRow owner peer conversation now = s) ∨
    (Pair.ownerKey owner peer ∉ s.keys ∧ s.ensureRow owner peer conversation now =
      { s with rows := s.rows ++ [s.newRow owner peer conversation now], lastRow := s.lastRow + 1 }) := by
  unfold ensureRow
  cases hr : s.row? (Pair.ownerKey owner peer) with
  | some r =>
    obtain ⟨hmem, hk⟩ := mem_of_row? hr
    exact .inl ⟨hk ▸ List.mem_map_of_mem hmem, by simp only [hr]⟩
  | none =>
    refine .inr ⟨row?_eq_none.mp hr, ?_⟩
    simp only [hr]
    rfl

@[simp] theorem messages_ensureRow {owner peer : UserId} {conversation : String} {now : Instant} :
    (s.ensureRow owner peer conversation now).messages = s.messages := by
  unfold ensureRow; simp only; split <;> rfl

@[simp] theorem lastMessage_ensureRow {owner peer : UserId} {conversation : String} {now : Instant} :
    (s.ensureRow owner peer conversation now).lastMessage = s.lastMessage := by
  unfold ensureRow; simp only; split <;> rfl

@[simp] theorem counters_ensureRow {owner peer : UserId} {conversation : String} {now : Instant} :
    (s.ensureRow owner peer conversation now).counters = s.counters := by
  unfold ensureRow; simp only; split <;> rfl

theorem mem_keys_ensureRow {owner peer : UserId} {conversation : String} {now : Instant} :
    Pair.ownerKey owner peer ∈ (s.ensureRow owner peer conversation now).keys := by
  rcases ensureRow_cases s owner peer conversation now with ⟨hk, he⟩ | ⟨-, he⟩ <;> rw [he]
  · exact hk
  · simp [keys, newRow]

theorem keys_subset_ensureRow (s : Store) (owner peer : UserId) (conversation : String)
    (now : Instant) : s.keys ⊆ (s.ensureRow owner peer conversation now).keys := by
  rcases ensureRow_cases s owner peer conversation now with ⟨-, he⟩ | ⟨-, he⟩ <;> rw [he]
  · exact fun _ h => h
  · simp [keys]

theorem Sound.ensureRow (h : s.Sound) {owner peer : UserId} {conversation : String}
    (hc : conversation = Pair.id owner peer) (now : Instant) :
    (s.ensureRow owner peer conversation now).Sound := by
  have hsub := keys_subset_ensureRow s owner peer conversation now
  rcases ensureRow_cases s owner peer conversation now with ⟨-, he⟩ | ⟨hnew, he⟩
  · rw [he]
    exact h
  · rw [he] at hsub ⊢
    refine ⟨h.ids, h.below, h.named, ?_, ?_, fun m hm => (h.rowed m hm).imp (hsub ·) (hsub ·)⟩
    · simp only [keys, List.map_append, List.map_cons, List.map_nil]
      refine h.keysDistinct.append (List.nodup_singleton _) ?_
      rw [List.disjoint_singleton]
      exact hnew
    · intro r hr
      rcases List.mem_append.mp hr with hr | hr
      · exact h.owned r hr
      · rw [List.mem_singleton.mp hr]
        exact ⟨rfl, hc⟩

theorem Sound.append (h : s.Sound) {m : Message} (hid : s.lastMessage < m.id)
    (hname : m.conversation = Pair.id m.sender m.recipient)
    (hrow : Pair.ownerKey m.sender m.recipient ∈ s.keys)
    (hrow' : Pair.ownerKey m.recipient m.sender ∈ s.keys) (counters : List (String × Int)) :
    Sound { s with messages := s.messages ++ [m], counters := counters, lastMessage := m.id } where
  ids := by
    rw [List.pairwise_append]
    refine ⟨h.ids, List.pairwise_singleton _ _, fun a ha b hb => ?_⟩
    rw [List.mem_singleton.mp hb]
    exact Int.lt_of_le_of_lt (h.below a ha) hid
  below n hn := by
    rcases List.mem_append.mp hn with hn | hn
    · exact Int.le_of_lt (Int.lt_of_le_of_lt (h.below n hn) hid)
    · obtain rfl := List.mem_singleton.mp hn
      exact Int.le_refl _
  named n hn := by
    rcases List.mem_append.mp hn with hn | hn
    · exact h.named n hn
    · rw [List.mem_singleton.mp hn]
      exact hname
  keysDistinct := h.keysDistinct
  owned := h.owned
  rowed n hn := by
    rcases List.mem_append.mp hn with hn | hn
    · exact h.rowed n hn
    · rw [List.mem_singleton.mp hn]
      exact ⟨hrow, hrow'⟩

end Store
end Parley
