/-
Messages and conversations are stable as JSON.

What is read from a text is legible (`Message.Holds.legible`, `Conversation.Holds.legible`):
its numbers fit and its instants can be read. A legible message is read back from its
text, and a legible conversation without its owner key (`Message.Legible.ofText?_toText`,
`Conversation.Legible.ofText?_toText`).
-/
import Parley.Proofs.Json.Fields
import Parley.Proofs.Time.Rfc3339
import Parley.Schema

namespace Parley

open Json
open Text (IntRange)
open Time (Instant)

/-! ## Instants -/

theorem Time.Instant.Legible.ofRfc3339?_toRfc3339 {t : Instant} (h : t.Legible) :
    Instant.ofRfc3339? t.toRfc3339 = some t := by
  rw [Instant.ofRfc3339?, Instant.toRfc3339, String.toList_ofList]
  exact h.read?_write

theorem Time.Instant.Legible.ofJson?_toJson {t : Instant} (h : t.Legible) :
    Instant.ofJson? t.toJson = some t := by
  unfold Instant.ofJson? Instant.toJson
  rw [str?, Option.bind_some, h.ofRfc3339?_toRfc3339]

theorem Time.Instant.Legible.orNull_toJson {t : Instant} (h : t.Legible) :
    Record.orNull Instant.ofJson? t.toJson = some (some t) := by
  have hread := h.ofJson?_toJson
  unfold Instant.toJson at hread ⊢
  rw [Record.orNull, hread, Option.map_some]
  nofun

theorem Time.Instant.legible_of_ofJson? {v : Json} {t : Instant} (h : Instant.ofJson? v = some t) :
    t.Legible := by
  obtain ⟨s, -, hs⟩ := Option.bind_eq_some_iff.mp h
  exact Instant.legible_of_read? hs

theorem Json.Record.legible_of_required {R : Record} {name : String} {t : Instant}
    (h : R.required name Instant.ofJson? = some t) : t.Legible := by
  obtain ⟨v, hv⟩ := exists_of_required h
  exact Instant.legible_of_ofJson? hv

/-- The numbers from 1 to 5. -/
def toFive : IntRange := ⟨1, 5⟩

theorem Status.int?_of_ofJson? {v : Json} {st : Status} (h : Status.ofJson? v = some st) :
    v.int? toFive = some st.toInt := by
  obtain ⟨i, hi, hst⟩ := Option.bind_eq_some_iff.mp h
  obtain ⟨rfl, -⟩ := int?_eq_some_iff.mp hi
  unfold Status.ofInt? at hst
  split at hst <;> cases hst <;> rfl

theorem MessageKind.int?_of_ofJson? {v : Json} {k : MessageKind} (h : MessageKind.ofJson? v = some k) :
    v.int? toFive = some k.toInt := by
  obtain ⟨i, hi, hk⟩ := Option.bind_eq_some_iff.mp h
  obtain ⟨rfl, -⟩ := int?_eq_some_iff.mp hi
  unfold MessageKind.ofInt? at hk
  split at hk <;> cases hk <;> rfl

/-- Whether a text gives something else for one of some fields than a whole number of
the field's range. -/
def Misstates (names : List String) (numbers : List (String × IntRange)) (r : Raw) : Prop :=
  ∃ p ∈ numbers, ∃ part, r.Gives names p.1 part ∧ part.isWhole p.2 = false

theorem Json.Form.eq_none_of_misstates {α : Type} {f : Form α} {numbers : List (String × IntRange)}
    (hnames : f.names.Nodup) (hsub : ∀ p ∈ numbers, p.1 ∈ f.names)
    (hnumbers : ∀ R a, f.make R = some a → ∀ p ∈ numbers, ∃ i, R.required p.1 (int? p.2) = some i)
    {s : String} {r : Raw} (hr : Raw.ofString? s = some r) (h : Misstates f.names numbers r) :
    f.ofText? s = none := by
  rw [Option.eq_none_iff_forall_ne_some]
  intro a ha
  obtain ⟨r', R, hr', hwritten, hR, hmake⟩ := Form.ofText?_eq_some_iff.mp ha
  obtain rfl := Option.some.inj (hr.symm.trans hr')
  obtain ⟨p, hp, part, hpart, hnot⟩ := h
  obtain ⟨i, hi⟩ := hnumbers R a hmake p hp
  obtain ⟨-, hwhole⟩ := Form.isWhole_of_gives hwritten hnames hR (hsub p hp) hi hpart
  exact absurd hwhole (by simp [hnot])

/-! ## Messages -/

namespace Message

/-- What a message can be that is read. -/
structure Legible (m : Message) : Prop where
  id : IntRange.int64.contains m.id = true
  sender : IntRange.int64.contains m.sender = true
  recipient : IntRange.int64.contains m.recipient = true
  seq : IntRange.int64.contains m.seq = true
  createdAt : m.createdAt.Legible
  updatedAt : m.updatedAt.Legible

/-- What a record holds of a message that is made of it. -/
structure Holds (R : Record) (m : Message) : Prop where
  id : R.required "id" int64? = some m.id
  sender : R.required "from_user_id" int64? = some m.sender
  recipient : R.required "to_user_id" int64? = some m.recipient
  conversation : R.required "conversation_id" str? = some m.conversation
  kind : R.required "message_type" MessageKind.ofJson? = some m.kind
  content : R.required "content" str? = some m.content
  extra : R.optional "extra" str? = some m.extra
  status : R.required "status" Status.ofJson? = some m.status
  seq : R.required "seq" int64? = some m.seq
  createdAt : R.required "created_at" Instant.ofJson? = some m.createdAt
  updatedAt : R.required "updated_at" Instant.ofJson? = some m.updatedAt

theorem make_eq_some_iff {R : Record} {m : Message} : form.make R = some m ↔ Holds R m := by
  constructor
  · intro h
    obtain ⟨id, hid, h⟩ := Option.bind_eq_some_iff.mp h
    obtain ⟨sender, hsender, h⟩ := Option.bind_eq_some_iff.mp h
    obtain ⟨recipient, hrecipient, h⟩ := Option.bind_eq_some_iff.mp h
    obtain ⟨conversation, hconversation, h⟩ := Option.bind_eq_some_iff.mp h
    obtain ⟨kind, hkind, h⟩ := Option.bind_eq_some_iff.mp h
    obtain ⟨content, hcontent, h⟩ := Option.bind_eq_some_iff.mp h
    obtain ⟨extra, hextra, h⟩ := Option.bind_eq_some_iff.mp h
    obtain ⟨status, hstatus, h⟩ := Option.bind_eq_some_iff.mp h
    obtain ⟨seq, hseq, h⟩ := Option.bind_eq_some_iff.mp h
    obtain ⟨createdAt, hcreated, h⟩ := Option.bind_eq_some_iff.mp h
    obtain ⟨updatedAt, hupdated, ⟨⟩⟩ := Option.bind_eq_some_iff.mp h
    exact ⟨hid, hsender, hrecipient, hconversation, hkind, hcontent, hextra, hstatus, hseq, hcreated, hupdated⟩
  · intro h
    unfold form
    dsimp only
    rw [h.id, h.sender, h.recipient, h.conversation, h.kind, h.content, h.extra, h.status, h.seq, h.createdAt,
      h.updatedAt]
    rfl

theorem Holds.legible {R : Record} {m : Message} (h : Holds R m) : m.Legible :=
  ⟨Record.contains_of_required h.id, Record.contains_of_required h.sender,
    Record.contains_of_required h.recipient, Record.contains_of_required h.seq,
    Record.legible_of_required h.createdAt, Record.legible_of_required h.updatedAt⟩

variable {m : Message}

theorem Legible.readable (h : m.Legible) : Readable Raw.greatestDepth m.toJson := by
  have hkind : IntRange.int64.contains m.kind.toInt = true := by cases m.kind <;> decide
  have hstatus : IntRange.int64.contains m.status.toInt = true := by cases m.status <;> decide
  refine .obj fun p hp => ?_
  simp only [members, List.mem_append, List.mem_cons, List.not_mem_nil, or_false] at hp
  rcases hp with ((rfl | rfl | rfl | rfl | rfl | rfl) | hp) | rfl | rfl | rfl | rfl
  · exact readable_int h.id
  · exact readable_int h.sender
  · exact readable_int h.recipient
  · exact .str _
  · exact readable_int hkind
  · exact .str _
  · cases hextra : m.extra with
    | none => simp [hextra] at hp
    | some e =>
      rw [hextra, List.mem_singleton] at hp
      exact hp ▸ .str e
  · exact readable_int hstatus
  · exact readable_int h.seq
  · exact .str _
  · exact .str _

theorem whole_toJson (m : Message) : m.toJson.whole = true := by
  cases hextra : m.extra <;> simp [toJson, members, whole, wholeMembers, hextra, Status.toJson,
    MessageKind.toJson, Instant.toJson]

theorem nodup_members (m : Message) : (m.members.map (·.1)).Nodup := by
  cases hextra : m.extra <;> simp [members, hextra]

theorem Legible.holds (h : m.Legible) : Holds ⟨false, m.members⟩ m := by
  have hint {i : Int} (hi : IntRange.int64.contains i = true) : int64? (.int i) = some i :=
    int?_eq_some_iff.mpr ⟨rfl, hi⟩
  have field {α : Type} {name : String} {read : Json → Option α} {a : α} (v : Json)
      (hmem : (name, v) ∈ m.members) (hv : read v = some a) :
      Record.required ⟨false, m.members⟩ name read = some a := Record.required_of_mem m.nodup_members hmem hv
  constructor
  case id => exact field _ (by simp [members]) (hint h.id)
  case sender => exact field _ (by simp [members]) (hint h.sender)
  case recipient => exact field _ (by simp [members]) (hint h.recipient)
  case conversation => exact field (.str m.conversation) (by simp [members]) rfl
  case kind => exact field m.kind.toJson (by simp [members]) (by cases m.kind <;> rfl)
  case content => exact field (.str m.content) (by simp [members]) rfl
  case extra =>
    cases hextra : m.extra with
    | none => simp [Record.optional, Record.get?, members, hextra]
    | some e =>
      exact Record.optional_of_mem m.nodup_members (v := .str e) (by simp [members, hextra]) rfl
  case status => exact field m.status.toJson (by simp [members]) (by cases m.status <;> rfl)
  case seq => exact field _ (by simp [members]) (hint h.seq)
  case createdAt => exact field _ (by simp [members]) h.createdAt.ofJson?_toJson
  case updatedAt => exact field _ (by simp [members]) h.updatedAt.ofJson?_toJson

theorem record?_toJson (m : Message) : m.toJson.record? fields = some ⟨false, m.members⟩ := by
  cases hextra : m.extra <;> simp [toJson, members, record?, distinct, fields, hextra]

theorem Legible.ofJson?_toJson (h : m.Legible) : form.ofJson? m.toJson = some m :=
  Option.bind_eq_some_iff.mpr ⟨_, m.record?_toJson, make_eq_some_iff.mpr h.holds⟩

theorem Legible.ofText?_toText (h : m.Legible) : form.ofText? m.toJson.toText = some m := by
  rw [Form.ofText?_toText h.readable m.whole_toJson, h.ofJson?_toJson]

theorem nodup_fields : fields.Nodup := by decide

/-- The fields that are whole numbers, with their ranges. -/
def numbers : List (String × IntRange) :=
  [("id", .int64), ("from_user_id", .int64), ("to_user_id", .int64), ("message_type", toFive),
    ("status", toFive), ("seq", .int64)]

theorem numbers_of_make {R : Record} {m : Message} (h : form.make R = some m) :
    ∀ p ∈ numbers, ∃ i, R.required p.1 (int? p.2) = some i := by
  have hm := make_eq_some_iff.mp h
  simp only [numbers, List.forall_mem_cons, List.not_mem_nil, false_implies, implies_true, and_true]
  exact ⟨⟨_, hm.id⟩, ⟨_, hm.sender⟩, ⟨_, hm.recipient⟩,
    ⟨_, Record.required_imp hm.kind fun _ => MessageKind.int?_of_ofJson?⟩,
    ⟨_, Record.required_imp hm.status fun _ => Status.int?_of_ofJson?⟩, ⟨_, hm.seq⟩⟩

/-- What holds of a message that is read from a text. -/
structure Stable (s : String) (m : Message) : Prop where
  /-- It is read back from its own text. -/
  again : form.ofText? m.toJson.toText = some m
  /-- What is read back has the same text. -/
  text : ∀ m', form.ofText? m.toJson.toText = some m' → m'.toJson.toText = m.toJson.toText
  /-- Its instants are read back from what is written of them. -/
  times : Instant.ofRfc3339? m.createdAt.toRfc3339 = some m.createdAt ∧
    Instant.ofRfc3339? m.updatedAt.toRfc3339 = some m.updatedAt
  /-- There is nothing extra if and only if the text gives nothing but `null` for it,
  and then its own text has no such member. -/
  extra : ∀ r, Raw.ofString? s = some r →
    (m.extra = none ↔ ∀ part, r.Gives fields "extra" part → part = .scalar .null)
  omitted : m.extra = none ↔ ∀ p ∈ m.members, p.1 ≠ "extra"
  /-- Its status and its kind are the numbers from 1 to 5 that the text gives. -/
  status : toFive.contains m.status.toInt = true ∧ ∀ r, Raw.ofString? s = some r → ∀ part,
    r.Gives fields "status" part → part = .scalar (.int m.status.toInt)
  kind : toFive.contains m.kind.toInt = true ∧ ∀ r, Raw.ofString? s = some r → ∀ part,
    r.Gives fields "message_type" part → part = .scalar (.int m.kind.toInt)

theorem stable_of_ofText? {s : String} {m : Message} (h : form.ofText? s = some m) : Stable s m := by
  obtain ⟨r, R, hr, hwritten, hR, hmake⟩ := Form.ofText?_eq_some_iff.mp h
  have hm := make_eq_some_iff.mp hmake
  have hagain := hm.legible.ofText?_toText
  have hsame {r' : Raw} (hr' : Raw.ofString? s = some r') : r' = r := Option.some.inj (hr'.symm.trans hr)
  have hstatus := Record.required_imp hm.status fun _ => Status.int?_of_ofJson?
  have hkind := Record.required_imp hm.kind fun _ => MessageKind.int?_of_ofJson?
  constructor
  case again => exact hagain
  case text =>
    intro m' hm'
    rw [Option.some.inj (hm'.symm.trans hagain)]
  case times =>
    exact ⟨hm.legible.createdAt.ofRfc3339?_toRfc3339, hm.legible.updatedAt.ofRfc3339?_toRfc3339⟩
  case extra =>
    intro r' hr'
    obtain rfl := hsame hr'
    exact Form.optional_eq_none_iff hwritten nodup_fields hR (by decide) hm.extra
  case omitted => cases hextra : m.extra <;> simp [members, hextra]
  case status =>
    refine ⟨Record.contains_of_required hstatus, fun r' hr' part hpart => ?_⟩
    obtain rfl := hsame hr'
    exact (Form.isWhole_of_gives hwritten nodup_fields hR (by decide) hstatus hpart).1
  case kind =>
    refine ⟨Record.contains_of_required hkind, fun r' hr' part hpart => ?_⟩
    obtain rfl := hsame hr'
    exact (Form.isWhole_of_gives hwritten nodup_fields hR (by decide) hkind hpart).1

end Message

/-! ## Conversations -/

namespace Conversation

/-- What a row can be that is read. -/
structure Legible (c : Conversation) : Prop where
  id : IntRange.int64.contains c.id = true
  owner : IntRange.int64.contains c.owner = true
  peer : IntRange.int64.contains c.peer = true
  lastId : ∀ i, c.lastId = some i → IntRange.int64.contains i = true
  lastTime : ∀ t, c.lastTime = some t → t.Legible
  unread : IntRange.int32.contains c.unread = true
  createdAt : c.createdAt.Legible
  updatedAt : c.updatedAt.Legible

/-- What a record holds of a row that is made of it. -/
structure Holds (R : Record) (c : Conversation) : Prop where
  id : R.required "id" int64? = some c.id
  ownerKey : R.defaulted "owner_key" "" str? = some c.ownerKey
  owner : R.required "user_id" int64? = some c.owner
  peer : R.required "peer_id" int64? = some c.peer
  conversation : R.required "conversation_id" str? = some c.conversation
  lastId : R.optional "last_message_id" int64? = some c.lastId
  lastContent : R.optional "last_message_content" str? = some c.lastContent
  lastTime : R.optional "last_message_time" Instant.ofJson? = some c.lastTime
  unread : R.required "unread_count" (int? .int32) = some c.unread
  isTop : R.required "is_top" bool? = some c.isTop
  isMute : R.required "is_mute" bool? = some c.isMute
  createdAt : R.required "created_at" Instant.ofJson? = some c.createdAt
  updatedAt : R.required "updated_at" Instant.ofJson? = some c.updatedAt

theorem make_eq_some_iff {R : Record} {c : Conversation} : form.make R = some c ↔ Holds R c := by
  constructor
  · intro h
    obtain ⟨id, hid, h⟩ := Option.bind_eq_some_iff.mp h
    obtain ⟨key, hkey, h⟩ := Option.bind_eq_some_iff.mp h
    obtain ⟨owner, howner, h⟩ := Option.bind_eq_some_iff.mp h
    obtain ⟨peer, hpeer, h⟩ := Option.bind_eq_some_iff.mp h
    obtain ⟨conversation, hconversation, h⟩ := Option.bind_eq_some_iff.mp h
    obtain ⟨lastId, hlastId, h⟩ := Option.bind_eq_some_iff.mp h
    obtain ⟨lastContent, hlastContent, h⟩ := Option.bind_eq_some_iff.mp h
    obtain ⟨lastTime, hlastTime, h⟩ := Option.bind_eq_some_iff.mp h
    obtain ⟨unread, hunread, h⟩ := Option.bind_eq_some_iff.mp h
    obtain ⟨isTop, htop, h⟩ := Option.bind_eq_some_iff.mp h
    obtain ⟨isMute, hmute, h⟩ := Option.bind_eq_some_iff.mp h
    obtain ⟨createdAt, hcreated, h⟩ := Option.bind_eq_some_iff.mp h
    obtain ⟨updatedAt, hupdated, ⟨⟩⟩ := Option.bind_eq_some_iff.mp h
    exact ⟨hid, hkey, howner, hpeer, hconversation, hlastId, hlastContent, hlastTime, hunread, htop, hmute,
      hcreated, hupdated⟩
  · intro h
    unfold form
    dsimp only
    rw [h.id, h.ownerKey, h.owner, h.peer, h.conversation, h.lastId, h.lastContent, h.lastTime, h.unread,
      h.isTop, h.isMute, h.createdAt, h.updatedAt]
    rfl

theorem Holds.legible {R : Record} {c : Conversation} (h : Holds R c) : c.Legible where
  id := Record.contains_of_required h.id
  owner := Record.contains_of_required h.owner
  peer := Record.contains_of_required h.peer
  lastId i hi := by
    obtain ⟨v, hv⟩ := Record.exists_of_required (Record.required_of_optional (hi ▸ h.lastId))
    exact (int?_eq_some_iff.mp hv).2
  lastTime t ht := by
    obtain ⟨v, hv⟩ := Record.exists_of_required (Record.required_of_optional (ht ▸ h.lastTime))
    exact Instant.legible_of_ofJson? hv
  unread := Record.contains_of_required h.unread
  createdAt := Record.legible_of_required h.createdAt
  updatedAt := Record.legible_of_required h.updatedAt

variable {c : Conversation}

theorem Legible.readable (h : c.Legible) : Readable Raw.greatestDepth c.toJson := by
  refine .obj fun p hp => ?_
  simp only [members, List.mem_cons, List.not_mem_nil, or_false] at hp
  rcases hp with rfl | rfl | rfl | rfl | rfl | rfl | rfl | rfl | rfl | rfl | rfl | rfl
  · exact readable_int h.id
  · exact readable_int h.owner
  · exact readable_int h.peer
  · exact .str _
  · cases hlast : c.lastId with
    | none => exact .scalar trivial
    | some i => exact readable_int (h.lastId i hlast)
  · cases c.lastContent with
    | none => exact .scalar trivial
    | some e => exact .str e
  · cases c.lastTime with
    | none => exact .scalar trivial
    | some t => exact .str _
  · refine readable_int (Text.IntRange.contains_iff.mpr ?_)
    have := Text.IntRange.contains_iff.mp h.unread
    simp only [IntRange.int32, IntRange.int64] at this ⊢
    omega
  · exact .scalar trivial
  · exact .scalar trivial
  · exact .str _
  · exact .str _

theorem whole_toJson (c : Conversation) : c.toJson.whole = true := by
  cases hlastId : c.lastId <;> cases hcontent : c.lastContent <;> cases htime : c.lastTime <;>
    simp [toJson, members, whole, wholeMembers, ofOption, hlastId, hcontent, htime, Instant.toJson]

/-- The row without its owner key, which is not written. -/
def unkeyed (c : Conversation) : Conversation := { c with ownerKey := "" }

theorem toJson_unkeyed (c : Conversation) : c.unkeyed.toJson = c.toJson := rfl

theorem nodup_members (c : Conversation) : (c.members.map (·.1)).Nodup := by
  simp [members]

theorem Legible.holds (h : c.Legible) : Holds ⟨false, c.members⟩ c.unkeyed := by
  have hint {i : Int} (hi : IntRange.int64.contains i = true) : int64? (.int i) = some i :=
    int?_eq_some_iff.mpr ⟨rfl, hi⟩
  have hlastId : Record.orNull int64? (ofOption .int c.lastId) = some c.lastId := by
    cases hlast : c.lastId with
    | none => rfl
    | some i => exact congrArg (Option.map some) (hint (h.lastId i hlast))
  have hlastContent : Record.orNull str? (ofOption .str c.lastContent) = some c.lastContent := by
    cases c.lastContent <;> rfl
  have hlastTime : Record.orNull Instant.ofJson? (ofOption Instant.toJson c.lastTime) = some c.lastTime := by
    cases hlast : c.lastTime with
    | none => rfl
    | some t => rw [ofOption, (h.lastTime t hlast).orNull_toJson]
  have field {α : Type} {name : String} {read : Json → Option α} {a : α} (v : Json)
      (hmem : (name, v) ∈ c.members) (hv : read v = some a) :
      Record.required ⟨false, c.members⟩ name read = some a := Record.required_of_mem c.nodup_members hmem hv
  have optional {α : Type} {name : String} {read : Json → Option α} {a : Option α} (v : Json)
      (hmem : (name, v) ∈ c.members) (hv : Record.orNull read v = some a) :
      Record.optional ⟨false, c.members⟩ name read = some a := Record.optional_of_mem c.nodup_members hmem hv
  constructor
  case id => exact field _ (by simp [members, unkeyed]) (hint h.id)
  case ownerKey => simp [Record.defaulted, Record.get?, members, unkeyed]
  case owner => exact field _ (by simp [members, unkeyed]) (hint h.owner)
  case peer => exact field _ (by simp [members, unkeyed]) (hint h.peer)
  case conversation => exact field (.str c.conversation) (by simp [members]) rfl
  case lastId => exact optional _ (by simp [members]) hlastId
  case lastContent => exact optional _ (by simp [members]) hlastContent
  case lastTime => exact optional _ (by simp [members]) hlastTime
  case unread => exact field _ (by simp [members, unkeyed]) (int?_eq_some_iff.mpr ⟨rfl, h.unread⟩)
  case isTop => exact field (.bool c.isTop) (by simp [members]) rfl
  case isMute => exact field (.bool c.isMute) (by simp [members]) rfl
  case createdAt => exact field _ (by simp [members]) h.createdAt.ofJson?_toJson
  case updatedAt => exact field _ (by simp [members]) h.updatedAt.ofJson?_toJson

theorem record?_toJson (c : Conversation) : c.toJson.record? fields = some ⟨false, c.members⟩ := by
  simp [toJson, members, record?, distinct, fields]

theorem Legible.ofJson?_toJson (h : c.Legible) : form.ofJson? c.toJson = some c.unkeyed :=
  Option.bind_eq_some_iff.mpr ⟨_, c.record?_toJson, make_eq_some_iff.mpr h.holds⟩

theorem Legible.ofText?_toText (h : c.Legible) : form.ofText? c.toJson.toText = some c.unkeyed := by
  rw [Form.ofText?_toText h.readable c.whole_toJson, h.ofJson?_toJson]

theorem nodup_fields : fields.Nodup := by decide

/-- The fields that are whole numbers, with their ranges. -/
def numbers : List (String × IntRange) :=
  [("id", .int64), ("user_id", .int64), ("peer_id", .int64), ("unread_count", .int32)]

theorem numbers_of_make {R : Record} {c : Conversation} (h : form.make R = some c) :
    ∀ p ∈ numbers, ∃ i, R.required p.1 (int? p.2) = some i := by
  have hc := make_eq_some_iff.mp h
  simp only [numbers, List.forall_mem_cons, List.not_mem_nil, false_implies, implies_true, and_true]
  exact ⟨⟨_, hc.id⟩, ⟨_, hc.owner⟩, ⟨_, hc.peer⟩, ⟨_, hc.unread⟩⟩

/-- Whether a text gives something else for the last message than its number or `null`. -/
def MisstatesLast (r : Raw) : Prop :=
  ∃ part, r.Gives fields "last_message_id" part ∧ part ≠ .scalar .null ∧ part.isWhole .int64 = false

theorem eq_none_of_misstatesLast {s : String} {r : Raw} (hr : Raw.ofString? s = some r)
    (h : MisstatesLast r) : form.ofText? s = none := by
  rw [Option.eq_none_iff_forall_ne_some]
  intro c hc
  obtain ⟨r', R, hr', hwritten, hR, hmake⟩ := Form.ofText?_eq_some_iff.mp hc
  obtain rfl := Option.some.inj (hr.symm.trans hr')
  obtain ⟨part, hpart, hnull, hnot⟩ := h
  have hlast := (make_eq_some_iff.mp hmake).lastId
  have hname : "last_message_id" ∈ form.names := by decide
  cases hlastId : c.lastId with
  | none =>
    rw [hlastId] at hlast
    exact hnull ((Form.optional_eq_none_iff hwritten nodup_fields hR hname hlast).mp rfl part hpart)
  | some i =>
    rw [hlastId] at hlast
    have hrequired := Record.required_of_optional hlast
    have hwhole := (Form.isWhole_of_gives hwritten nodup_fields hR hname hrequired hpart).2
    exact absurd hwhole (by simp [hnot])

/-- What holds of a row that is read from a text. -/
structure Stable (c : Conversation) : Prop where
  /-- It is read back from its own text, without its owner key. -/
  again : form.ofText? c.toJson.toText = some c.unkeyed
  /-- What is read back has the same text. -/
  text : ∀ c', form.ofText? c.toJson.toText = some c' → c'.toJson.toText = c.toJson.toText
  /-- Its instants are read back from what is written of them. -/
  times : Instant.ofRfc3339? c.createdAt.toRfc3339 = some c.createdAt ∧
    Instant.ofRfc3339? c.updatedAt.toRfc3339 = some c.updatedAt ∧
    ∀ t, c.lastTime = some t → Instant.ofRfc3339? t.toRfc3339 = some t
  /-- No owner key is written. -/
  keyless : ∀ p ∈ c.members, p.1 ≠ "owner_key"

theorem stable_of_ofText? {s : String} {c : Conversation} (h : form.ofText? s = some c) : Stable c := by
  obtain ⟨r, R, -, -, -, hmake⟩ := Form.ofText?_eq_some_iff.mp h
  have hlegible := (make_eq_some_iff.mp hmake).legible
  have hagain := hlegible.ofText?_toText
  refine ⟨hagain, fun c' hc' => ?_, ⟨hlegible.createdAt.ofRfc3339?_toRfc3339,
    hlegible.updatedAt.ofRfc3339?_toRfc3339, fun t ht => (hlegible.lastTime t ht).ofRfc3339?_toRfc3339⟩, ?_⟩
  · rw [Option.some.inj (hc'.symm.trans hagain), toJson_unkeyed]
  · simp [members]

end Conversation

/-! ## The main result -/

/-- **Messages and conversations are stable as JSON.** Whatever text they are read from,
encoding them and decoding again gives them back, a conversation without its owner key,
and the same text once more; and a text that gives something else than a whole number of
its range for one of their numbers is refused. -/
theorem texts_stable :
    (∀ (s : String) (m : Message), Message.form.ofText? s = some m → Message.Stable s m) ∧
    (∀ (s : String) (r : Raw), Raw.ofString? s = some r → Misstates Message.fields Message.numbers r →
      Message.form.ofText? s = none) ∧
    (∀ (s : String) (c : Conversation), Conversation.form.ofText? s = some c → Conversation.Stable c) ∧
    ∀ (s : String) (r : Raw), Raw.ofString? s = some r →
      Misstates Conversation.fields Conversation.numbers r ∨ Conversation.MisstatesLast r →
        Conversation.form.ofText? s = none := by
  refine ⟨fun _ _ => Message.stable_of_ofText?, fun s r hr => ?_,
    fun _ _ => Conversation.stable_of_ofText?, fun s r hr h => ?_⟩
  · exact Form.eq_none_of_misstates Message.nodup_fields (by decide)
      (fun _ _ => Message.numbers_of_make) hr
  · rcases h with h | h
    · exact Form.eq_none_of_misstates Conversation.nodup_fields (by decide)
        (fun _ _ => Conversation.numbers_of_make) hr h
    · exact Conversation.eq_none_of_misstatesLast hr h

/-- A message as an array, at a leap second in another time zone and at a time that is
written in small letters. -/
def listedMessage : String := "[9,1,2,\"1_2\",1,\"\",null,3,7,\"2016-12-31 15:59:60.5-08:00\","
  ++ "\"2017-01-01t00:00:00z\"]"

theorem texts_stable_of_listed :
    (∃ m, Message.form.ofText? listedMessage = some m ∧ m.createdAt = ⟨1483228799, 1500000000⟩ ∧
      Message.Stable listedMessage m) ∧
    ∃ r, Raw.ofString? "[\"9\"]" = some r ∧ Misstates Message.fields Message.numbers r ∧
      Message.form.ofText? "[\"9\"]" = none := by
  constructor
  · have hread : (Message.form.ofText? listedMessage).map (·.createdAt) =
        some ⟨1483228799, 1500000000⟩ := by decide +kernel
    obtain ⟨m, hm, htime⟩ := Option.map_eq_some_iff.mp hread
    exact ⟨m, hm, htime, texts_stable.1 _ _ hm⟩
  · have hread : Raw.ofString? "[\"9\"]" = some (.arr [.scalar (.str "9")]) := by rfl
    have hmisstates : Misstates Message.fields Message.numbers (.arr [.scalar (.str "9")]) :=
      ⟨("id", .int64), List.mem_cons_self, _, .item List.mem_cons_self, rfl⟩
    exact ⟨_, hread, hmisstates, texts_stable.2.1 _ _ hread hmisstates⟩

end Parley
