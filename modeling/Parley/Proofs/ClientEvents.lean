/-
Events of clients are recognised by their content.

Of an object only the values of `type` and of the fields of the event that it names
count (`values`), and `DescribedBy` says which event they describe, if any
(`ofJson?_obj_iff`). So neither the order of members nor members of other names make a
difference.
-/
import Parley.ClientEvent
import Parley.Proofs.Json.Fields

namespace Parley

open Json
open Text (IntRange)

namespace ClientEvent

/-- The values of the members of a name. -/
def values (name : String) (members : List (String × Json)) : List Json :=
  (members.filter fun m => m.1 == name).map (·.2)

/-- The fields of the event of a name. -/
def fieldsOf (name : String) : List String :=
  if name = "typing" then ["to_user_id"]
  else if name = "read_receipt" then ["to_user_id", "conversation_id", "message_id"]
  else []

/-- A receipt names a message, or none if the member is missing or `null`. -/
def NamesMessage (members : List (String × Json)) : Option Int → Prop
  | none => values "message_id" members = [] ∨ values "message_id" members = [.null]
  | some id => values "message_id" members = [.int id] ∧ IntRange.int64.contains id = true

/-- Whether members describe an event. Nothing but the values of `type` and of the
event's own fields counts, and each of them must stand once. -/
def DescribedBy (members : List (String × Json)) : ClientEvent → Prop
  | ping => values "type" members = [.str "ping"]
  | typing target => values "type" members = [.str "typing"] ∧
      values "to_user_id" members = [.int target] ∧ IntRange.int64.contains target = true
  | readReceipt target conversation message => values "type" members = [.str "read_receipt"] ∧
      (values "to_user_id" members = [.int target] ∧ IntRange.int64.contains target = true) ∧
      values "conversation_id" members = [.str conversation] ∧ NamesMessage members message

variable {members : List (String × Json)} {name : String}

/-! ## Members by their names -/

theorem split?_obj (members : List (String × Json)) : split? (.obj members) =
    match values "type" members with
    | [.str name] => some (name, .obj (members.filter fun m => m.1 != "type"))
    | _ => none := by
  unfold split? values
  simp only
  generalize members.filter (fun m => m.1 == "type") = typed
  rcases typed with _ | ⟨⟨n, v⟩, _ | ⟨m, rest⟩⟩
  · rfl
  · cases v <;> rfl
  · cases v <;> rfl

/-- The fields that are found among the members of other names than `type`. -/
def known (names : List String) (members : List (String × Json)) : List (String × Json) :=
  (members.filter fun m => m.1 != "type").filter fun m => names.contains m.1

theorem filter_known {names : List String} (htype : "type" ∉ names) (hname : name ∈ names) :
    (known names members).filter (fun m => m.1 == name) = members.filter fun m => m.1 == name := by
  have hne : name ≠ "type" := fun h => htype (h ▸ hname)
  unfold known
  rw [List.filter_filter, List.filter_filter]
  refine List.filter_congr fun m _ => ?_
  by_cases hm : m.1 = name
  · simp [hm, hname, hne]
  · have hother : (m.1 == name) = false := beq_false_of_ne hm
    simp [hother]

theorem distinct_known_iff {names : List String} (htype : "type" ∉ names) :
    distinct ((known names members).map (·.1)) = true ↔ ∀ n ∈ names, (values n members).length ≤ 1 := by
  have hcount : ∀ n ∈ names, ((known names members).map (·.1)).count n = (values n members).length := by
    intro n hn
    rw [List.count_eq_countP, List.countP_map, List.countP_eq_length_filter, values, List.length_map,
      ← filter_known htype hn]
    rfl
  rw [distinct_iff, List.nodup_iff_count_le_one]
  constructor
  · exact fun h n hn => hcount n hn ▸ h n
  · intro h n
    by_cases hn : n ∈ names
    · exact hcount n hn ▸ h n hn
    · have hnot : n ∉ (known names members).map (·.1) := by
        rintro hmem
        obtain ⟨m, hm, rfl⟩ := List.mem_map.mp hmem
        exact hn (by simpa using (List.mem_filter.mp hm).2)
      rw [List.count_eq_zero.mpr hnot]
      exact Nat.zero_le 1

theorem get?_known {names : List String} (htype : "type" ∉ names) (hname : name ∈ names) :
    Record.get? ⟨false, known names members⟩ name = (values name members).head? := by
  rw [Record.get?, values, List.head?_map, ← filter_known htype hname, List.head?_filter]

/-! ## What is described -/

theorem record?_obj {names : List String} (htype : "type" ∉ names) {R : Record} :
    (Json.obj (members.filter fun m => m.1 != "type")).record? names = some R ↔
      (∀ n ∈ names, (values n members).length ≤ 1) ∧ R = ⟨false, known names members⟩ := by
  simp only [Json.record?, Option.ite_none_right_eq_some, Option.some.injEq, eq_comm (a := R)]
  exact and_congr_left fun _ => distinct_known_iff htype

theorem required_known_iff {names : List String} (htype : "type" ∉ names) (hname : name ∈ names)
    (hsingle : ∀ n ∈ names, (values n members).length ≤ 1) {α : Type} {read : Json → Option α} {a : α} :
    Record.required ⟨false, known names members⟩ name read = some a ↔
      ∃ v, values name members = [v] ∧ read v = some a := by
  rw [Record.required, get?_known htype hname]
  have := hsingle name hname
  rcases hvs : values name members with _ | ⟨v, _ | ⟨w, vs⟩⟩
  · simp
  · simp
  · simp [hvs] at this

theorem ofFields?_typing {e : ClientEvent} :
    ofFields? "typing" (.obj (members.filter fun m => m.1 != "type")) = some e ↔
      ∃ target, e = typing target ∧ values "to_user_id" members = [.int target] ∧
        IntRange.int64.contains target = true := by
  have htype : "type" ∉ ["to_user_id"] := by decide
  rw [ofFields?, if_neg (by decide), if_pos rfl]
  simp only [Option.bind_eq_bind, Option.bind_eq_some_iff, record?_obj htype]
  constructor
  · rintro ⟨R, ⟨hsingle, rfl⟩, target, htarget, ⟨⟩⟩
    obtain ⟨v, hv, hread⟩ := (required_known_iff htype List.mem_cons_self hsingle).mp htarget
    obtain ⟨rfl, hfits⟩ := int?_eq_some_iff.mp hread
    exact ⟨target, rfl, hv, hfits⟩
  · rintro ⟨target, rfl, hv, hfits⟩
    have hsingle : ∀ n ∈ ["to_user_id"], (values n members).length ≤ 1 := by simp [hv]
    exact ⟨_, ⟨hsingle, rfl⟩, target, (required_known_iff htype List.mem_cons_self hsingle).mpr
      ⟨_, hv, int?_eq_some_iff.mpr ⟨rfl, hfits⟩⟩, rfl⟩

theorem orNull_eq_some_iff {v : Json} {message : Option Int} :
    Record.orNull int64? v = some message ↔ match message with
      | none => v = .null
      | some id => v = .int id ∧ IntRange.int64.contains id = true := by
  have hint {id : Int} : int64? v = some id ↔ v = .int id ∧ IntRange.int64.contains id = true :=
    int?_eq_some_iff
  cases message with
  | none => cases v <;> simp [Record.orNull]
  | some id =>
    refine Iff.trans ?_ hint
    cases v <;> simp [Record.orNull, int64?, int?]

theorem namesMessage_iff {names : List String} (htype : "type" ∉ names) (hname : "message_id" ∈ names)
    (hsingle : ∀ n ∈ names, (values n members).length ≤ 1) {message : Option Int} :
    Record.defaulted ⟨false, known names members⟩ "message_id" none (Record.orNull int64?) = some message ↔
      NamesMessage members message := by
  rw [Record.defaulted, get?_known htype hname]
  have := hsingle "message_id" hname
  unfold NamesMessage
  rcases hvs : values "message_id" members with _ | ⟨v, _ | ⟨w, vs⟩⟩
  · cases message <;> simp
  · simp only [List.head?_cons, orNull_eq_some_iff]
    cases message <;> simp
  · simp [hvs] at this

theorem ofFields?_readReceipt {e : ClientEvent} :
    ofFields? "read_receipt" (.obj (members.filter fun m => m.1 != "type")) = some e ↔
      ∃ target conversation message, e = readReceipt target conversation message ∧
        (values "to_user_id" members = [.int target] ∧ IntRange.int64.contains target = true) ∧
        values "conversation_id" members = [.str conversation] ∧ NamesMessage members message := by
  have htype : "type" ∉ ["to_user_id", "conversation_id", "message_id"] := by decide
  rw [ofFields?, if_neg (by decide), if_neg (by decide), if_pos rfl]
  simp only [Option.bind_eq_bind, Option.bind_eq_some_iff, record?_obj htype]
  constructor
  · rintro ⟨R, ⟨hsingle, rfl⟩, target, htarget, conversation, hconversation, message, hmessage, ⟨⟩⟩
    obtain ⟨v, hv, hread⟩ := (required_known_iff htype (by simp) hsingle).mp htarget
    obtain ⟨rfl, hfits⟩ := int?_eq_some_iff.mp hread
    obtain ⟨w, hw, hstr⟩ := (required_known_iff htype (by simp) hsingle).mp hconversation
    cases w <;> cases hstr
    exact ⟨target, conversation, message, rfl, ⟨hv, hfits⟩, hw, (namesMessage_iff htype (by simp) hsingle).mp hmessage⟩
  · rintro ⟨target, conversation, message, rfl, ⟨hv, hfits⟩, hconversation, hmessage⟩
    have hsingle : ∀ n ∈ ["to_user_id", "conversation_id", "message_id"], (values n members).length ≤ 1 := by
      have hid : (values "message_id" members).length ≤ 1 := by
        cases message with
        | none => rcases hmessage with h | h <;> simp [h]
        | some id => simp [hmessage.1]
      simp [hv, hconversation, hid]
    exact ⟨_, ⟨hsingle, rfl⟩, target,
      (required_known_iff htype (by simp) hsingle).mpr ⟨_, hv, int?_eq_some_iff.mpr ⟨rfl, hfits⟩⟩, conversation,
      (required_known_iff htype (by simp) hsingle).mpr ⟨_, hconversation, rfl⟩, message,
      (namesMessage_iff htype (by simp) hsingle).mpr hmessage, rfl⟩

/-- **An object describes an event by the values of `type` and of the event's own
fields.** -/
theorem ofJson?_obj_iff {e : ClientEvent} : ofJson? (.obj members) = some e ↔ e.DescribedBy members := by
  rw [ofJson?, split?_obj]
  split
  · next name hname =>
    simp only [Option.bind_some]
    by_cases hping : name = "ping"
    · subst hping
      have hnone : (Json.obj (members.filter fun m => m.1 != "type")).record? [] = some ⟨false, known [] members⟩ :=
        (record?_obj (by simp)).mpr ⟨by simp, rfl⟩
      rw [ofFields?, if_pos rfl, hnone]
      cases e <;> simp [DescribedBy, hname]
    by_cases htyping : name = "typing"
    · subst htyping
      rw [ofFields?_typing]
      cases e <;> simp [DescribedBy, hname]
    by_cases hreceipt : name = "read_receipt"
    · subst hreceipt
      rw [ofFields?_readReceipt]
      cases e <;> simp [DescribedBy, hname]
    · rw [ofFields?, if_neg hping, if_neg htyping, if_neg hreceipt]
      cases e <;> simp [DescribedBy, hname, hping, htyping, hreceipt]
  · next hname =>
    refine ⟨nofun, fun h => ?_⟩
    cases e with
    | ping => exact (hname _ h).elim
    | typing => exact (hname _ h.1).elim
    | readReceipt => exact (hname _ h.1).elim

/-! ## What counts -/

/-- The names that count in an object: `type`, and the fields of the event that it names. -/
def Counts (members : List (String × Json)) (name : String) : Prop :=
  name = "type" ∨ ∃ kind, values "type" members = [.str kind] ∧ name ∈ fieldsOf kind

/-- Whether a field may have a value. -/
def accepts (name : String) (v : Json) : Bool :=
  if name = "to_user_id" then (int64? v).isSome
  else if name = "message_id" then (Record.orNull int64? v).isSome
  else (str? v).isSome

theorem DescribedBy.standing {e : ClientEvent} (h : e.DescribedBy members) (hname : Counts members name) :
    (∃ v, values name members = [v] ∧ accepts name v = true) ∨
      (name = "message_id" ∧ values name members = []) := by
  have hint {i : Int} (hi : IntRange.int64.contains i = true) : int64? (.int i) = some i :=
    int?_eq_some_iff.mpr ⟨rfl, hi⟩
  rcases hname with rfl | ⟨kind, hkind, hname⟩
  · cases e with
    | ping => exact .inl ⟨_, h, rfl⟩
    | typing => exact .inl ⟨_, h.1, rfl⟩
    | readReceipt => exact .inl ⟨_, h.1, rfl⟩
  cases e with
  | ping =>
    obtain rfl : kind = "ping" := by simpa [DescribedBy, hkind] using h
    simp [fieldsOf] at hname
  | typing target =>
    obtain ⟨htype, htarget, hfits⟩ := h
    obtain rfl : kind = "typing" := by simpa [hkind] using htype
    obtain rfl : name = "to_user_id" := by simpa [fieldsOf] using hname
    exact .inl ⟨_, htarget, by simp [accepts, hint hfits]⟩
  | readReceipt target conversation message =>
    obtain ⟨htype, ⟨htarget, hfits⟩, hconversation, hmessage⟩ := h
    obtain rfl : kind = "read_receipt" := by simpa [hkind] using htype
    have hname : name = "to_user_id" ∨ name = "conversation_id" ∨ name = "message_id" := by
      simpa [fieldsOf] using hname
    rcases hname with rfl | rfl | rfl
    · exact .inl ⟨_, htarget, by simp [accepts, hint hfits]⟩
    · exact .inl ⟨_, hconversation, by simp [accepts, str?]⟩
    · cases message with
      | none =>
        rcases hmessage with hmissing | hnull
        · exact .inr ⟨rfl, hmissing⟩
        · exact .inl ⟨_, hnull, by simp [accepts, Record.orNull]⟩
      | some id =>
        have hread : Record.orNull int64? (.int id) = some (some id) :=
          orNull_eq_some_iff.mpr ⟨rfl, hmessage.2⟩
        exact .inl ⟨_, hmessage.1, by simp [accepts, hread]⟩

theorem DescribedBy.of_perm {e : ClientEvent} {members' : List (String × Json)} (h : e.DescribedBy members)
    (hsame : ∀ name, Counts members name → (values name members).Perm (values name members')) :
    e.DescribedBy members' := by
  have hone {name : String} {v : Json} (hv : values name members = [v]) (hcounts : Counts members name) :
      values name members' = [v] := (List.singleton_perm.mp (hv ▸ hsame name hcounts)).symm
  cases e with
  | ping => exact hone h (.inl rfl)
  | typing target =>
    obtain ⟨htype, htarget, hfits⟩ := h
    exact ⟨hone htype (.inl rfl), hone htarget (.inr ⟨_, htype, by simp [fieldsOf]⟩), hfits⟩
  | readReceipt target conversation message =>
    obtain ⟨htype, ⟨htarget, hfits⟩, hconversation, hmessage⟩ := h
    have hcounts {name : String} (hname : name ∈ fieldsOf "read_receipt") : Counts members name :=
      .inr ⟨_, htype, hname⟩
    have hid : Counts members "message_id" := hcounts (by simp [fieldsOf])
    refine ⟨hone htype (.inl rfl), ⟨hone htarget (hcounts (by simp [fieldsOf])), hfits⟩,
      hone hconversation (hcounts (by simp [fieldsOf])), ?_⟩
    cases message with
    | none =>
      rcases hmessage with hmissing | hnull
      · exact .inl (List.nil_perm.mp (hmissing ▸ hsame "message_id" hid))
      · exact .inr (hone hnull hid)
    | some id => exact ⟨hone hmessage.1 hid, hmessage.2⟩

theorem counts_congr {members' : List (String × Json)}
    (htype : (values "type" members).Perm (values "type" members')) :
    Counts members name ↔ Counts members' name := by
  unfold Counts
  refine or_congr_right (exists_congr fun kind => and_congr_left fun _ => ?_)
  constructor
  · exact fun h => (List.singleton_perm.mp (h ▸ htype)).symm
  · exact fun h => List.perm_singleton.mp (h ▸ htype)

theorem describedBy_congr {e : ClientEvent} {members' : List (String × Json)}
    (hsame : ∀ name, Counts members name → (values name members).Perm (values name members')) :
    e.DescribedBy members ↔ e.DescribedBy members' := by
  refine ⟨fun h => h.of_perm hsame, fun h => h.of_perm fun name hname => ?_⟩
  exact (hsame name ((counts_congr (hsame "type" (.inl rfl))).mpr hname)).symm

/-! ## Texts -/

/-- The numbers of an event have 64 bits. -/
def Legible : ClientEvent → Prop
  | ping => True
  | typing target => IntRange.int64.contains target = true
  | readReceipt target _ message => IntRange.int64.contains target = true ∧
      ∀ id, message = some id → IntRange.int64.contains id = true

variable {e : ClientEvent}

theorem Legible.readable (h : e.Legible) : Readable Raw.greatestDepth e.toJson := by
  cases e with
  | ping => exact .obj (by simp [Readable.str])
  | typing target => exact .obj (by simp [Readable.str, readable_int h])
  | readReceipt target conversation message =>
    have hid : Readable 126 (ofOption .int message) := by
      cases message with
      | none => exact .scalar trivial
      | some id => exact readable_int (h.2 id rfl)
    exact .obj (by simp [Readable.str, readable_int h.1, hid])

theorem whole_toJson (e : ClientEvent) : e.toJson.whole = true := by
  cases e with
  | readReceipt target conversation message => cases message <;> rfl
  | _ => rfl

theorem Legible.ofJson?_toJson (h : e.Legible) : ofJson? e.toJson = some e := by
  cases e with
  | ping => exact ofJson?_obj_iff.mpr rfl
  | typing target => exact ofJson?_obj_iff.mpr ⟨rfl, rfl, h⟩
  | readReceipt target conversation message =>
    refine ofJson?_obj_iff.mpr ⟨rfl, ⟨rfl, h.1⟩, rfl, ?_⟩
    cases message with
    | none => exact .inr rfl
    | some id => exact ⟨rfl, h.2 id rfl⟩

theorem Legible.ofText?_toText (h : e.Legible) : ofText? e.toJson.toText = some e := by
  rw [ofText?, h.readable.ofString?_toText e.whole_toJson, Option.bind_some, h.ofJson?_toJson]

/-- What holds of a text that is an object with those members. -/
structure Recognised (text : String) (members : List (String × Json)) : Prop where
  /-- It is the event that its members describe, or none. -/
  described : ∀ e, ofText? text = some e ↔ e.DescribedBy members
  /-- A text whose object has the same values of the names that count is the same event. -/
  content : ∀ text' members', Json.ofString? text' = some (.obj members') →
    (∀ name, Counts members name → (values name members).Perm (values name members')) →
      ofText? text' = ofText? text
  /-- The order of the members makes no difference. -/
  reordered : ∀ text' members', Json.ofString? text' = some (.obj members') → members.Perm members' →
    ofText? text' = ofText? text
  /-- A member of a name that does not count makes no difference, wherever it stands. -/
  inserted : ∀ text' before after other v, members = before ++ after →
    Json.ofString? text' = some (.obj (before ++ (other, v) :: after)) → ¬ Counts members other →
      ofText? text' = ofText? text
  /-- No name that counts may be repeated. -/
  repeated : ∀ name, Counts members name → 1 < (values name members).length → ofText? text = none
  /-- Every name that counts must have a value that it may have. -/
  mistaken : ∀ name v, Counts members name → values name members = [v] → accepts name v = false →
    ofText? text = none
  /-- Every name that counts but that of the message must stand. -/
  required : ∀ name, Counts members name → name ≠ "message_id" → values name members = [] →
    ofText? text = none
  /-- Without a message, or with `null` for it, a receipt names none. -/
  absent : ∀ target conversation, values "type" members = [.str "read_receipt"] →
    values "to_user_id" members = [.int target] → IntRange.int64.contains target = true →
    values "conversation_id" members = [.str conversation] →
    values "message_id" members = [] ∨ values "message_id" members = [.null] →
      ofText? text = some (readReceipt target conversation none)
  unknown : ∀ kind, values "type" members = [.str kind] → kind ∉ ["ping", "typing", "read_receipt"] →
    ofText? text = none
  /-- Nothing but its name counts for a ping. -/
  pinged : values "type" members = [.str "ping"] → ofText? text = some ping

theorem recognised {text : String} (h : Json.ofString? text = some (.obj members)) :
    Recognised text members := by
  have hread {text : String} {members : List (String × Json)} (h : Json.ofString? text = some (.obj members))
      (e : ClientEvent) : ofText? text = some e ↔ e.DescribedBy members := by
    rw [ofText?, h, Option.bind_some, ofJson?_obj_iff]
  have hcontent : ∀ text' members', Json.ofString? text' = some (.obj members') →
      (∀ name, Counts members name → (values name members).Perm (values name members')) →
        ofText? text' = ofText? text := by
    intro text' members' h' hsame
    refine Option.ext fun e => ?_
    rw [hread h', hread h, describedBy_congr hsame]
  -- Whatever stands otherwise than it must describes no event.
  have hnone (name : String) (hname : Counts members name)
      (hnot : ¬ ∃ v, values name members = [v] ∧ accepts name v = true)
      (hthere : name = "message_id" → values name members ≠ []) : ofText? text = none := by
    rw [Option.eq_none_iff_forall_ne_some]
    intro e he
    rcases ((hread h e).mp he).standing hname with hstands | ⟨hid, hmissing⟩
    · exact hnot hstands
    · exact hthere hid hmissing
  constructor
  case described => exact hread h
  case content => exact hcontent
  case reordered =>
    exact fun text' members' h' hperm => hcontent text' members' h' fun name _ => (hperm.filter _).map _
  case inserted =>
    rintro text' before after other v rfl h' hother
    refine hcontent text' _ h' fun name hname => ?_
    have hne : (other == name) = false := beq_false_of_ne fun heq => hother (heq ▸ hname)
    simp only [values, List.filter_append, List.filter_cons, hne, Bool.false_eq_true, if_false]
    exact .refl _
  case repeated =>
    intro name hname hlength
    refine hnone name hname ?_ fun _ hmissing => by simp [hmissing] at hlength
    rintro ⟨v, hv, -⟩
    simp [hv] at hlength
  case mistaken =>
    intro name v hname hv hnot
    refine hnone name hname ?_ fun _ hmissing => by simp [hv] at hmissing
    rintro ⟨w, hw, haccepts⟩
    obtain rfl : v = w := by simpa [hv] using hw
    simp [hnot] at haccepts
  case required =>
    intro name hname hne hmissing
    refine hnone name hname ?_ fun heq => (hne heq).elim
    rintro ⟨v, hv, -⟩
    simp [hmissing] at hv
  case absent =>
    exact fun target conversation htype htarget hfits hconversation hid =>
      (hread h _).mpr ⟨htype, ⟨htarget, hfits⟩, hconversation, hid⟩
  case unknown =>
    intro kind hkind hunknown
    rw [Option.eq_none_iff_forall_ne_some]
    intro e he
    have hdescribed := (hread h e).mp he
    cases e with
    | ping => simp_all [DescribedBy]
    | typing => simp_all [DescribedBy]
    | readReceipt => simp_all [DescribedBy]
  case pinged => exact fun hping => (hread h ping).mpr hping

/-- **Events are recognised by their content.** An event is read back from its own text;
blanks and the way in which strings are written make no difference; and of an object
only the values of `type` and of the fields of the event that it names count. -/
theorem recognised_by_content :
    (∀ e : ClientEvent, e.Legible → ofText? e.toJson.toText = some e) ∧
    (∀ (text text' : String) (r : Raw), Written (text.toList.map some) r →
      Written (text'.toList.map some) r → ofText? text = ofText? text') ∧
    ∀ (text : String) (members : List (String × Json)), Json.ofString? text = some (.obj members) →
      Recognised text members := by
  refine ⟨fun e => Legible.ofText?_toText, fun text text' r hr hr' => ?_, fun _ _ => recognised⟩
  have hread {text : String} (hr : Written (text.toList.map some) r) : Json.ofString? text = r.value? := by
    rw [Json.ofString?, Json.read?, raw?_eq_some_iff.mpr hr, Option.bind_some]
  rw [ofText?, ofText?, hread hr, hread hr']

/-- Members of which `type` stands last and one that is unknown first. -/
def typingLast : List (String × Json) :=
  [("mood", .arr []), ("to_user_id", .int 7), ("type", .str "typing")]

theorem typing_recognised_by_content :
    (typing 7).Legible ∧ ofText? (typing 7).toJson.toText = some (typing 7) ∧
      Json.ofString? (Json.obj typingLast).toText = some (.obj typingLast) ∧
      ofText? (Json.obj typingLast).toText = some (typing 7) := by
  have hlegible : (typing 7).Legible := by
    unfold Legible
    decide
  have hreadable : Readable Raw.greatestDepth (.obj typingLast) := by
    refine .obj ?_
    simp only [typingLast, List.forall_mem_cons, List.not_mem_nil, false_implies, implies_true, and_true]
    exact ⟨.arr nofun, readable_int (by decide), .str _⟩
  have hread := hreadable.ofString?_toText rfl
  exact ⟨hlegible, recognised_by_content.1 _ hlegible, hread,
    ((recognised_by_content.2.2 _ _ hread).described _).mpr ⟨rfl, rfl, rfl⟩⟩

end ClientEvent
end Parley
