/-
Frames tell what they are.

A string in quotes can be read back to its end (`quote_append_inj`), so two
frames that are written alike have one kind (`Envelope.parts_of_frame`). The
frame of a new message tells its id, whatever texts the message holds
(`Message.id_of_newFrame`), and so do the notices of its recall and of its
deletion (`Message.frameOf_inj`).
-/
import Parley.Envelope
import Parley.Proofs.Keys
import Parley.Schema

namespace Parley

namespace Json

open Text (digit digitValue? isDigit integer integer_injective)

/-! ## Strings -/

/-- Takes one character back from the text of a string. -/
def readEscaped : List Char → Option (Char × List Char)
  | '\\' :: 'u' :: _ :: _ :: a :: b :: s => do
    let high ← hexDigit? a
    let low ← hexDigit? b
    pure (Char.ofNat (16 * high + low), s)
  | '\\' :: c :: s => (escaped? c).map fun d => (d, s)
  | c :: s => some (c, s)
  | [] => none

theorem hexDigit?_hexDigit {n : Nat} (h : n < 16) : hexDigit? (hexDigit n) = some n := by
  have all : ∀ k ∈ List.range 16, hexDigit? (hexDigit k) = some k := by decide
  exact all n (List.mem_range.mpr h)

theorem escape_cases (c : Char) :
    (∃ letter, escaped? letter = some c ∧ escape c = ['\\', letter]) ∨
    (c.toNat < 0x20 ∧
      escape c = ['\\', 'u', '0', '0', hexDigit (c.toNat / 16), hexDigit (c.toNat % 16)]) ∨
    (c ≠ '"' ∧ c ≠ '\\' ∧ ¬ c.toNat < 0x20 ∧ escape c = [c]) := by
  unfold escape
  split
  · next h => exact .inl ⟨'"', by rw [h]; rfl, rfl⟩
  split
  · next h => exact .inl ⟨'\\', by rw [h]; rfl, rfl⟩
  split
  · next h => exact .inl ⟨'b', by rw [h]; rfl, rfl⟩
  split
  · next h => exact .inl ⟨'f', by rw [h]; rfl, rfl⟩
  split
  · next h => exact .inl ⟨'n', by rw [h]; rfl, rfl⟩
  split
  · next h => exact .inl ⟨'r', by rw [h]; rfl, rfl⟩
  split
  · next h => exact .inl ⟨'t', by rw [h]; rfl, rfl⟩
  split
  · next hcontrol => exact .inr (.inl ⟨hcontrol, rfl⟩)
  · next hquote hslash _ _ _ _ _ hcontrol => exact .inr (.inr ⟨hquote, hslash, hcontrol, rfl⟩)

theorem readEscaped_escape (c : Char) (s : List Char) : readEscaped (escape c ++ s) = some (c, s) := by
  rcases escape_cases c with ⟨letter, hletter, hescape⟩ | ⟨hcontrol, hescape⟩ | ⟨-, hslash, -, hescape⟩
  · have hunit : letter ≠ 'u' := by
      rintro rfl
      cases hletter
    rw [hescape, List.cons_append, List.cons_append, List.nil_append, readEscaped, hletter]
    · rfl
    · exact fun _ _ _ _ _ h => absurd h hunit
  · rw [hescape]
    simp only [List.cons_append, List.nil_append, readEscaped]
    rw [hexDigit?_hexDigit (by omega), hexDigit?_hexDigit (by omega)]
    simp [Nat.div_add_mod]
  · rw [hescape, List.cons_append, List.nil_append, readEscaped]
    · exact fun _ _ _ _ _ h => absurd h hslash
    · exact fun _ _ h => absurd h hslash

theorem escape_append_inj {c d : Char} {s t : List Char} (h : escape c ++ s = escape d ++ t) :
    c = d ∧ s = t := by
  have hread := congrArg readEscaped h
  rw [readEscaped_escape, readEscaped_escape] at hread
  simpa using hread

theorem quote_ne_escape {c : Char} {s t : List Char} : '"' :: t ≠ escape c ++ s := by
  intro h
  have hread := congrArg readEscaped h
  rw [readEscaped_escape] at hread
  obtain ⟨rfl, -⟩ := Prod.mk.inj (Option.some.inj hread)
  cases h

theorem escaped_append_inj {s s' t t' : List Char}
    (h : s.flatMap escape ++ '"' :: t = s'.flatMap escape ++ '"' :: t') : s = s' ∧ t = t' := by
  induction s generalizing s' with
  | nil =>
    cases s' with
    | nil => simpa using h
    | cons c s' =>
      rw [List.flatMap_nil, List.flatMap_cons, List.append_assoc, List.nil_append] at h
      exact absurd h quote_ne_escape
  | cons c s ih =>
    rw [List.flatMap_cons, List.append_assoc] at h
    cases s' with
    | nil => exact absurd h.symm quote_ne_escape
    | cons d s' =>
      rw [List.flatMap_cons, List.append_assoc] at h
      obtain ⟨rfl, hrest⟩ := escape_append_inj h
      obtain ⟨rfl, rfl⟩ := ih hrest
      exact ⟨rfl, rfl⟩

theorem quote_append_inj {s s' : String} {t t' : List Char} (h : quote s ++ t = quote s' ++ t') :
    s = s' ∧ t = t' := by
  simp only [quote, List.cons_append, List.append_assoc, List.cons.injEq, true_and, List.nil_append] at h
  obtain ⟨hs, ht⟩ := escaped_append_inj h
  exact ⟨String.toList_injective hs, ht⟩

/-! ## Members -/

/-- A string or a whole number. -/
def Flat : Json → Prop
  | .str _ | .int _ => True
  | _ => False

/-- The text of the members of an object. -/
def membersText (members : List (String × Json)) : List Char :=
  (separated (tokensOfMembers members)).flatMap Token.spell

/-- What stands behind a member. -/
def behindMember : List (String × Json) → List Char
  | [] => ['\x7d']
  | members => ',' :: (membersText members ++ ['\x7d'])

theorem write_obj (members : List (String × Json)) :
    write (.obj members) = '\x7b' :: (membersText members ++ ['\x7d']) := by
  simp [write, tokens, Token.spell, membersText]

theorem membersText_cons (name : String) (v : Json) (members : List (String × Json)) :
    membersText ((name, v) :: members) ++ ['\x7d'] =
      quote name ++ ':' :: (write v ++ behindMember members) := by
  cases members <;>
    simp [membersText, tokensOfMembers, separated, Token.spell, write, behindMember]

theorem append_inj_of_stops {p : Char → Bool} {s s' t t' : List Char} (hs : ∀ c ∈ s, p c = true)
    (hs' : ∀ c ∈ s', p c = true) (ht : ∀ c ∈ t.head?, p c = false) (ht' : ∀ c ∈ t'.head?, p c = false)
    (h : s ++ t = s' ++ t') : s = s' ∧ t = t' := by
  have hstop {u : List Char} (hu : ∀ c ∈ u.head?, p c = false) : u.takeWhile p = [] := by
    cases u with
    | nil => rfl
    | cons c u => exact List.takeWhile_cons_of_neg (by simp [hu c rfl])
  have htake := congrArg (List.takeWhile p) h
  rw [List.takeWhile_append_of_pos hs, List.takeWhile_append_of_pos hs', hstop ht, hstop ht',
    List.append_nil, List.append_nil] at htake
  subst htake
  exact ⟨rfl, List.append_cancel_left h⟩

/-- Whether a character may stand in a whole number. -/
def isIntegerChar (c : Char) : Bool := isDigit c || c == '-'

theorem isIntegerChar_of_mem {i : Int} {c : Char} (h : c ∈ integer i) : isIntegerChar c = true := by
  rcases Text.mem_integer h with hdigit | rfl
  · simp [isIntegerChar, hdigit]
  · rfl

theorem not_isIntegerChar_behind (members : List (String × Json)) :
    ∀ c ∈ (behindMember members).head?, isIntegerChar c = false := by
  cases members with
  | nil =>
    rintro c ⟨⟩
    rfl
  | cons m members =>
    rintro c ⟨⟩
    rfl

theorem quote_ne_integer {i : Int} {s : List Char} {members : List (String × Json)} :
    '"' :: s ≠ integer i ++ behindMember members := by
  intro h
  cases hi : integer i with
  | nil =>
    rw [hi] at h
    cases members <;> cases h
  | cons c digits =>
    rw [hi] at h
    have hc : isIntegerChar c = true := isIntegerChar_of_mem (i := i) (by simp [hi])
    rw [← (List.cons.inj h).1] at hc
    simp [isIntegerChar, isDigit, digitValue?] at hc

@[simp] theorem write_str (s : String) : write (.str s) = quote s := by simp [write, tokens, Token.spell]

@[simp] theorem write_int (i : Int) : write (.int i) = integer i := by
  simp [write, tokens, Token.spell, writeScalar]

theorem flat_append_inj {v v' : Json} (hv : v.Flat) (hv' : v'.Flat)
    {members members' : List (String × Json)}
    (h : write v ++ behindMember members = write v' ++ behindMember members') :
    v = v' ∧ behindMember members = behindMember members' := by
  cases v with
  | str s =>
    rw [write_str] at h
    cases v' with
    | str s' =>
      rw [write_str] at h
      obtain ⟨rfl, hbehind⟩ := quote_append_inj h
      exact ⟨rfl, hbehind⟩
    | int j =>
      rw [write_int] at h
      exact absurd h quote_ne_integer
    | _ => exact hv'.elim
  | int i =>
    rw [write_int] at h
    cases v' with
    | str s =>
      rw [write_str] at h
      exact absurd h.symm quote_ne_integer
    | int j =>
      rw [write_int] at h
      obtain ⟨hi, hbehind⟩ := append_inj_of_stops (fun _ => isIntegerChar_of_mem)
        (fun _ => isIntegerChar_of_mem) (not_isIntegerChar_behind _) (not_isIntegerChar_behind _) h
      exact ⟨by rw [integer_injective hi], hbehind⟩
    | _ => exact hv'.elim
  | _ => exact hv.elim

/-- **Objects of strings and whole numbers are written alike only if they
have the same members.** -/
theorem members_inj {members members' : List (String × Json)} (flat : ∀ m ∈ members, m.2.Flat)
    (flat' : ∀ m ∈ members', m.2.Flat)
    (h : membersText members ++ ['\x7d'] = membersText members' ++ ['\x7d']) : members = members' := by
  induction members generalizing members' with
  | nil =>
    cases members' with
    | nil => rfl
    | cons m members' =>
      rw [membersText_cons] at h
      cases h
  | cons m members ih =>
    rw [membersText_cons] at h
    cases members' with
    | nil => cases h
    | cons m' members' =>
      rw [membersText_cons] at h
      obtain ⟨hname, h⟩ := quote_append_inj h
      obtain ⟨hvalue, hbehind⟩ := flat_append_inj (flat _ List.mem_cons_self)
        (flat' _ List.mem_cons_self) (List.cons.inj h).2
      rw [Prod.ext hname hvalue]
      congr 1
      cases members with
      | nil =>
        cases members' with
        | nil => rfl
        | cons => cases hbehind
      | cons =>
        cases members' with
        | nil => cases hbehind
        | cons =>
          exact ih (fun m hm => flat m (List.mem_cons_of_mem _ hm))
            (fun m hm => flat' m (List.mem_cons_of_mem _ hm)) (List.cons.inj hbehind).2

end Json

/-! ## Frames -/

theorem Envelope.parts_of_frame {e e' : Envelope} (h : e.frame = e'.frame) :
    e.kind = e'.kind ∧ e.content.normal.write = e'.content.normal.write := by
  have htext := String.ofList_injective h
  rw [Json.write_obj, Json.write_obj, Json.membersText_cons, Json.membersText_cons, Json.write_str,
    Json.write_str] at htext
  -- Both texts begin with the name of the first member.
  have hkind := (Json.quote_append_inj (List.cons.inj htext).2).2
  obtain ⟨he, hbehind⟩ := Json.quote_append_inj (List.cons.inj hkind).2
  refine ⟨he, ?_⟩
  have hcontent := (List.cons.inj hbehind).2
  rw [Json.membersText_cons, Json.membersText_cons] at hcontent
  exact List.append_cancel_right (List.cons.inj (Json.quote_append_inj hcontent).2).2

/-- The members of a message in the order in which a frame has them. -/
def Message.sortedMembers (m : Message) : List (String × Json) :=
  [("content", .str m.content), ("conversation_id", .str m.conversation),
    ("created_at", m.createdAt.toJson)]
  ++ (match m.extra with | some e => [("extra", .str e)] | none => [])
  ++ [("from_user_id", .int m.sender), ("id", .int m.id), ("message_type", m.kind.toJson),
    ("seq", .int m.seq), ("status", m.status.toJson), ("to_user_id", .int m.recipient),
    ("updated_at", m.updatedAt.toJson)]

theorem Message.normal_toJson (m : Message) : m.toJson.normal = .obj m.sortedMembers := by
  cases h : m.extra <;>
    simp only [toJson, members, sortedMembers, h, Json.normal, Json.normalMembers, Json.insertMember,
      MessageKind.toJson, Status.toJson, Time.Instant.toJson, List.cons_append, List.nil_append,
      List.append_nil, String.reduceEq, String.reduceLT, if_true, if_false]

theorem Message.flat_members (m : Message) : ∀ p ∈ m.sortedMembers, p.2.Flat := by
  cases h : m.extra <;>
    simp [sortedMembers, h, Json.Flat, MessageKind.toJson, Status.toJson, Time.Instant.toJson]

/-- The frame that tells of a message that was stored. -/
def Message.newFrame (m : Message) : String := (Envelope.mk EventKind.newMessage m.toJson).frame

theorem Envelope.frame_ne_newFrame {e : Envelope} (h : e.kind ≠ EventKind.newMessage) (m : Message) :
    e.frame ≠ m.newFrame := fun he => h (parts_of_frame he).1

theorem Message.id_of_newFrame {m n : Message} (h : m.newFrame = n.newFrame) : m.id = n.id := by
  obtain ⟨-, hcontent⟩ := Envelope.parts_of_frame h
  rw [normal_toJson, normal_toJson, Json.write_obj, Json.write_obj] at hcontent
  have hmembers := Json.members_inj m.flat_members n.flat_members (List.cons.inj hcontent).2
  have hid := congrArg (fun l => l.find? fun p => p.1 == "id") hmembers
  cases hm : m.extra <;> cases hn : n.extra <;> simpa [sortedMembers, hm, hn] using hid

/-! ## News -/

/-- What users are told of a message: that it is there, or was recalled or
deleted. -/
inductive News where
  | stored
  | recalled
  | deleted
deriving DecidableEq, Repr

/-- The kind of the events that tell it. -/
def News.kind : News → String
  | stored => EventKind.newMessage
  | recalled => EventKind.messageRecalled
  | deleted => EventKind.messageDeleted

theorem News.kind_injective {a b : News} (h : a.kind = b.kind) : a = b := by
  revert h
  cases a <;> cases b <;> decide

/-- The message itself, or the notice of what an operator did to it. -/
def Message.contentOf (m : Message) (operator : UserId) : News → Json
  | .stored => m.toJson
  | .recalled | .deleted => .obj [("message_id", .int m.id), ("conversation_id", .str m.conversation),
    ("operator_id", .int operator)]

/-- The frame that tells news of a message. -/
def Message.frameOf (m : Message) (operator : UserId) (news : News) : String :=
  (Envelope.mk news.kind (m.contentOf operator news)).frame

/-- The members of a notice in the order in which a frame has them. -/
def Message.noticeMembers (m : Message) (operator : UserId) : List (String × Json) :=
  [("conversation_id", .str m.conversation), ("message_id", .int m.id), ("operator_id", .int operator)]

theorem Message.normal_notice (m : Message) (operator : UserId) {news : News} (h : news ≠ .stored) :
    (m.contentOf operator news).normal = .obj (m.noticeMembers operator) := by
  cases news with
  | stored => exact absurd rfl h
  | recalled | deleted =>
    simp only [contentOf, noticeMembers, Json.normal, Json.normalMembers, Json.insertMember, String.reduceEq,
      String.reduceLT, if_true, if_false]

theorem Message.flat_notice (m : Message) (operator : UserId) : ∀ p ∈ m.noticeMembers operator, p.2.Flat := by
  simp [noticeMembers, Json.Flat]

/-- **A frame tells which news it brings, and of which message.** -/
theorem Message.frameOf_inj {m n : Message} {operator operator' : UserId} {a b : News}
    (h : m.frameOf operator a = n.frameOf operator' b) : m.id = n.id ∧ a = b := by
  obtain ⟨hkind, hcontent⟩ := Envelope.parts_of_frame h
  obtain rfl := News.kind_injective hkind
  refine ⟨?_, rfl⟩
  by_cases hstored : a = .stored
  · subst hstored
    exact id_of_newFrame h
  · rw [normal_notice m operator hstored, normal_notice n operator' hstored, Json.write_obj,
      Json.write_obj] at hcontent
    have hmembers := Json.members_inj (m.flat_notice operator) (n.flat_notice operator')
      (List.cons.inj hcontent).2
    simp only [noticeMembers, List.cons.injEq, Prod.mk.injEq, Json.int.injEq] at hmembers
    exact hmembers.2.1.2

theorem Message.frameOf_ne {e : Envelope} {news : News} (h : e.kind ≠ news.kind) (m : Message)
    (operator : UserId) : e.frame ≠ m.frameOf operator news := fun he => h (Envelope.parts_of_frame he).1

end Parley
