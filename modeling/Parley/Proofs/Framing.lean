/-
What is pushed arrives as it was pushed.

The text of an envelope is read back as the envelope, as long as its content
is readable and has no double (`Envelope.ofFrame?_frame`). What the text of a
request holds as content is readable (`PushRequest.readable`), so a frame
tells what was pushed, and how the request was laid out makes no difference
(`frames_tell_what_was_pushed`).
-/
import Parley.Push
import Parley.Proofs.Json.Forms

namespace Parley

open Json

/-! ## Envelopes -/

namespace Envelope

/-- The frame of an envelope as a value. -/
def document (e : Envelope) : Json := .obj [("type", .str e.kind), ("content", e.content.normal)]

variable {e : Envelope}

theorem readable_document (h : Readable (Raw.greatestDepth - 1) e.content) :
    Readable Raw.greatestDepth e.document := by
  refine Readable.obj ?_
  intro m hm
  simp only [List.mem_cons, List.not_mem_nil, or_false] at hm
  rcases hm with rfl | rfl
  · exact .str e.kind
  · exact h.normal

theorem whole_document (h : e.content.normal.whole = true) : e.document.whole = true := by
  simp [document, whole, wholeMembers, h]

theorem form_document (h : Readable (Raw.greatestDepth - 1) e.content) :
    form.ofRaw? (tree e.document) = some ⟨e.kind, e.content.normal⟩ := by
  have hcontent : (tree e.content.normal).partValue? = some e.content.normal :=
    h.normal.valueWithin?_tree
  have hkind : (Raw.scalar (.str e.kind)).partValue? = some (.str e.kind) := rfl
  have hrestrict : (tree e.document).restrict? form.names = some e.document := by
    simp [document, tree, treeOfMembers, Raw.restrict?, Raw.restrictMembers?, form, hcontent, hkind]
  rw [Form.ofRaw?, hrestrict, Option.bind_some]
  simp [Form.ofJson?, document, record?, distinct, form, Record.required, Record.get?, str?, normal_normal]

/-- **A frame is read back as the envelope**, its content in normal form. -/
theorem ofFrame?_frame (h : Readable (Raw.greatestDepth - 1) e.content)
    (hwhole : e.content.normal.whole = true) : ofFrame? e.frame = some ⟨e.kind, e.content.normal⟩ := by
  have hraw : raw? ((write e.document).map some) = some (tree e.document) :=
    (readable_document h).raw?_write (whole_document hwhole)
  have hframe : e.frame.toList = write e.document := String.toList_ofList
  rw [ofFrame?, Form.ofText?_eq, Form.scanned?, hframe, hraw, Option.bind_some]
  exact form_document h

end Envelope

/-! ## Requests -/

namespace PushRequest

/-- The text of the frame of a request. -/
def frame (r : PushRequest) : String := (Envelope.mk r.kind r.content).frame

variable {s : List (Option Char)} {r : PushRequest}

theorem readable (h : form.scanned? s = some r) :
    Readable (Raw.greatestDepth - 1) r.content ∧ r.content.normal = r.content := by
  obtain ⟨R, hmake, hfields⟩ := Form.readable_of_scanned? h
  obtain ⟨user, -, hmake⟩ := Option.bind_eq_some_iff.mp hmake
  obtain ⟨kind, -, hmake⟩ := Option.bind_eq_some_iff.mp hmake
  obtain ⟨content, hcontent, hmake⟩ := Option.bind_eq_some_iff.mp hmake
  cases hmake
  refine ⟨Readable.normal ?_, normal_normal content⟩
  unfold Record.defaulted at hcontent
  split at hcontent
  · next v hv =>
    cases hcontent
    exact hfields _ _ hv
  · cases hcontent
    exact .scalar trivial

/-- The frame of a request is read back as its kind and content. -/
theorem ofFrame?_frame (hread : form.scanned? s = some r) (hwhole : r.content.whole = true) :
    Envelope.ofFrame? r.frame = some ⟨r.kind, r.content⟩ := by
  obtain ⟨hreadable, hnormal⟩ := readable hread
  have hframe := Envelope.ofFrame?_frame (e := ⟨r.kind, r.content⟩) hreadable (by rwa [hnormal])
  rwa [hnormal] at hframe

theorem normalizing : form.Normalizing := by
  intro R R' _ h
  have huser : R.required "user_id" int64? = R'.required "user_id" int64? :=
    Record.required_congr (fun v => by cases v <;> rfl) (h _)
  have hkind : R.required "type" str? = R'.required "type" str? :=
    Record.required_congr (fun v => by cases v <;> rfl) (h _)
  have hcontent : (R.defaulted "content" .null some).map normal =
      (R'.defaulted "content" .null some).map normal := Record.defaulted_congr (h _)
  simp only [form, huser, hkind]
  cases R'.required "user_id" int64? with
  | none => rfl
  | some user =>
    cases R'.required "type" str? with
    | none => rfl
    | some kind =>
      cases hc : R.defaulted "content" .null some with
      | none =>
        cases hc' : R'.defaulted "content" .null some with
        | none => rfl
        | some c' => simp [hc, hc'] at hcontent
      | some c =>
        cases hc' : R'.defaulted "content" .null some with
        | none => simp [hc, hc'] at hcontent
        | some c' =>
          have hnormal : c.normal = c'.normal := by simpa [hc, hc'] using hcontent
          simp [hnormal]

theorem push_eq (huser : 0 < r.user) (hkind : Text.blank r.kind = false) :
    push r = Action.query (.offer r.user r.frame) := by
  rw [push, if_neg (Int.not_le.mpr huser), hkind]
  rfl

theorem push_refused (h : r.user ≤ 0 ∨ Text.blank r.kind = true) : ∃ e, push r = throw e := by
  unfold push
  split
  · exact ⟨_, rfl⟩
  · next huser =>
    rw [if_pos (h.resolve_left huser)]
    exact ⟨_, rfl⟩

/-- What holds of the frame of a request that is read from a text. -/
structure Told (s : List (Option Char)) (r : PushRequest) : Prop where
  /-- This frame and no other is offered to the user. -/
  pushed : 0 < r.user → Text.blank r.kind = false → push r = Action.query (.offer r.user r.frame)
  refused : r.user ≤ 0 ∨ Text.blank r.kind = true → ∃ e, push r = throw e
  /-- The frame is read back as what was pushed. -/
  decodes : Envelope.ofFrame? r.frame = some ⟨r.kind, r.content⟩
  /-- A request of another kind or with another content has another frame. -/
  distinct : ∀ s' r', form.scanned? s' = some r' → r'.content.whole = true →
    r.kind ≠ r'.kind ∨ r.content ≠ r'.content → r.frame ≠ r'.frame
  /-- A text that is only laid out in another way has the same frame. -/
  respelled : ∀ s', Respelled s s' → ∃ r', form.scanned? s' = some r' ∧ r'.frame = r.frame

end PushRequest

open PushRequest (form Told)

/-- **A frame tells what was pushed.** Whatever text a request without doubles
is read from, its frame decodes as its kind and content, differs from the
frames of all requests of another kind or content, and does not depend on
blanks, escapes and the order of members. -/
theorem frames_tell_what_was_pushed {s : List (Option Char)} {r : PushRequest}
    (hread : form.scanned? s = some r) (hwhole : r.content.whole = true) : Told s r := by
  have hdecoded := PushRequest.ofFrame?_frame hread hwhole
  refine ⟨PushRequest.push_eq, PushRequest.push_refused, hdecoded, ?_, ?_⟩
  · intro s' r' hread' hwhole' hne hframe
    have heq : some ⟨r'.kind, r'.content⟩ = some (Envelope.mk r.kind r.content) := by
      rw [← PushRequest.ofFrame?_frame hread' hwhole', ← hframe, hdecoded]
    obtain ⟨hkind, hcontent⟩ := Envelope.mk.inj (Option.some.inj heq)
    rcases hne with hne | hne
    · exact hne hkind.symm
    · exact hne hcontent.symm
  · intro s' hrespelled
    exact ⟨r, (hrespelled.scanned?_eq PushRequest.normalizing).symm.trans hread, rfl⟩

/-- A request whose text has a quote in its kind, a name twice, the least
and greatest numbers and a control character. -/
def escapedRequest : String := "\x7b\"content\": \x7b\"b\": [-9223372036854775808, 18446744073709551615], "
  ++ "\"a\": null, \"a\": \"\\u0007\"\x7d, \"type\": \"a\\\"b\", \"user_id\": 7\x7d"

theorem frames_tell_what_was_pushed_of_escaped : ∃ r,
    form.scanned? (escapedRequest.toList.map some) = some r ∧ r.content.whole = true ∧
      r.frame = "\x7b\"type\":\"a\\\"b\",\"content\":\x7b\"a\":\"\\u0007\","
        ++ "\"b\":[-9223372036854775808,18446744073709551615]\x7d\x7d" ∧
      Told (escapedRequest.toList.map some) r := by
  have hread : (form.scanned? (escapedRequest.toList.map some)).map
      (fun r => (r.content.whole, r.frame)) =
        some (true, "\x7b\"type\":\"a\\\"b\",\"content\":\x7b\"a\":\"\\u0007\","
          ++ "\"b\":[-9223372036854775808,18446744073709551615]\x7d\x7d") := by decide +kernel
  obtain ⟨r, hread, heq⟩ := Option.map_eq_some_iff.mp hread
  obtain ⟨hwhole, hframe⟩ := Prod.mk.inj heq
  exact ⟨r, hread, hwhole, hframe, frames_tell_what_was_pushed hread hwhole⟩

end Parley
