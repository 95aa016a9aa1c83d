/-
Which request a response answers.

What a guard lets pass is answered with the id of its request: with its own, if
that is a text, and with the new one otherwise, whatever comes of the request
(`passing_traced`, `openSocket_traced`). What a guard refuses is answered without
an id, although it may have sent one. So responses can be told apart by ids if and
only if their requests were not refused (`Server.responses_traced_unless_refused`).
-/
import Parley.Proofs.Http.Access

namespace Parley.Http

open Time (Instant)

variable {c : Configuration} {now : Instant} {fresh : String} {r : Request} {outcome : Outcome}
  {l : List (Program.Exchange Surroundings.signature)}

/-- How the response to a request tells which request it answers. -/
structure Traced (c : Configuration) (now : Instant) (fresh : String) (r : Request) (outcome : Outcome) :
    Prop where
  /-- Only a refusal is without an id. -/
  missing : outcome.requestId? r fresh = none ↔ Refused c now r
  /-- An id that the request has sent comes back. -/
  own : ∀ id, ¬ Refused c now r → r.headers.Reads "x-request-id" id →
    outcome.requestId? r fresh = some id
  /-- A request without one is given the new one. -/
  new : ¬ Refused c now r → (∀ id, ¬ r.headers.Reads "x-request-id" id) →
    outcome.requestId? r fresh = some fresh

theorem requestIdOf_own {id : String} (h : r.headers.Reads "x-request-id" id) :
    requestIdOf r fresh = id := by
  rw [requestIdOf, Headers.text?_eq_some_iff.mpr h]
  rfl

theorem requestIdOf_new (h : ∀ id, ¬ r.headers.Reads "x-request-id" id) :
    requestIdOf r fresh = fresh := by
  have hnone : r.headers.text? "x-request-id" = none :=
    Option.eq_none_iff_forall_ne_some.mpr fun id hid => h id (Headers.text?_eq_some_iff.mp hid)
  rw [requestIdOf, hnone]
  rfl

theorem Traced.of_passed (h : ¬ Refused c now r)
    (hid : outcome.requestId? r fresh = some (requestIdOf r fresh)) : Traced c now fresh r outcome where
  missing := by simp [hid, h]
  own id _ hreads := by rw [hid, requestIdOf_own hreads]
  new _ hnone := by rw [hid, requestIdOf_new hnone]

theorem Traced.of_refused (h : Refused c now r) : Traced c now fresh r (refusal now) where
  missing := iff_of_true rfl h
  own _ hpassed := (hpassed h).elim
  new hpassed := (hpassed h).elim

theorem passing_traced {x : Answering Reply} (h : (passing fresh r x).Dialogue l outcome) :
    outcome.requestId? r fresh = some (requestIdOf r fresh) := by
  obtain ⟨reply, _, _, _, hdone, _⟩ := Program.dialogue_bind h
  obtain ⟨-, rfl⟩ := Program.dialogue_done hdone
  rfl

theorem openSocket_traced (h : (openSocket c now (requestIdOf r fresh) r).Dialogue l outcome) :
    outcome.requestId? r fresh = some (requestIdOf r fresh) := by
  have htraced : (openSocket c now (requestIdOf r fresh) r).Obeys (fun _ => True) (fun _ _ => True)
      fun outcome => outcome.requestId? r fresh = some (requestIdOf r fresh) := by
    unfold openSocket
    simp only
    split
    · exact rfl
    split
    · exact rfl
    refine ⟨trivial, fun opened _ => ?_⟩
    cases opened with
    | error f => exact rfl
    | ok session =>
      simp only [Program.bind]
      split
      · exact rfl
      · exact ⟨trivial, fun _ _ => rfl⟩
  exact htraced.ended h fun _ _ => trivial

theorem serve_traced (h : (serve c now fresh r).Dialogue l outcome) : Traced c now fresh r outcome := by
  by_cases hrefused : Refused c now r
  · rw [serve_refused hrefused] at h
    obtain ⟨-, rfl⟩ := Program.dialogue_done h
    exact .of_refused hrefused
  · refine .of_passed hrefused ?_
    rcases serve_admitted c now fresh r hrefused with ⟨-, he⟩ | ⟨x, -, he⟩
    · exact openSocket_traced (he ▸ h)
    · exact passing_traced (he ▸ h)

end Parley.Http

namespace Parley.Server

open Http (Traced)

/-- **The response to a request tells which request it answers, unless a guard refuses
it.** Whoever answers what is asked on the way, and from whatever state, exactly the
refusals are without an id. Every other response has one: the id of its request, if that
is a text, and the new one otherwise. -/
theorem responses_traced_unless_refused (fresh : String) (r : Http.Request) :
    (∀ c now l outcome, (Http.serve c now fresh r).Dialogue l outcome → Traced c now fresh r outcome) ∧
    ∀ {B : Backend} (s : Server B), Traced s.configuration s.now fresh r (s.serve fresh r).1 :=
  ⟨fun _ _ _ _ => Http.serve_traced, fun s => Http.serve_traced (serve_dialogue s fresh r)⟩

/-- A request for the health of the service. -/
def healthRequest (headers : Http.Headers) : Http.Request := ⟨"GET", "/health", headers, ""⟩

theorem healthRequest_passes (headers : Http.Headers) (c : Configuration) (now : Time.Instant) :
    ¬ Http.Refused c now (healthRequest headers) := by
  have harea : (Http.areaOf (healthRequest headers).path).1 = .everyone := by
    change (Http.areaOf (healthRequest []).path).1 = .everyone
    decide +kernel
  rintro (⟨h, -⟩ | ⟨h, -⟩) <;> exact nomatch harea.symm.trans h

/-- The health is told with the id that was sent, and with the new one if none was sent. -/
theorem health_traced :
    ((Server.fresh []).serve "new" (healthRequest [("x-request-id", "own")])).1.requestId?
        (healthRequest [("x-request-id", "own")]) "new" = some "own" ∧
      ((Server.fresh []).serve "new" (healthRequest [])).1.requestId? (healthRequest []) "new" = some "new" :=
  ⟨((responses_traced_unless_refused "new" _).2 _).own "own" (healthRequest_passes _ _ _)
      ⟨by decide, by decide⟩,
    ((responses_traced_unless_refused "new" _).2 _).new (healthRequest_passes _ _ _) fun _ h => nomatch h.1⟩

/-- A request for a number of unread messages, without a token. -/
def tokenlessRequest : Http.Request := ⟨"GET", "/message/v1/unread", [("x-request-id", "trace-1")], ""⟩

/-- **What a guard refuses is answered without the id that was sent.** -/
theorem refusal_not_traced :
    tokenlessRequest.headers.Reads "x-request-id" "trace-1" ∧
      ((Server.fresh []).serve "new" tokenlessRequest).1.requestId? tokenlessRequest "new" = none :=
  ⟨⟨by decide, by decide⟩, by decide +kernel⟩

end Parley.Server
