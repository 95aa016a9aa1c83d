/-
The bodies of errors.

`Documented` is the body that an error with a status is to have. Every failure has it
(`Failure.documented`), so a refusal has it too, and so has whatever an endpoint fails
with. What is answered before an endpoint comes to its work has another body, or none:
to a request that cannot be read, and to a handshake that fails (`Bypassed`). A body
tells the status of a message if and only if a recall or a deletion failed on it; the
last thing then asked was the archive, which showed the message with that status
(`Decided`). All of it is `Server.errors_documented_unless_bypassed`.
-/
import Parley.Proofs.Friends
import Parley.Proofs.Http.Access
import Parley.Proofs.Indifference

namespace Parley

open Surroundings (Ask SameAnswers signature)

/-! ## The documented body -/

/-- The class of the errors with a status, and their codes. -/
def errorClass : Nat → String × List String
  | 400 => ("validation_error",
      ["BAD_REQUEST", "INVALID_USER_ID", "INVALID_MESSAGE_TYPE", "EMPTY_CONTENT", "CONTENT_TOO_LONG"])
  | 401 => ("authentication_error", ["UNAUTHORIZED"])
  | 403 => ("authorization_error",
      ["NOT_FRIENDS", "NOT_MESSAGE_SENDER", "NOT_PARTICIPANT", "RECALL_WINDOW_EXPIRED"])
  | 404 => ("not_found_error", ["NOT_FOUND"])
  | 409 => ("conflict_error", ["STATUS_CONFLICT", "TRANSACTION_CONFLICT"])
  | 410 => ("conflict_error", ["ALREADY_RECALLED", "ALREADY_DELETED"])
  | 500 => ("server_error", ["CONFIG_ERROR", "START_SERVER", "DATABASE_ERROR"])
  | 502 => ("service_unavailable_error", ["UPSTREAM_ERROR"])
  | 503 => ("service_unavailable_error", ["SERVICE_UNAVAILABLE"])
  | _ => ("server_error", [])

/-- The codes of conflicts with the lifecycle of a message. -/
def lifecycleCodes : List String := ["ALREADY_RECALLED", "ALREADY_DELETED", "STATUS_CONFLICT"]

/-- The body that an error with a status is to have: with the status, its class, one of
its codes and, for a conflict with the lifecycle, the status of the message. -/
def Documented (status : Nat) (current : Option Status) (body : Http.Body) : Prop :=
  ∃ message code time,
    body = .json (.obj ([("error", .str (reason status)), ("message", .str message), ("status", .nat status),
      ("error_type", .str (errorClass status).1), ("code", .str code)]
      ++ (current.map fun s => ("current_status", s.toJson)).toList ++ [("timestamp", .str time)])) ∧
    code ∈ (errorClass status).2 ∧ (current.isSome ↔ code ∈ lifecycleCodes)

theorem Failure.documented (f : Failure) (now : Time.Instant) :
    Documented f.httpStatus f.currentStatus (Http.Reply.failure now f).body := by
  refine ⟨f.publicMessage, f.code, now.stamp, ?_, ?_, ?_⟩
  · cases f <;> rfl
  · cases f <;> simp [errorClass, httpStatus, code]
  · cases f <;> simp [lifecycleCodes, currentStatus, code]

/-! ## The status that is told -/

/-- The failures are one, and it tells no status of a message. -/
def Failure.Plain (f f' : Failure) : Prop := f' = f ∧ f.currentStatus = none

theorem Failure.kindred_plain : Kindred Failure.Plain where
  own _ h := ⟨rfl, h⟩
  retryable _ _ h := by rw [h.1]

theorem SameBut.noStatus {α : Type} {f : Failure}
    (h : SameBut Failure.Plain (.error f : Except Failure α) (.error f)) : f.currentStatus = none := by
  cases h with
  | error h => exact h.2

/-- The surroundings do not fail by telling a status of a message. -/
def Plainly (l : List (Program.Exchange signature)) : Prop :=
  ∀ y ∈ l, SameAnswers Failure.Plain y.1 y.2 y.2

/-- The archive shows a message that was asked for by its id. -/
inductive Shows (id : Int) (m : Message) : Program.Exchange signature → Prop
  | found : Shows id m ⟨.archive (.find id), .ok (some m)⟩
  | stale {old target : Status} : Shows id m ⟨.archive (.retire id old target), .ok (.stale m)⟩

theorem Shows.held {id : Int} {m : Message} {y : Program.Exchange signature} (h : Shows id m y)
    {s : Server Backend.memory} (answered : (Server.answer y.1 s).1 = y.2) : s.store.message? id = some m := by
  cases h with
  | found => exact Except.ok.inj answered
  | @stale old target =>
    have hretire : (s.store.retire id old target s.now).1 = .stale m := Except.ok.inj answered
    unfold Store.retire at hretire
    cases hfound : s.store.message? id with
    | none =>
      rw [hfound] at hretire
      cases hretire
    | some found =>
      rw [hfound] at hretire
      simp only at hretire
      split at hretire
      · cases hretire
      · rw [Retirement.stale.inj hretire]

section

variable {α : Type} {l : List (Program.Exchange signature)} {f : Failure} {st : Status}

theorem plain_of_indifferent {a : Action α} (h : Program.Indifferent (SameAnswers Failure.Plain) Failure.Plain a)
    (hl : a.run.Dialogue l (.error f)) (plainly : Plainly l) : f.currentStatus = none :=
  SameBut.noStatus ((Program.Agree.obeys h).ended hl plainly)

end

namespace Messaging

variable {l : List (Program.Exchange signature)} {f : Failure} {st : Status}

/-- A check that fails with a status tells that of the message, and asks nothing. -/
def TellsOwn (check : Message → Action Unit) : Prop :=
  ∀ m l f st, (check m).run.Dialogue l (.error f) → f.currentStatus = some st → l = [] ∧ m.status = st

theorem recallCheck_tellsOwn (settings : MessageSettings) (user : UserId) :
    TellsOwn (recallCheck settings user) := by
  intro m l f st hl hst
  rcases Action.dialogue_bind hl with ⟨f', hcheck, hf⟩ | ⟨_, l₁, l₂, -, hage, -⟩
  · cases hf
    obtain ⟨rfl, hcheck⟩ := Program.dialogue_done hcheck
    refine ⟨rfl, ?_⟩
    unfold checkRecall at hcheck
    split at hcheck
    · cases hcheck; cases hst
    split at hcheck
    · next hrecalled => cases hcheck; cases hst; exact hrecalled
    split at hcheck
    · next hdeleted => cases hcheck; cases hst; exact hdeleted
    split at hcheck
    · cases hcheck; cases hst
    · cases hcheck
  · obtain ⟨now, l₃, hage, -⟩ := Action.dialogue_query hage
    obtain ⟨-, hage⟩ := Program.dialogue_done hage
    unfold checkAge at hage
    split at hage
    · cases hage; cases hst
    · cases hage

theorem checkDelete_tellsOwn (user : UserId) : TellsOwn fun m => Action.ofExcept (checkDelete user m) := by
  intro m l f st hl hst
  obtain ⟨rfl, hcheck⟩ := Program.dialogue_done hl
  refine ⟨rfl, ?_⟩
  unfold checkDelete at hcheck
  split at hcheck
  · cases hcheck; cases hst
  split at hcheck
  · next hdeleted => cases hcheck; cases hst; exact hdeleted
  · cases hcheck

/-- The archive has shown a message with that status at last. If it is truthful, the
message is the one that was asked for. -/
def ShownLast (asked : Int) (st : Status) (l : List (Program.Exchange signature)) : Prop :=
  ∃ front y id m, l = front ++ [y] ∧ Shows id m y ∧ m.status = st ∧ ((∀ z ∈ l, Truthful z.1 z.2) → id = asked)

theorem ShownLast.behind {asked id : Int} {l₀ : List (Program.Exchange signature)} (h : ShownLast id st l)
    (hid : (∀ z ∈ l₀, Truthful z.1 z.2) → id = asked) : ShownLast asked st (l₀ ++ l) := by
  obtain ⟨front, y, id', m, rfl, hshows, hstatus, hlast⟩ := h
  refine ⟨l₀ ++ front, y, id', m, (List.append_assoc _ _ _).symm, hshows, hstatus, fun htrue => ?_⟩
  rw [hlast fun z hz => htrue z (List.mem_append_right _ hz)]
  exact hid fun z hz => htrue z (List.mem_append_left _ hz)

/-- A retirement that fails with a status tells that of the message it was given, or of
one that the archive has shown at last. -/
theorem retireChecked_tells {check : Message → Action Unit} {target : Status} (hcheck : TellsOwn check) :
    ∀ n m l, (retireChecked check target n m).run.Dialogue l (.error f) → Plainly l →
      f.currentStatus = some st → l = [] ∧ m.status = st ∨ ShownLast m.id st l
  | 0, m, l, hl, _, hst => by
    obtain ⟨rfl, hf⟩ := Action.dialogue_throw hl
    cases hf
    exact .inl ⟨rfl, Option.some.inj hst⟩
  | n + 1, m, l, hl, plainly, hst => by
    rcases Action.dialogue_bind hl with ⟨f', hfailed, hf⟩ | ⟨_, l₁, l₂, -, hretire, rfl⟩
    · cases hf
      exact .inl (hcheck m l f st hfailed hst)
    obtain ⟨reply, l₃, hrest, rfl⟩ := Program.dialogue_ask hretire
    refine .inr ?_
    match reply with
    | .error e =>
      obtain ⟨rfl, hf⟩ := Program.dialogue_done hrest
      cases hf
      have hnone := SameBut.noStatus (plainly _ (List.mem_append_right _ List.mem_cons_self))
      cases hnone.symm.trans hst
    | .ok (.applied m') => exact nomatch (Program.dialogue_done hrest).2
    | .ok .missing =>
      obtain ⟨-, hf⟩ := Program.dialogue_done hrest
      cases hf
      cases hst
    | .ok (.stale m') =>
      -- The next try is made with `m'`, so that this exchange decides unless a later one does.
      have hplain : Plainly l₃ := fun y hy =>
        plainly y (List.mem_append_right _ (List.mem_cons_of_mem _ hy))
      rcases retireChecked_tells hcheck n m' l₃ hrest hplain hst with ⟨rfl, hstatus⟩ | hlast
      · exact ⟨l₁, _, m.id, m', rfl, .stale, hstatus, fun _ => rfl⟩
      · let stale : Program.Exchange signature := ⟨.archive (.retire m.id m.status target), .ok (.stale m')⟩
        have hid : (∀ z ∈ l₁ ++ [stale], Truthful z.1 z.2) → m'.id = m.id := fun htrue =>
          (htrue stale (List.mem_append_right _ (List.mem_singleton_self _))).1
        have hbehind := hlast.behind hid
        rwa [List.append_assoc] at hbehind

theorem retirement_tells {α : Type} {check : Message → Action Unit} {target : Status} (hcheck : TellsOwn check)
    {id : Int} {n : Nat} {next : Message → Action α}
    (hnext : ∀ m l f, ¬ (next m).run.Dialogue l (.error f))
    (hl : (existing id >>= fun m => retireChecked check target n m >>= next).run.Dialogue l (.error f))
    (plainly : Plainly l) (hst : f.currentStatus = some st) : ShownLast id st l := by
  obtain ⟨reply, l', hrest, rfl⟩ := Program.dialogue_ask hl
  match reply with
  | .error e =>
    obtain ⟨-, hf⟩ := Program.dialogue_done hrest
    cases hf
    have hnone := SameBut.noStatus (plainly _ List.mem_cons_self)
    cases hnone.symm.trans hst
  | .ok none =>
    obtain ⟨-, hf⟩ := Program.dialogue_done hrest
    cases hf
    cases hst
  | .ok (some m) =>
    rcases Action.dialogue_bind hrest with ⟨f', hfailed, hf⟩ | ⟨m', l₁, l₂, -, hafter, -⟩
    · cases hf
      have hplain : Plainly l' := fun y hy => plainly y (List.mem_cons_of_mem _ hy)
      let found : Program.Exchange signature := ⟨.archive (.find id), .ok (some m)⟩
      have hid : (∀ z ∈ [found], Truthful z.1 z.2) → m.id = id := fun htrue =>
        htrue found (List.mem_singleton_self _)
      rcases retireChecked_tells hcheck n m l' hfailed hplain hst with ⟨rfl, hstatus⟩ | hlast
      · exact ⟨[], found, id, m, rfl, .found, hstatus, fun _ => rfl⟩
      · exact hlast.behind hid
    · exact (hnext m' l₂ f hafter).elim

theorem recallMessage_tells {settings : MessageSettings} {user : UserId} {id : Int}
    (hl : (recallMessage settings user id).run.Dialogue l (.error f)) (plainly : Plainly l)
    (hst : f.currentStatus = some st) : ShownLast id st l := by
  refine retirement_tells (recallCheck_tellsOwn settings user) (fun m l f h => ?_) hl plainly hst
  obtain ⟨_, _, hrest, -⟩ := Action.dialogue_query h
  exact nomatch (Program.dialogue_done hrest).2

theorem deleteMessage_tells {user : UserId} {id : Int}
    (hl : (deleteMessage user id).run.Dialogue l (.error f)) (plainly : Plainly l)
    (hst : f.currentStatus = some st) : ShownLast id st l := by
  refine retirement_tells (checkDelete_tellsOwn user) (fun m l f h => ?_) hl plainly hst
  obtain ⟨_, _, hrest, -⟩ := Action.dialogue_query h
  exact nomatch (Program.dialogue_done hrest).2

end Messaging

/-! ## Endpoints -/

namespace Http

open Time (Instant)

/-- The request cannot be read as one to the endpoint: its body, its query or a part of its
path is malformed, or the body is too long. -/
def Endpoint.Unreadable (r : Request) : Endpoint → Prop
  | .health | .stats => False
  | .socket => single (fields r.query) "token" = none
  | .push => ∃ fault, readBody PushRequest.form r = .error fault
  | .send => ∃ fault, readBody SendBody.form r = .error fault
  | .history => HistoryQuery.ofFields? (fields r.query) = none
  | .read => ∃ fault, readBody ReadBody.form r = .error fault
  | .recallMessage | .deleteMessage => ∃ fault, readBody messageForm r = .error fault
  | .unread => single (fields r.query) "conversation_id" = none
  | .conversations => pageQuery? (fields r.query) = none
  | .online part => pathInt? part = none

/-- Whether an endpoint tells the status of a message: it recalls or deletes the message that
the body names, and the archive has shown it with that status at last. -/
def Decided (r : Request) (e : Endpoint) (st : Status) (l : List (Program.Exchange signature)) : Prop :=
  (e = .recallMessage ∨ e = .deleteMessage) ∧
    ∃ id, readBody messageForm r = .ok id ∧ Messaging.ShownLast id st l

/-- The handshake for a socket fails, behind a session that was opened for it. -/
def HandshakeFails (r : Request) (l : List (Program.Exchange signature)) : Prop :=
  (handshakeFault? r.headers).isSome ∧ ∃ user session, ⟨.openSession user, .ok session⟩ ∈ l

/-- The answer is none of the endpoint: the request was not read, or it was and the handshake
fails. -/
def Bypassed (r : Request) (e : Endpoint) (l : List (Program.Exchange signature)) : Prop :=
  e.Unreadable r ∨ e = .socket ∧ HandshakeFails r l

theorem not_bypassed {r : Request} {e : Endpoint} {l : List (Program.Exchange signature)}
    (hread : ¬ e.Unreadable r) (hsocket : e ≠ .socket) : ¬ Bypassed r e l
  | .inl h => hread h
  | .inr h => hsocket h.1

/-- How an endpoint comes to answer with an error. -/
inductive Fails (now : Instant) (r : Request) (e : Endpoint) (l : List (Program.Exchange signature)) : Reply → Prop
  | unread (h : e.Unreadable r) (status : Nat) : Fails now r e l (.text status)
  | handshake (h : e = .socket ∧ HandshakeFails r l) (status : Nat) : Fails now r e l (.empty status)
  | failed (h : ¬ Bypassed r e l) {f : Failure}
    (hf : Plainly l → ∀ st, f.currentStatus = some st → Decided r e st l) : Fails now r e l (.failure now f)

variable {settings : MessageSettings} {c : Configuration} {now : Instant} {r : Request} {e : Endpoint}
  {l : List (Program.Exchange signature)} {reply : Reply} {α : Type}

theorem answer_failed {a : Action α} {write : α → Reply} (h : (answer now a write).Dialogue l reply)
    (hwrite : ∀ v, (write v).status < 400) (hstatus : 400 ≤ reply.status) :
    ∃ f, a.run.Dialogue l (.error f) ∧ reply = .failure now f := by
  obtain ⟨outcome, l₁, l₂, ha, hdone, rfl⟩ := Program.dialogue_bind h
  cases outcome with
  | ok v =>
    obtain ⟨-, rfl⟩ := Program.dialogue_done hdone
    exact absurd hstatus (Nat.not_le.mpr (hwrite v))
  | error f =>
    obtain ⟨rfl, rfl⟩ := Program.dialogue_done hdone
    exact ⟨f, by rwa [List.append_nil], rfl⟩

theorem answer_fails {a : Action α} {write : α → Reply} (hread : ¬ Bypassed r e l)
    (ha : Program.Indifferent (SameAnswers Failure.Plain) Failure.Plain a)
    (h : (answer now a write).Dialogue l reply) (hwrite : ∀ v, (write v).status < 400)
    (hstatus : 400 ≤ reply.status) : Fails now r e l reply := by
  obtain ⟨f, hf, rfl⟩ := answer_failed h hwrite hstatus
  exact .failed hread fun plainly st hst => nomatch (plain_of_indifferent ha hf plainly).symm.trans hst

theorem withBody_fails {form : Json.Form α} {use : α → Answering Reply}
    (hread : e.Unreadable r ↔ ∃ fault, readBody form r = .error fault) (hsocket : e ≠ .socket)
    (h : (withBody form r use).Dialogue l reply)
    (huse : ∀ a, readBody form r = .ok a → ¬ Bypassed r e l → (use a).Dialogue l reply → Fails now r e l reply) :
    Fails now r e l reply := by
  unfold withBody at h
  cases hbody : readBody form r with
  | error fault =>
    rw [hbody] at h
    obtain ⟨-, rfl⟩ := Program.dialogue_done h
    exact .unread (hread.mpr ⟨fault, hbody⟩) _
  | ok a =>
    rw [hbody] at h
    refine huse a hbody (not_bypassed (fun hunread => ?_) hsocket) h
    obtain ⟨fault, hfault⟩ := hread.mp hunread
    exact nomatch hbody.symm.trans hfault

theorem withQuery_fails {fields : Option α} {use : α → Answering Reply}
    (hread : e.Unreadable r ↔ fields = none) (hsocket : e ≠ .socket)
    (h : (withQuery fields use).Dialogue l reply)
    (huse : ∀ a, ¬ Bypassed r e l → (use a).Dialogue l reply → Fails now r e l reply) :
    Fails now r e l reply := by
  cases fields with
  | none =>
    obtain ⟨-, rfl⟩ := Program.dialogue_done h
    exact .unread (hread.mpr rfl) _
  | some a => exact huse a (not_bypassed (fun hunread => nomatch hread.mp hunread) hsocket) h

theorem hubStats_succeeds {write : HubStats → Reply} (h : (hubStats.bind fun s => .done (write s)).Dialogue l reply)
    (hwrite : ∀ s, (write s).status < 400) : reply.status < 400 := by
  obtain ⟨s, _, hdone, -⟩ := Program.dialogue_ask h
  obtain ⟨-, rfl⟩ := Program.dialogue_done hdone
  exact hwrite s

theorem forUser_fails {user : UserId} (harea : e.area = .users)
    (h : (e.forUser settings now user r).Dialogue l reply) (hstatus : 400 ≤ reply.status) :
    Fails now r e l reply := by
  have kindred := Failure.kindred_plain
  have hok : 200 < 400 := by decide
  cases e with
  | health | socket | push | stats => cases harea
  | send =>
    exact withBody_fails Iff.rfl nofun h fun _ _ hread h =>
      answer_fails hread (Messaging.send_indifferent kindred _ _) h (fun _ => (by decide : 201 < 400)) hstatus
  | history =>
    exact withQuery_fails Iff.rfl nofun h fun _ hread h =>
      answer_fails hread (Messaging.history_indifferent kindred _ _ _ _) h (fun _ => hok) hstatus
  | read =>
    exact withBody_fails Iff.rfl nofun h fun _ _ hread h =>
      answer_fails hread (Messaging.markRead_indifferent kindred _ _ _) h (fun _ => hok) hstatus
  | recallMessage =>
    refine withBody_fails Iff.rfl nofun h fun id hid hread h => ?_
    obtain ⟨f, hf, rfl⟩ := answer_failed h (fun _ => hok) hstatus
    exact .failed hread fun plainly st hst => ⟨.inl rfl, id, hid, Messaging.recallMessage_tells hf plainly hst⟩
  | deleteMessage =>
    refine withBody_fails Iff.rfl nofun h fun id hid hread h => ?_
    obtain ⟨f, hf, rfl⟩ := answer_failed h (fun _ => (by decide : 204 < 400)) hstatus
    exact .failed hread fun plainly st hst => ⟨.inr rfl, id, hid, Messaging.deleteMessage_tells hf plainly hst⟩
  | unread =>
    exact withQuery_fails Iff.rfl nofun h fun _ hread h =>
      answer_fails hread (Messaging.unread_indifferent kindred _ _) h (fun _ => hok) hstatus
  | conversations =>
    exact withQuery_fails Iff.rfl nofun h fun _ hread h =>
      answer_fails hread (Inbox.conversations_indifferent _ _ _) h (fun _ => hok) hstatus
  | online part =>
    unfold Endpoint.forUser at h
    simp only at h
    cases hpart : pathInt? part with
    | none =>
      rw [hpart] at h
      obtain ⟨-, rfl⟩ := Program.dialogue_done h
      have hunread : (Endpoint.online part).Unreadable r := hpart
      exact .unread hunread _
    | some other =>
      rw [hpart] at h
      have hread : ¬ (Endpoint.online part).Unreadable r := fun hnone : pathInt? part = none =>
        nomatch hpart.symm.trans hnone
      exact answer_fails (not_bypassed hread nofun) (isOnline_indifferent kindred other) h (fun _ => hok)
        hstatus

theorem forServices_fails (harea : e.area = .services) (h : (e.forServices now r).Dialogue l reply)
    (hstatus : 400 ≤ reply.status) : Fails now r e l reply := by
  cases e with
  | push =>
    exact withBody_fails Iff.rfl nofun h fun _ _ hread h =>
      answer_fails hread (push_indifferent Failure.kindred_plain _) h (fun _ => (by decide : 200 < 400))
        hstatus
  | stats => exact absurd hstatus (Nat.not_le.mpr (hubStats_succeeds h fun _ => (by decide : 200 < 400)))
  | _ => cases harea

theorem forEveryone_succeeds (harea : e.area = .everyone) (hsocket : e ≠ .socket)
    (h : e.forEveryone.Dialogue l reply) : reply.status < 400 := by
  cases e with
  | health => exact hubStats_succeeds h fun _ => (by decide : 200 < 400)
  | socket => exact (hsocket rfl).elim
  | _ => cases harea

theorem Admitted.fails {x : Answering Reply} (hx : Admitted c now r x) (he : r.endpoint? = some e)
    (h : x.Dialogue l reply) (hstatus : 400 ≤ reply.status) : Fails now r e l reply := by
  cases hx with
  | unknown hnone => exact nomatch hnone.symm.trans he
  | everyone he' harea hsocket =>
    cases he'.symm.trans he
    have harea := (Request.endpoint?_area he).symm.trans harea
    exact absurd hstatus (Nat.not_le.mpr (forEveryone_succeeds harea hsocket h))
  | services he' harea =>
    cases he'.symm.trans he
    exact forServices_fails ((Request.endpoint?_area he).symm.trans harea) h hstatus
  | users he' harea =>
    cases he'.symm.trans he
    exact forUser_fails ((Request.endpoint?_area he).symm.trans harea) h hstatus

theorem socket_not_bypassed (hread : ¬ Endpoint.socket.Unreadable r)
    (hnone : ∀ user session, ⟨.openSession user, .ok session⟩ ∉ l) : ¬ Bypassed r .socket l
  | .inl h => hread h
  | .inr ⟨_, _, user, session, hmem⟩ => hnone user session hmem

theorem userOf_error {token : Option String} {f : Failure} (h : userOf c now token = .error f) :
    f = .unauthorized := by
  unfold userOf at h
  split at h <;> cases h
  rfl

theorem openSocket_fails {requestId : String} {x : Response}
    (h : (openSocket c now requestId r).Dialogue l (.response x)) :
    Fails now r .socket l ⟨x.status, x.body⟩ := by
  unfold openSocket at h
  cases hquery : single (fields r.query) "token" with
  | none =>
    rw [hquery] at h
    obtain ⟨-, hx⟩ := Program.dialogue_done h
    cases hx
    have hunread : Endpoint.socket.Unreadable r := hquery
    exact .unread hunread 400
  | some queryToken =>
    have hread : ¬ Endpoint.socket.Unreadable r := by
      unfold Endpoint.Unreadable
      rw [hquery]
      exact Option.some_ne_none _
    rw [hquery] at h
    simp only at h
    cases huser : userOf c now (socketToken r queryToken) with
    | error f =>
      rw [huser] at h
      obtain ⟨rfl, hx⟩ := Program.dialogue_done h
      cases hx
      refine .failed (socket_not_bypassed hread fun _ _ => List.not_mem_nil) fun _ st hst => ?_
      rw [userOf_error huser] at hst
      cases hst
    | ok user =>
      rw [huser] at h
      obtain ⟨opened, l', hrest, rfl⟩ := Program.dialogue_ask h
      -- The handshake is looked at behind the session, so that only a session makes it fail.
      cases opened with
      | error f =>
        obtain ⟨rfl, hx⟩ := Program.dialogue_done hrest
        cases hx
        refine .failed (socket_not_bypassed hread fun _ _ hmem => ?_) fun plainly st hst => ?_
        · cases List.mem_singleton.mp hmem
        · have hnone := SameBut.noStatus (plainly _ (List.mem_singleton_self _))
          cases hnone.symm.trans hst
      | ok session =>
        simp only [Program.bind] at hrest
        cases hfault : handshakeFault? r.headers with
        | none =>
          rw [hfault] at hrest
          cases (Program.dialogue_done hrest).2
        | some status =>
          rw [hfault] at hrest
          obtain ⟨_, _, hdone, -⟩ := Program.dialogue_ask hrest
          obtain ⟨-, hx⟩ := Program.dialogue_done hdone
          cases hx
          exact .handshake ⟨rfl, by rw [hfault]; rfl, user, session, List.mem_cons_self⟩ status

/-- **The body of an error is the documented one if and only if the endpoint was come to.** -/
theorem Fails.documented (h : Fails now r e l reply) :
    (¬ Bypassed r e l → ∃ current, Documented reply.status current reply.body ∧
      (Plainly l → ∀ st, current = some st → Decided r e st l)) ∧
    (Bypassed r e l → ∀ current, ¬ Documented reply.status current reply.body) := by
  cases h with
  | unread h =>
    refine ⟨fun hnot => (hnot (.inl h)).elim, ?_⟩
    rintro - current ⟨_, _, _, hbody, -⟩
    exact nomatch hbody
  | handshake h =>
    refine ⟨fun hnot => (hnot (.inr h)).elim, ?_⟩
    rintro - current ⟨_, _, _, hbody, -⟩
    exact nomatch hbody
  | @failed h f hf =>
    exact ⟨fun _ => ⟨f.currentStatus, f.documented now, hf⟩, fun hbypassed => (h hbypassed).elim⟩

theorem serve_fails {fresh : String} {x : Response} (hpassed : ¬ Refused c now r)
    (h : (serve c now fresh r).Dialogue l (.response x)) (he : r.endpoint? = some e) (hstatus : 400 ≤ x.status) :
    Fails now r e l ⟨x.status, x.body⟩ := by
  rcases serve_admitted c now fresh r hpassed with ⟨hsocket, hserve⟩ | ⟨work, hwork, hserve⟩
  · cases hsocket.symm.trans he
    rw [hserve] at h
    exact openSocket_fails h
  · rw [hserve] at h
    obtain ⟨reply, l₁, l₂, hreply, hdone, rfl⟩ := Program.dialogue_bind h
    obtain ⟨rfl, hx⟩ := Program.dialogue_done hdone
    cases hx
    rw [List.append_nil]
    exact hwork.fails he hreply hstatus

end Http

/-! ## Servers -/

theorem SameBut.plain {α : Type} {x : Except Failure α} (h : ∀ f, x = .error f → f.currentStatus = none) :
    SameBut Failure.Plain x x := by
  cases x with
  | ok a => exact .ok a
  | error f => exact .error ⟨rfl, h f rfl⟩

theorem Database.sqlFailure_plain (e : Database.SqlError) : e.failure.currentStatus = none := by
  unfold SqlError.failure
  split <;> rfl

theorem Database.poolFailure_plain (f : Database.PoolFault) : f.failure.currentStatus = none := by
  cases f with
  | backend e => exact sqlFailure_plain e
  | _ => rfl

theorem Database.sameAnswers_plain (q : Database.Ask) (reply : Database.Reply q) :
    Database.SameAnswers Failure.Plain q reply reply := by
  have hplain : ∀ {ε α : Type} {g : ε → Failure}, (∀ e, (g e).currentStatus = none) → ∀ reply : Except ε α,
      SameBut Failure.Plain (reply.mapError g) (reply.mapError g) := by
    intro ε α g hg reply
    refine SameBut.plain fun f hf => ?_
    cases reply with
    | ok a => cases hf
    | error e => exact Except.error.inj hf ▸ hg e
  cases q with
  | connect => exact hplain poolFailure_plain reply
  | rollback => exact trivial
  | _ => exact hplain sqlFailure_plain reply

namespace Server

/-- A server as it is set up: its archive is in memory or in a database, and it asks other
services over the web. -/
structure InUse {B : Backend} (s : Server B) : Prop where
  backend : B = Backend.memory ∨
    ∃ (σ : Type) (h : Program.Handler Database.signature σ), B = Backend.database h
  directory : ∃ friendUrl userUrl fetch, s.directory = Directory.overWeb friendUrl userUrl fetch

variable {B : Backend} {s : Server B}

theorem InUse.archive_plain (h : s.InUse) (q : Archive.Ask) :
    SameBut Failure.Plain (B.answer s.now q s.archive).1 (B.answer s.now q s.archive).1 := by
  rcases h.backend with rfl | ⟨σ, handler, rfl⟩
  · cases q with
    | markRead reader conversation upTo =>
      refine SameBut.plain fun f (hf : (Store.markRead s.archive reader conversation upTo s.now).1 = .error f) => ?_
      unfold Store.markRead at hf
      split at hf
      · exact Except.error.inj hf ▸ rfl
      · cases hf
    | _ => exact .ok _
  · have hscript := Program.Agree.obeys (Database.Script.ofAsk_indifferent Failure.kindred_plain.own q)
    exact (Program.run_obeys (I := fun _ => True) (fun q _ _ _ => ⟨Database.sameAnswers_plain q _, trivial⟩)
      hscript trivial).1

theorem InUse.plainly (h : s.InUse) (q : Ask) : SameAnswers Failure.Plain q (answer q s).1 (answer q s).1 := by
  cases q with
  | archive q => exact h.archive_plain q
  | areFriends user target =>
    obtain ⟨friendUrl, userUrl, fetch, hdirectory⟩ := h.directory
    refine SameBut.plain fun f (hf : s.directory.areFriends user target = .error f) => ?_
    rw [hdirectory] at hf
    obtain ⟨text, rfl⟩ := Directory.readFriend_eq_error hf
    rfl
  | profile user => exact .refl (fun _ => trivial) _
  | openSession user =>
    refine SameBut.plain fun f (hf : (s.hub.open? user s.tick).1 = .error f) => ?_
    unfold Hub.open? at hf
    split at hf
    · cases hf
    · exact Except.error.inj hf ▸ rfl
  | _ => exact rfl

variable {c : Configuration} {now : Time.Instant} {fresh : String} {r : Http.Request} {e : Http.Endpoint}
  {l : List (Program.Exchange signature)} {x : Http.Response}

/-- Whatever archive in memory has given the last answer, it held the message with that
status. -/
def HeldLast (asked : Int) (st : Status) (l : List (Program.Exchange signature)) : Prop :=
  ∃ front y, l = front ++ [y] ∧ ∀ s : Server Backend.memory, (answer y.1 s).1 = y.2 →
    ∃ m, s.store.message? asked = some m ∧ m.status = st

theorem heldLast_of_shown {asked : Int} {st : Status} (h : Messaging.ShownLast asked st l)
    (answered : ∀ y ∈ l, ∃ s : Server Backend.memory, (answer y.1 s).1 = y.2) : HeldLast asked st l := by
  have htrue : ∀ y ∈ l, Truthful y.1 y.2 := fun y hy => by
    obtain ⟨s, hs⟩ := answered y hy
    exact hs ▸ answer_truthful y.1 s
  obtain ⟨front, y, id, m, rfl, hshows, hstatus, hid⟩ := h
  obtain rfl := hid htrue
  exact ⟨front, y, rfl, fun s hs => ⟨m, hshows.held hs, hstatus⟩⟩

theorem InUse.answers (h : s.InUse) {α : Type} (p : Program signature α) :
    ∀ y ∈ p.exchanges answer s, ∃ s' : Server B, s'.InUse ∧ (answer y.1 s').1 = y.2 := by
  induction p generalizing s with
  | done a => exact fun _ hy => nomatch hy
  | ask q next ih =>
    intro y hy
    rcases List.mem_cons.mp hy with rfl | hy
    · exact ⟨s, h, rfl⟩
    · have hnext : (answer q s).2.InUse := ⟨h.backend, by rw [answer_directory]; exact h.directory⟩
      exact ih _ hnext y hy

/-- **The error of a declared endpoint has the documented body, unless the endpoint was not
come to.** However a request is served among others, if each question is answered by some
server in use: a refusal, and whatever an endpoint fails with, has the body of its status.
It tells the status of a message if and only if its code is that of a conflict with the
lifecycle, and only if a recall or a deletion was last shown the message with that status;
an archive in memory held it so at that moment. A request that was not read and a handshake
that fails are answered with no such body. -/
theorem errors_documented_unless_bypassed (h : (Http.serve c now fresh r).Dialogue l (.response x))
    (answered : ∀ y ∈ l, ∃ s : Server B, s.InUse ∧ (answer y.1 s).1 = y.2)
    (he : r.endpoint? = some e) (hstatus : 400 ≤ x.status) :
    (Http.Refused c now r ∨ ¬ Http.Bypassed r e l → ∃ current, Documented x.status current x.body ∧
      ∀ st, current = some st → Http.Decided r e st l) ∧
    (¬ Http.Refused c now r → Http.Bypassed r e l → ∀ current, ¬ Documented x.status current x.body) ∧
    (B = Backend.memory → ∀ asked st, Messaging.ShownLast asked st l → HeldLast asked st l) := by
  have plainly : Plainly l := fun y hy => by
    obtain ⟨s, hs, hanswer⟩ := answered y hy
    exact hanswer ▸ hs.plainly y.1
  refine ⟨fun hcome => ?_, fun hpassed => ?_, ?_⟩
  · by_cases hrefused : Http.Refused c now r
    · rw [Http.serve_refused hrefused] at h
      obtain ⟨-, hx⟩ := Program.dialogue_done h
      cases hx
      exact ⟨none, Failure.unauthorized.documented now, nofun⟩
    · obtain ⟨current, hdocumented, hdecided⟩ :=
        (Http.serve_fails hrefused h he hstatus).documented.1 (hcome.resolve_left hrefused)
      exact ⟨current, hdocumented, hdecided plainly⟩
  · exact (Http.serve_fails hpassed h he hstatus).documented.2
  · rintro rfl asked st hshown
    exact heldLast_of_shown hshown fun y hy => (answered y hy).imp fun _ hs => hs.2

/-- A server that answers over the web from an archive in memory. -/
def inMemory (archive : Store) : Server Backend.memory :=
  .start { secret := Http.sampleSecret, internalKey := some "key" }
    (.overWeb "http://friends" "http://users" fun _ => .error "closed") archive ⟨0, 0⟩

theorem inMemory_inUse (archive : Store) : (inMemory archive).InUse := ⟨.inl rfl, _, _, _, rfl⟩

/-- An archive with one message, which user 1 has sent and recalled. -/
def recalledOne : Store :=
  ((Store.empty.add ⟨1, 2, .text, "hello", none⟩ ⟨0, 0⟩).2.retire 1 .sent .recalled ⟨0, 0⟩).2

/-- A request of user 1 to recall that message. -/
def recallRequest : Http.Request where
  method := "POST"
  target := "/message/v1/recall"
  headers := [("content-type", "application/json"), ("authorization", "Bearer " ++ Http.sampleToken)]
  body := "\x7b\"message_id\":1\x7d"

/-- The status of a response, and whether its body is JSON. -/
def shape? : Http.Outcome → Option (Nat × Bool)
  | .response ⟨status, .json _, _⟩ => some (status, true)
  | .response x => some (x.status, false)
  | .upgraded _ _ => none

theorem recallRequest_shape : shape? ((inMemory recalledOne).serve "id" recallRequest).1 = some (410, true) := by
  have harea : (Http.areaOf recallRequest.path).1 = .users := by decide +kernel
  have hendpoint : Http.endpoint? .users recallRequest.method (Http.areaOf recallRequest.path).2 =
      some .recallMessage := by
    decide +kernel
  have hbears : Http.Bears (inMemory recalledOne).configuration (inMemory recalledOne).now recallRequest 1 :=
    Http.bears_sampleToken rfl (by decide +kernel)
  rw [serve_fst, Http.serve_bearing harea hbears, hendpoint, Http.answerOf]
  decide +kernel

/-- A message that was recalled is told to be so, with the status that the archive held. -/
theorem second_recall_documented : ∃ x, ((inMemory recalledOne).serve "id" recallRequest).1 = .response x ∧
    x.status = 410 ∧ ∃ st, Documented x.status (some st) x.body ∧
      HeldLast 1 st ((inMemory recalledOne).exchanges "id" recallRequest) := by
  obtain ⟨x, hx, hstatus⟩ : ∃ x, ((inMemory recalledOne).serve "id" recallRequest).1 = .response x ∧
      x.status = 410 := by
    have hshape := recallRequest_shape
    generalize ((inMemory recalledOne).serve "id" recallRequest).1 = outcome at hshape
    match outcome with
    | .response ⟨status, .json v, id⟩ => exact ⟨_, rfl, congrArg Prod.fst (Option.some.inj hshape)⟩
  have hdialogue := hx ▸ serve_dialogue (inMemory recalledOne) "id" recallRequest
  have hread : Http.readBody Http.messageForm recallRequest = .ok 1 := by decide +kernel
  have hbypassed : ¬ Http.Bypassed recallRequest .recallMessage
      ((inMemory recalledOne).exchanges "id" recallRequest) := by
    rintro (⟨fault, hfault⟩ | ⟨hsocket, -⟩)
    · exact nomatch hread.symm.trans hfault
    · cases hsocket
  obtain ⟨hdocumented, -, hheld⟩ := errors_documented_unless_bypassed (e := .recallMessage) hdialogue
    ((inMemory_inUse recalledOne).answers _) (by decide +kernel) (by rw [hstatus]; decide)
  obtain ⟨current, hbody, hdecided⟩ := hdocumented (.inr hbypassed)
  -- Both codes of the status are those of conflicts with the lifecycle.
  obtain ⟨st, rfl⟩ : ∃ st, current = some st := by
    obtain ⟨_, code, _, -, hcode, hlifecycle⟩ := hbody
    rw [hstatus] at hcode
    refine Option.isSome_iff_exists.mp (hlifecycle.mpr ?_)
    exact List.mem_of_mem_take (i := 2) hcode
  obtain ⟨-, asked, hasked, hshown⟩ := hdecided st rfl
  cases hread.symm.trans hasked
  exact ⟨x, hx, hstatus, st, hbody, hheld rfl 1 st hshown⟩

/-- An internal request to push, with the key and half a body. -/
def brokenPush : Http.Request where
  method := "POST"
  target := "/message/v1/internal/push"
  headers := [("content-type", "application/json"), ("x-internal-api-key", "key")]
  body := "\x7b"

/-- **A body that cannot be read is answered with a text**, which is no documented body. -/
theorem broken_push_undocumented : brokenPush.endpoint? = some .push ∧
    ∃ x, ((inMemory .empty).serve "id" brokenPush).1 = .response x ∧ x.status = 400 ∧
      ∀ current, ¬ Documented x.status current x.body := by
  have hshape : shape? ((inMemory .empty).serve "id" brokenPush).1 = some (400, false) := by decide +kernel
  refine ⟨by decide +kernel, ?_⟩
  generalize ((inMemory .empty).serve "id" brokenPush).1 = outcome at hshape
  match outcome with
  | .response ⟨status, .text, id⟩ | .response ⟨status, .empty, id⟩ =>
    refine ⟨_, rfl, congrArg Prod.fst (Option.some.inj hshape), ?_⟩
    rintro current ⟨_, _, _, hbody, -⟩
    exact nomatch hbody

end Server

end Parley
