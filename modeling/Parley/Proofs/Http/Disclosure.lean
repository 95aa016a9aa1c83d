/-
What responses disclose of the installation.

Failures of the database, of its pool, of other services and of the hub come with
texts about the installation, in one of six kinds (`Infrastructure`, `Carried`). A
client is told the text of three of them, and of the other three only which kind it
is (`Carried.body_eq_iff`). Nor does it find out on another way: two servers whose
surroundings fail for causes that differ in hidden texts only answer every request
alike (`Http.serve_alike`, `Server.infrastructure_disclosed_by_kind`).
-/
import Parley.Proofs.Http.Access
import Parley.Proofs.Indifference

namespace Parley

/-! ## Texts -/

/-- The kinds of failures that come with a text about the installation. -/
inductive Infrastructure where
  | configuration
  | startup
  | database
  | transactionConflict
  | remote
  | unavailable
deriving DecidableEq, Repr

namespace Infrastructure

/-- The failure of a kind with a text. -/
def failure : Infrastructure → String → Failure
  | configuration => .configuration
  | startup => .startup
  | database => .database
  | transactionConflict => .transactionConflict
  | remote => .remote
  | unavailable => .unavailable

/-- Whether clients are not told the texts of a kind. -/
def hidden : Infrastructure → Bool
  | configuration | startup | database => true
  | transactionConflict | remote | unavailable => false

variable {k k' : Infrastructure} {text text' : String}

theorem eq_of_body_eq (h : (k'.failure text').body = (k.failure text).body) : k' = k := by
  have hcode : (k'.failure text').code = (k.failure text).code := congrArg FailureBody.code h
  revert hcode
  cases k' <;> cases k <;> simp [failure, Failure.code]

/-- **A body tells the text of a failure unless its kind is hidden.** -/
theorem body_eq_iff :
    (k'.failure text').body = (k.failure text).body ↔ k' = k ∧ (k.hidden ∨ text' = text) := by
  constructor
  · intro h
    obtain rfl := eq_of_body_eq h
    refine ⟨rfl, ?_⟩
    have hmessage : (k'.failure text').publicMessage = (k'.failure text).publicMessage :=
      congrArg FailureBody.message h
    cases k' with
    | configuration | startup | database => exact .inl rfl
    | transactionConflict => exact .inr ((String.append_right_inj "transaction conflict: ").mp hmessage)
    | remote => exact .inr ((String.append_right_inj "upstream service error: ").mp hmessage)
    | unavailable => exact .inr ((String.append_right_inj "service unavailable: ").mp hmessage)
  · rintro ⟨rfl, hidden | rfl⟩
    · cases k' with
      | configuration | startup | database => rfl
      | transactionConflict | remote | unavailable => exact absurd hidden Bool.false_ne_true
    · rfl

end Infrastructure

open Database (SqlError PoolFault PoolStage SetupFailure)

/-- The ways in which a text about the installation comes into a failure. -/
inductive Carried : Infrastructure → String → Failure → Prop
  | directly (k : Infrastructure) (text : String) : Carried k text (k.failure text)
  /-- A statement lost against other work. -/
  | conflict {e : SqlError} (h : e.isConflict = true) : Carried .transactionConflict e.text e.failure
  | statement {e : SqlError} (h : e.isConflict = false) : Carried .database e.text e.failure
  | connection {k : Infrastructure} {text : String} {e : SqlError} (h : Carried k text e.failure) :
    Carried k text (PoolFault.backend e).failure
  | poolTimeout (stage : PoolStage) :
    Carried .unavailable ("database pool timeout: " ++ stage.name) (PoolFault.timeout stage).failure
  | poolClosed : Carried .database PoolFault.closed.message PoolFault.closed.failure
  | poolWithoutRuntime : Carried .database PoolFault.noRuntime.message PoolFault.noRuntime.failure
  | setup (f : SetupFailure) : Carried .startup ("db: " ++ f.message) f.failure
  /-- What the friend service answered tells nothing, or it did not answer. -/
  | friends {reply : Except String Web.Response} {service text : String}
    (h : Directory.readFriend reply = .error (Directory.failed service text)) :
    Carried .remote (service ++ text) (Directory.failed service text)
  | profiles {reply : Except String Web.Response} {service text : String}
    (h : Directory.readProfile reply = .error (Directory.failed service text)) :
    Carried .remote (service ++ text) (Directory.failed service text)
  | hub : Carried .unavailable "connection hub stopped" Hub.stoppedFailure

section

variable {k k' : Infrastructure} {text text' : String} {f f' : Failure}

theorem Carried.eq (h : Carried k text f) : f = k.failure text := by
  induction h with
  | directly | poolTimeout | poolClosed | poolWithoutRuntime | setup | friends | profiles | hub => rfl
  | conflict h => simp only [SqlError.failure, h, if_true, Infrastructure.failure]
  | statement h => simp only [SqlError.failure, h, Bool.false_eq_true, if_false, Infrastructure.failure]
  | connection _ ih => exact ih

theorem Carried.body_eq_iff (h : Carried k text f) (h' : Carried k' text' f') :
    f'.body = f.body ↔ k' = k ∧ (k.hidden ∨ text' = text) := by
  rw [h.eq, h'.eq]
  exact Infrastructure.body_eq_iff

end

theorem Database.SqlError.carried (e : SqlError) : ∃ k text, Carried k text e.failure := by
  cases h : e.isConflict with
  | true => exact ⟨_, _, .conflict h⟩
  | false => exact ⟨_, _, .statement h⟩

theorem Database.PoolFault.carried (f : PoolFault) : ∃ k text, Carried k text f.failure := by
  cases f with
  | timeout stage => exact ⟨_, _, .poolTimeout stage⟩
  | closed => exact ⟨_, _, .poolClosed⟩
  | noRuntime => exact ⟨_, _, .poolWithoutRuntime⟩
  | backend e =>
    obtain ⟨k, text, hcarried⟩ := e.carried
    exact ⟨k, text, .connection hcarried⟩

theorem readFriend_carried {reply : Except String Web.Response} {f : Failure}
    (h : Directory.readFriend reply = .error f) : ∃ text, Carried .remote text f := by
  have hread := h
  unfold Directory.readFriend at h
  split at h
  · cases h
    exact ⟨_, .friends hread⟩
  split at h
  · cases h
    exact ⟨_, .friends hread⟩
  split at h <;> cases h
  exact ⟨_, .friends hread⟩

theorem readProfile_carried {reply : Except String Web.Response} {f : Failure}
    (h : Directory.readProfile reply = .error f) : f = .notFound ∨ ∃ text, Carried .remote text f := by
  have hread := h
  unfold Directory.readProfile at h
  split at h
  · cases h
    exact .inr ⟨_, .profiles hread⟩
  split at h
  · split at h <;> cases h
    exact .inr ⟨_, .profiles hread⟩
  split at h
  · cases h
    exact .inl rfl
  · cases h
    exact .inr ⟨_, .profiles hread⟩

theorem open?_carried {hub : Hub} {user : UserId} {now : Tick} {f : Failure}
    (h : (hub.open? user now).1 = .error f) : ∃ text, Carried .unavailable text f := by
  unfold Hub.open? at h
  split at h <;> cases h
  exact ⟨_, .hub⟩

/-- Whatever fails around the service carries a text in one of the ways. -/
structure AllCarried : Prop where
  statements : ∀ e : SqlError, ∃ k text, Carried k text e.failure
  connections : ∀ f : PoolFault, ∃ k text, Carried k text f.failure
  setups : ∀ f : SetupFailure, ∃ text, Carried .startup text f.failure
  friends : ∀ reply f, Directory.readFriend reply = .error f → ∃ text, Carried .remote text f
  /-- A user who is not found is no matter of the installation. -/
  profiles : ∀ reply f, Directory.readProfile reply = .error f → f = .notFound ∨ ∃ text, Carried .remote text f
  sessions : ∀ (hub : Hub) user now f, (hub.open? user now).1 = .error f → ∃ text, Carried .unavailable text f

theorem allCarried : AllCarried where
  statements e := e.carried
  connections f := f.carried
  setups f := ⟨_, .setup f⟩
  friends _ _ := readFriend_carried
  profiles _ _ := readProfile_carried
  sessions _ _ _ _ := open?_carried

/-! ## Responses -/

/-- The failures are one, or differ in a hidden text. -/
def Failure.Veiled (f f' : Failure) : Prop :=
  f' = f ∨ ∃ k text text', Carried k text f ∧ Carried k text' f' ∧ k.hidden

theorem Failure.Veiled.body {f f' : Failure} (h : f.Veiled f') : f'.body = f.body := by
  obtain rfl | ⟨k, text, text', h, h', hidden⟩ := h
  · rfl
  · exact (h.body_eq_iff h').mpr ⟨rfl, .inl hidden⟩

theorem Failure.kindred_veiled : Kindred Failure.Veiled where
  own _ _ := .inl rfl
  retryable f f' h := by
    obtain rfl | ⟨k, text, text', h, h', hidden⟩ := h
    · rfl
    · rw [h.eq, h'.eq]
      cases k <;> rfl

namespace Http

open Program (Agree Indifferent)
open Surroundings (Ask SameAnswers)
open Time (Instant)

/-- Answered alike but for hidden texts, the program asks the same and ends the same. -/
def Alike {α : Type} (x : Answering α) : Prop :=
  x.Agree (fun _ => True) (SameAnswers Failure.Veiled) (fun a a' => a' = a) x

variable {c : Configuration} {settings : MessageSettings} {now : Instant} {r : Request} {α : Type}

theorem failure_veiled {f f' : Failure} (h : f.Veiled f') : Reply.failure now f' = Reply.failure now f := by
  have hstatus : f'.httpStatus = f.httpStatus := congrArg FailureBody.status h.body
  unfold Reply.failure
  rw [hstatus, h.body]

theorem answer_alike {a : Action α} (h : Indifferent (SameAnswers Failure.Veiled) Failure.Veiled a)
    (write : α → Reply) : Alike (answer now a write) := by
  refine Agree.bind h fun x x' hx => ?_
  cases hx with
  | ok v => exact .done rfl
  | error hf => exact .done (failure_veiled hf)

theorem withBody_alike {form : Json.Form α} {use : α → Answering Reply} (h : ∀ a, Alike (use a)) :
    Alike (withBody form r use) := by
  unfold withBody
  split
  · exact h _
  · exact .done rfl

theorem withQuery_alike {fields : Option α} {use : α → Answering Reply} (h : ∀ a, Alike (use a)) :
    Alike (withQuery fields use) := by
  cases fields with
  | none => exact .done rfl
  | some a => exact h a

theorem hubStats_alike (write : HubStats → Reply) : Alike (hubStats.bind fun s => .done (write s)) := by
  refine .ask trivial fun s s' hs => ?_
  rw [show s' = s from hs]
  exact .done rfl

theorem forUser_alike (user : UserId) (e : Endpoint) : Alike (e.forUser settings now user r) := by
  have kindred := Failure.kindred_veiled
  have hrefl : ∀ f : Failure, f.Veiled f := fun _ => .inl rfl
  cases e with
  | send => exact withBody_alike fun _ => answer_alike (Messaging.send_indifferent kindred _ _) _
  | history => exact withQuery_alike fun _ => answer_alike (Messaging.history_indifferent kindred _ _ _ _) _
  | read => exact withBody_alike fun _ => answer_alike (Messaging.markRead_indifferent kindred _ _ _) _
  | recallMessage =>
    exact withBody_alike fun _ => answer_alike (Messaging.recallMessage_indifferent hrefl _ _ _) _
  | deleteMessage =>
    exact withBody_alike fun _ => answer_alike (Messaging.deleteMessage_indifferent hrefl _ _) _
  | unread => exact withQuery_alike fun _ => answer_alike (Messaging.unread_indifferent kindred _ _) _
  | conversations =>
    exact withQuery_alike fun _ => answer_alike (Inbox.conversations_indifferent _ _ _) _
  | online part =>
    unfold Endpoint.forUser
    simp only
    split
    · exact .done rfl
    · exact answer_alike (isOnline_indifferent kindred _) _
  | _ => exact .done rfl

theorem forServices_alike (e : Endpoint) : Alike (e.forServices now r) := by
  cases e with
  | push => exact withBody_alike fun _ => answer_alike (push_indifferent Failure.kindred_veiled _) _
  | stats => exact hubStats_alike _
  | _ => exact .done rfl

theorem forEveryone_alike (e : Endpoint) : Alike e.forEveryone := by
  cases e with
  | health => exact hubStats_alike _
  | _ => exact .done rfl

theorem openSocket_alike (requestId : String) : Alike (openSocket c now requestId r) := by
  unfold openSocket
  simp only
  split
  · exact .done rfl
  split
  · exact .done rfl
  refine .ask trivial fun opened opened' h => ?_
  cases h with
  | error hf => exact .done (congrArg (Reply.respond (some requestId)) (failure_veiled hf))
  | ok session =>
    simp only [Program.bind]
    split
    · exact .done rfl
    · exact .ask trivial fun _ _ _ => .done rfl

/-- **A request is answered alike** whatever texts are hidden. -/
theorem serve_alike (c : Configuration) (now : Instant) (fresh : String) (r : Request) :
    Alike (serve c now fresh r) := by
  by_cases hrefused : Refused c now r
  · rw [serve_refused hrefused]
    exact .done rfl
  rcases serve_admitted c now fresh r hrefused with ⟨-, he⟩ | ⟨x, hx, he⟩
  · rw [he]
    exact openSocket_alike _
  · rw [he]
    refine Agree.bind (E := fun a a' => a' = a) ?_ fun reply _ h => .done (h ▸ rfl)
    cases hx with
    | unknown => exact .done rfl
    | everyone => exact forEveryone_alike _
    | services => exact forServices_alike _
    | users => exact forUser_alike _ _

end Http

/-! ## Servers -/

/-- A database answers alike but for hidden texts from states that `I` relates, and leaves
such states behind. -/
def Database.Hides {σ : Type} (h : Program.Handler Database.signature σ) (I : σ → σ → Prop) : Prop :=
  ∀ q x x', I x x' → Database.SameAnswers Failure.Veiled q (h q x).1 (h q x').1 ∧ I (h q x).2 (h q x').2

/-- The states of an archive that differ in hidden texts at most. -/
inductive Backend.Hides : (B : Backend) → (B.State → B.State → Prop) → Prop
  /-- An archive in memory has no such texts. -/
  | memory : Hides .memory Eq
  | database {σ : Type} {h : Program.Handler Database.signature σ} {I : σ → σ → Prop}
    (hI : Database.Hides h I) : Hides (.database h) I

variable {B : Backend} {I : B.State → B.State → Prop}

theorem Backend.Hides.answer (hB : B.Hides I) (now : Time.Instant) (q : Archive.Ask) {x x' : B.State}
    (h : I x x') : SameBut Failure.Veiled (B.answer now q x).1 (B.answer now q x').1 ∧
      I (B.answer now q x).2 (B.answer now q x').2 := by
  cases hB with
  | memory =>
    cases h
    exact ⟨.refl (fun _ => .inl rfl) _, rfl⟩
  | database hI =>
    exact Program.run_agree (fun q x x' _ h => hI q x x' h)
      (Database.Script.ofAsk_indifferent Failure.kindred_veiled.own q) h

namespace Server

open Surroundings (Ask SameAnswers)

variable {s s' : Server B}

/-- The servers differ in what their archives and directories fail for, and where that
is told only in hidden texts. -/
structure SameButTexts (I : B.State → B.State → Prop) (s s' : Server B) : Prop where
  archive : I s.archive s'.archive
  friends : ∀ user target, SameBut Failure.Veiled (s.directory.areFriends user target)
    (s'.directory.areFriends user target)
  /-- Why there is no profile is told to nobody. -/
  profiles : ∀ user, SameBut (fun _ _ => True) (s.directory.profile user) (s'.directory.profile user)
  rest : s' = { s with archive := s'.archive, directory := s'.directory }

theorem SameButTexts.answer (hB : B.Hides I) (h : s.SameButTexts I s') (q : Ask) :
    SameAnswers Failure.Veiled q (answer q s).1 (answer q s').1 ∧
      (answer q s).2.SameButTexts I (answer q s').2 := by
  obtain ⟨archive, directory, rfl⟩ : ∃ archive directory,
      s' = { s with archive := archive, directory := directory } := ⟨_, _, h.rest⟩
  cases q with
  | archive q =>
    obtain ⟨hreply, harchive⟩ := hB.answer s.now q h.archive
    exact ⟨hreply, harchive, h.friends, h.profiles, rfl⟩
  | areFriends user target => exact ⟨h.friends user target, h⟩
  | profile user => exact ⟨h.profiles user, h⟩
  | openSession user =>
    exact ⟨SameBut.refl (fun _ => .inl rfl) _, h.archive, h.friends, h.profiles, rfl⟩
  | _ => exact ⟨rfl, h.archive, h.friends, h.profiles, rfl⟩

theorem SameButTexts.openSocket (h : s.SameButTexts I s') (session : SessionId) (user : UserId) :
    (s.openSocket session user).SameButTexts I (s'.openSocket session user) := by
  refine ⟨h.archive, h.friends, h.profiles, ?_⟩
  rw [h.rest]
  rfl

/-- **Clients learn of a failure of the installation which kind it is, and the text of three
kinds only.** Whatever fails carries a text in one of the ways. Of two texts that come into
failures on any ways, the bodies of the responses are the same if and only if the kinds are
one and either it is hidden or the texts are one. Servers that differ in hidden texts answer
every request alike, and stay so. -/
theorem infrastructure_disclosed_by_kind (hB : B.Hides I) (h : s.SameButTexts I s') (fresh : String)
    (r : Http.Request) :
    AllCarried ∧
    (∀ {k k' text text' f f'}, Carried k text f → Carried k' text' f' →
      (f'.body = f.body ↔ k' = k ∧ (k.hidden ∨ text' = text))) ∧
    (s'.serve fresh r).1 = (s.serve fresh r).1 ∧
    (s.serve fresh r).2.SameButTexts I (s'.serve fresh r).2 := by
  refine ⟨allCarried, Carried.body_eq_iff, ?_⟩
  obtain ⟨hconfiguration, hnow⟩ : s'.configuration = s.configuration ∧ s'.now = s.now := by
    rw [h.rest]
    exact ⟨rfl, rfl⟩
  obtain ⟨houtcome, hbehind⟩ := Program.run_agree (h := answer) (I := SameButTexts I)
    (fun q _ _ _ h => h.answer hB q) (Http.serve_alike s.configuration s.now fresh r) h
  unfold serve run
  -- Before it is asked anything, a server's own part in an answer is its configuration and clock.
  rw [hconfiguration, hnow]
  revert houtcome hbehind
  generalize (Http.serve s.configuration s.now fresh r).run answer s = after
  generalize (Http.serve s.configuration s.now fresh r).run answer s' = after'
  obtain ⟨outcome, s⟩ := after
  obtain ⟨outcome', s'⟩ := after'
  rintro (houtcome : outcome' = outcome) hbehind
  subst houtcome
  cases outcome' with
  | response x => exact ⟨rfl, hbehind⟩
  | upgraded session user => exact ⟨rfl, hbehind.openSocket session user⟩

/-- A database that cannot be reached, for a reason. -/
def outage : Program.Handler Database.signature String := fun q reason =>
  match q with
  | .connect => (.error (.backend ⟨none, reason⟩), reason)
  | .start | .commit | .execute _ | .query _ _ => (.error ⟨none, reason⟩, reason)
  | .rollback => ((), reason)

theorem outage_hides : Database.Hides outage fun _ _ => True := by
  intro q x x' _
  refine ⟨?_, trivial⟩
  have hveiled : Failure.Veiled (.database x) (.database x') :=
    .inr ⟨.database, x, x', .directly _ _, .directly _ _, rfl⟩
  cases q with
  | rollback => exact trivial
  | _ => exact .error hveiled

/-- A request of user 1 for the number of unread messages. -/
def unreadRequest : Http.Request :=
  ⟨"GET", "/message/v1/unread", [("authorization", "Bearer " ++ Http.sampleToken)], ""⟩

/-- A server whose database cannot be reached. -/
def cutOff (reason : String) : Server (.database outage) :=
  .start { secret := Http.sampleSecret } ⟨fun _ _ => .ok true, fun user => .ok ⟨user, "", ""⟩⟩ reason ⟨0, 0⟩

theorem cutOff_alike (reason reason' : String) :
    (cutOff reason).SameButTexts (fun _ _ => True) (cutOff reason') :=
  ⟨trivial, fun _ _ => .ok true, fun _ => .ok _, rfl⟩

/-- Why a database cannot be reached is told to nobody. -/
theorem outages_told_alike :
    ((cutOff "could not connect to 10.0.0.7").serve "id" unreadRequest).1 =
      ((cutOff "password authentication failed for user im").serve "id" unreadRequest).1 :=
  (infrastructure_disclosed_by_kind (.database outage_hides) (cutOff_alike _ _) "id" unreadRequest).2.2.1

/-- The message in the body of a response. -/
def told : Http.Outcome → Option String
  | .response ⟨_, .json (.obj members), _⟩ => (members.lookup "message").bind Json.str?
  | _ => none

/-- A server whose friend service cannot be asked, for a reason. -/
def friendless (reason : String) : Server Backend.memory :=
  .start { secret := Http.sampleSecret }
    (.overWeb "http://friend-service:8080" "http://user-service:8080" fun _ => .error reason) Store.empty ⟨0, 0⟩

/-- A request of user 1 to send a message. -/
def sendRequest : Http.Request where
  method := "POST"
  target := "/message/v1/send"
  headers := [("content-type", "application/json"), ("authorization", "Bearer " ++ Http.sampleToken)]
  body := "\x7b\"to_user_id\":2,\"content\":\"hello\"\x7d"

theorem friendless_serve (reason : String) : ((friendless reason).serve "id" sendRequest).1 =
    ((friendless reason).run (Http.passing "id" sendRequest
      (Http.Endpoint.send.forUser (friendless reason).configuration.message (friendless reason).now 1
        sendRequest))).1 := by
  have harea : (Http.areaOf sendRequest.path).1 = .users := by decide +kernel
  have hendpoint : Http.endpoint? .users sendRequest.method (Http.areaOf sendRequest.path).2 = some .send := by
    decide +kernel
  have hbears : Http.Bears (friendless reason).configuration (friendless reason).now sendRequest 1 :=
    Http.bears_sampleToken rfl (by decide +kernel)
  rw [serve_fst, Http.serve_bearing harea hbears, hendpoint, Http.answerOf]

/-- **Why the friend service cannot be asked is told to clients**, with the address of
the service. -/
theorem friend_failures_told :
    told ((friendless ("error sending request for url " ++
      "(http://friend-service:8080/friend/v1/internal/check?user_id=1&target_user_id=2)")).serve "id" sendRequest).1 ≠
      told ((friendless "operation timed out").serve "id" sendRequest).1 := by
  rw [friendless_serve, friendless_serve]
  decide +kernel

end Server

end Parley
