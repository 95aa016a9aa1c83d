/-
Nobody writes to a stranger.

A program of the service is run with its directories asked over the web
(`Surroundings.overWeb`), where every fetch is noted and may be answered in
any way (`Server.wired`). It comes to the same as with a directory whose
services answer by a function (`runOverWeb_eq_run`). `Web.Tells` says without
the readers of the program which answers say yes and which say no: a success
with a JSON text that tells the truth value.

A send fetches once, and goes on for a yes alone: a no and everything that
is neither leave the server as it is (`send_fails_closed`).
-/
import Parley.Proofs.Json.Flag
import Parley.Proofs.Sending

namespace Parley

open Surroundings (Ask)

/-! ## Programs over the web -/

namespace Surroundings

/-- What is asked when the directories stand behind the web. -/
abbrev wiredSignature : Signature := ⟨Ask ⊕ Web.Request, Sum.elim Reply fun _ => Except String Web.Response⟩

/-- A program that only fetches. -/
def fetching {α : Type} (p : Program Web.signature α) : Program wiredSignature α :=
  p.interpret fun r => Program.query (S := wiredSignature) (.inr r)

/-- Asks about users over the web, and everything else as before. -/
def overWeb (friendUrl userUrl : String) : (q : Ask) → Program wiredSignature (Reply q)
  | .areFriends user target => fetching (Directory.askFriend friendUrl user target)
  | .profile user => fetching (Directory.askProfile userUrl user)
  | q => Program.query (S := wiredSignature) (.inl q)

/-- Whether a question is for the server itself. -/
def Ask.Local : Ask → Prop
  | .areFriends _ _ | .profile _ => False
  | _ => True

end Surroundings

open Surroundings (overWeb wiredSignature)

variable {B : Backend} {α : Type}

/-- A server with the fetches made so far. What a fetch brings may depend on those before it. -/
def Server.wired (fetch : List Web.Request → Web.Request → Except String Web.Response) :
    Program.Handler wiredSignature (Server B × List Web.Request)
  | .inl q, (s, made) => ((Server.answer q s).1, ((Server.answer q s).2, made))
  | .inr r, (s, made) => (fetch made r, (s, made ++ [r]))

/-- Runs a program of the service over the web: its value, the server behind
it, and all fetches in their order. -/
def Server.runOverWeb (friendUrl userUrl : String)
    (fetch : List Web.Request → Web.Request → Except String Web.Response) (s : Server B)
    (made : List Web.Request) (p : Program Surroundings.signature α) : α × Server B × List Web.Request :=
  (p.interpret (overWeb friendUrl userUrl)).run (Server.wired fetch) (s, made)

namespace Server

variable {friendUrl userUrl : String} {fetch : List Web.Request → Web.Request → Except String Web.Response}
  {s : Server B} {made : List Web.Request}

theorem runOverWeb_done (a : α) : s.runOverWeb friendUrl userUrl fetch made (.done a) = (a, s, made) := rfl

theorem runOverWeb_areFriends (user target : UserId) (next : Except Failure Bool → Program Surroundings.signature α) :
    s.runOverWeb friendUrl userUrl fetch made (.ask (.areFriends user target) next) =
      s.runOverWeb friendUrl userUrl fetch (made ++ [Directory.friendRequest friendUrl user target])
        (next (Directory.readFriend (fetch made (Directory.friendRequest friendUrl user target)))) := rfl

theorem runOverWeb_local {q : Ask} (hq : q.Local) (next : Surroundings.Reply q → Program Surroundings.signature α) :
    s.runOverWeb friendUrl userUrl fetch made (.ask q next) =
      (answer q s).2.runOverWeb friendUrl userUrl fetch made (next (answer q s).1) := by
  cases q with
  | areFriends | profile => exact hq.elim
  | _ => rfl

theorem runOverWeb_of_obeys {Q : α → Prop} {p : Program Surroundings.signature α}
    (h : p.Obeys Ask.Local (fun _ _ => True) Q) :
    s.runOverWeb friendUrl userUrl fetch made p = ((s.run p).1, (s.run p).2, made) := by
  induction p generalizing s with
  | done a => rfl
  | ask q next ih =>
    rw [runOverWeb_local h.1]
    exact ih _ (h.2 _ trivial)

theorem answer_directory (q : Ask) (s : Server B) : (answer q s).2.directory = s.directory := by
  cases q <;> rfl

section

variable {web : Web.Request → Except String Web.Response}

theorem runOverWeb_ask (h : s.directory = Directory.overWeb friendUrl userUrl web) (made : List Web.Request)
    (q : Ask) (next : Surroundings.Reply q → Program Surroundings.signature α) :
    ∃ fetched, s.runOverWeb friendUrl userUrl (fun _ => web) made (.ask q next) =
      (answer q s).2.runOverWeb friendUrl userUrl (fun _ => web) (made ++ fetched) (next (answer q s).1) := by
  cases q with
  | areFriends user target =>
    refine ⟨[Directory.friendRequest friendUrl user target], ?_⟩
    simp only [answer, h]
    rfl
  | profile user =>
    refine ⟨[Directory.profileRequest userUrl user], ?_⟩
    simp only [answer, h]
    rfl
  | _ => exact ⟨[], by rw [List.append_nil]; rfl⟩

/-- **A program that fetches its answers does what it does before a directory
of the same answers.** -/
theorem runOverWeb_eq_run (h : s.directory = Directory.overWeb friendUrl userUrl web)
    (made : List Web.Request) (p : Program Surroundings.signature α) :
    ∃ fetched, s.runOverWeb friendUrl userUrl (fun _ => web) made p =
      ((s.run p).1, (s.run p).2, made ++ fetched) := by
  induction p generalizing s made with
  | done a => exact ⟨[], by rw [List.append_nil]; rfl⟩
  | ask q next ih =>
    obtain ⟨first, hfirst⟩ := runOverWeb_ask h made q next
    obtain ⟨others, hothers⟩ := ih (answer q s).1 (s := (answer q s).2) (by rw [answer_directory, h]) (made ++ first)
    exact ⟨first ++ others, by rw [hfirst, hothers, List.append_assoc]; rfl⟩

end

end Server

/-! ## What a service tells -/

namespace Web

/-- The answer is a success with a JSON text that tells the truth value of
that name. -/
def Tells (name : String) (b : Bool) (answer : Except String Response) : Prop :=
  ∃ r, answer = .ok r ∧ 200 ≤ r.status ∧ r.status < 300 ∧
    ∃ tree, Json.Written (Text.Utf8.scan none r.body) tree ∧ Json.Flag name b tree

end Web

namespace Directory

open Web (Tells)

variable {answer : Except String Web.Response}

theorem readFriend_eq_ok_iff {b : Bool} : readFriend answer = .ok b ↔ Tells "is_friend" b answer := by
  cases answer with
  | error reason => exact ⟨nofun, nofun⟩
  | ok r =>
    have hsucceeded : r.succeeded = true ↔ 200 ≤ r.status ∧ r.status < 300 := by
      simp [Web.Response.succeeded]
    have hbody : friendForm.ofOctets? r.body = some b ↔ _ := Json.flagForm_scanned?_iff
    have hread : readFriend (.ok r) = .ok b ↔ r.succeeded = true ∧ friendForm.ofOctets? r.body = some b := by
      cases hr : r.succeeded with
      | false => simp [readFriend, hr]
      | true => cases hbody : friendForm.ofOctets? r.body <;> simp [readFriend, hr, hbody]
    rw [hread, hsucceeded, hbody]
    constructor
    · rintro ⟨⟨hlow, hhigh⟩, hbody⟩
      exact ⟨r, rfl, hlow, hhigh, hbody⟩
    · rintro ⟨_, heq, hlow, hhigh, hbody⟩
      cases heq
      exact ⟨⟨hlow, hhigh⟩, hbody⟩

theorem readFriend_eq_error {f : Failure} (h : readFriend answer = .error f) : ∃ text, f = .remote text := by
  cases answer with
  | error reason =>
    cases h
    exact ⟨_, rfl⟩
  | ok r =>
    simp only [readFriend] at h
    split at h
    · cases h
      exact ⟨_, rfl⟩
    · split at h
      · cases h
      · cases h
        exact ⟨_, rfl⟩

example : readFriend (.ok ⟨201, Text.Utf8.encode "[true]".toList⟩) = .ok true ∧
    readFriend (.ok ⟨200, Text.Utf8.encode "[true, true]".toList⟩) = .error (.remote
      "friend-service body: error decoding response body") := by decide +kernel

end Directory

namespace Messaging

/-- What becomes of a draft when the question about friendship is answered. -/
def sendIf (draft : Draft) : Except Failure Bool → Program Surroundings.signature (Except Failure Message)
  | .ok true => (storeRetrying draft (storeAttempts - 1) >>= deliver).run
  | .ok false => .done (.error .notFriends)
  | .error f => .done (.error f)

variable {settings : MessageSettings} {request : SendRequest} {draft : Draft}

theorem send_of_refusal {f : Failure} (h : request.check settings = .error f) :
    (send settings request).run = .done (.error f) := by
  rw [send, h]
  rfl

theorem send_of_check (h : request.check settings = .ok draft) :
    (send settings request).run = .ask (.areFriends draft.sender draft.recipient) (sendIf draft) := by
  rw [send, h]
  refine congrArg (Program.ask (S := Surroundings.signature) (.areFriends draft.sender draft.recipient)) ?_
  funext answer
  cases answer with
  | error f => rfl
  | ok friends => cases friends <;> rfl

theorem sendIf_local (draft : Draft) (answer : Except Failure Bool) :
    (sendIf draft answer).Obeys Surroundings.Ask.Local (fun _ _ => True) fun _ => True := by
  match answer with
  | .ok true =>
    exact Action.obeys_bind ((storeRetrying_obeys trivial _).imp fun _ _ => trivial)
      (fun m _ => deliver_obeys trivial fun _ => trivial) fun _ _ => trivial
  | .ok false | .error _ => trivial

theorem send_overWeb {friendUrl userUrl : String}
    {fetch : List Web.Request → Web.Request → Except String Web.Response} {s : Server B} {made : List Web.Request}
    (h : request.check settings = .ok draft) :
    let get := Directory.friendRequest friendUrl request.sender request.recipient
    let work := s.run (sendIf draft (Directory.readFriend (fetch made get)))
    s.runOverWeb friendUrl userUrl fetch made (send settings request).run = (work.1, work.2, made ++ [get]) := by
  obtain ⟨-, hsender, hrecipient, -⟩ := SendRequest.draft_of_check h
  intro get work
  rw [send_of_check h]
  refine (Server.runOverWeb_areFriends _ _ _).trans ?_
  rw [hsender, hrecipient]
  exact Server.runOverWeb_of_obeys (sendIf_local draft _)

/-- **A send fails closed.** Whatever the friend service answers, it is asked
once about the sender and the recipient of a request that passes its check,
and of no other. A yes lets the message be stored and delivered. A no, and
all that tells neither, leave the server as it is, archive, hub and queues. -/
theorem send_fails_closed (settings : MessageSettings) (request : SendRequest) (friendUrl userUrl : String)
    (fetch : List Web.Request → Web.Request → Except String Web.Response) (s : Server B)
    (made : List Web.Request) :
    let get : Web.Request := ⟨Directory.base friendUrl ++ "/friend/v1/internal/check",
      [("user_id", request.sender), ("target_user_id", request.recipient)]⟩
    let told (b : Bool) := Web.Tells "is_friend" b (fetch made get)
    let outcome := s.runOverWeb friendUrl userUrl fetch made (send settings request).run
    (∀ f, request.check settings = .error f → outcome = (.error f, s, made)) ∧
    (∀ draft, request.check settings = .ok draft →
      (told true → outcome =
        let stored := s.run (storeRetrying draft (storeAttempts - 1) >>= deliver).run
        (stored.1, stored.2, made ++ [get])) ∧
      (told false → outcome = (.error .notFriends, s, made ++ [get])) ∧
      (¬told true → ¬told false → ∃ text, outcome = (.error (.remote text), s, made ++ [get]))) ∧
    (outcome.2.1 ≠ s ∨ (∃ m, outcome.1 = .ok m) → outcome.2.2 = made ++ [get] ∧ told true) ∧
    ∀ web, fetch = (fun _ => web) → s.directory = Directory.overWeb friendUrl userUrl web →
      (outcome.1, outcome.2.1) = s.run (send settings request).run := by
  intro get told outcome
  have refused (f : Failure) (h : request.check settings = .error f) : outcome = (.error f, s, made) := by
    simp only [outcome, send_of_refusal h, Server.runOverWeb_done]
  have asked (draft : Draft) (h : request.check settings = .ok draft) {answer : Except Failure Bool}
      (hread : Directory.readFriend (fetch made get) = answer) :
      outcome = ((s.run (sendIf draft answer)).1, (s.run (sendIf draft answer)).2, made ++ [get]) :=
    hread ▸ send_overWeb h
  have strangers (draft : Draft) (h : request.check settings = .ok draft) (hno : told false) :
      outcome = (.error .notFriends, s, made ++ [get]) :=
    asked draft h (Directory.readFriend_eq_ok_iff.mpr hno)
  have unanswered (draft : Draft) (h : request.check settings = .ok draft) (hyes : ¬told true)
      (hno : ¬told false) : ∃ text, outcome = (.error (.remote text), s, made ++ [get]) := by
    cases hread : Directory.readFriend (fetch made get) with
    | ok b =>
      have htold : told b := Directory.readFriend_eq_ok_iff.mp hread
      cases b with
      | true => exact absurd htold hyes
      | false => exact absurd htold hno
    | error f =>
      obtain ⟨text, rfl⟩ := Directory.readFriend_eq_error hread
      exact ⟨text, asked draft h hread⟩
  refine ⟨refused, fun draft h => ⟨fun hyes => asked draft h (Directory.readFriend_eq_ok_iff.mpr hyes),
    strangers draft h, unanswered draft h⟩, fun hdone => ?_, ?_⟩
  · cases hcheck : request.check settings with
    | error f => simp [refused f hcheck] at hdone
    | ok draft =>
      by_cases hyes : told true
      · exact ⟨by rw [asked draft hcheck rfl], hyes⟩
      by_cases hno : told false
      · simp [strangers draft hcheck hno] at hdone
      · obtain ⟨text, hout⟩ := unanswered draft hcheck hyes hno
        simp [hout] at hdone
  · rintro web rfl hdirectory
    obtain ⟨fetched, hrun⟩ := Server.runOverWeb_eq_run hdirectory made (send settings request).run
    simp only [outcome, hrun]

end Messaging
end Parley
