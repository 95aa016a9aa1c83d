/-
What requests may do, and as whom.

`ActsAs` lists what a user may have asked of the surroundings, and what has to
be answered before. A request that carries a token acts as the user of the
token, whatever its body and its query say (`Http.serve_acts`). Sessions are
opened for nobody but the user whom a request for a socket names
(`Http.serve_opens`). Together with the guards this is the access control of the
service (`Server.access_controlled`); it keeps nobody out who has the credential of
the area (`Server.reaches`).
-/
import Parley.Proofs.Grounds
import Parley.Proofs.Http.Guard
import Parley.Proofs.Hub.Sessions
import Parley.Proofs.Sending

namespace Parley

open Surroundings (Ask signature)

/-! ## Acting as a user -/

/-- The archive answered with the message. -/
def Shown (A : (q : Ask) → signature.Reply q → Prop) (m : Message) : Prop := ∃ id, Seen A id m

/-- The user takes part in a conversation. -/
def TakesPart (user : UserId) (conversation : String) : Prop :=
  ∃ other, Pair.counterpart? conversation user = some other

/-- What a user has told to others: a message that was stored, or a retirement
that was applied. -/
inductive Reports (user : UserId) (A : (q : Ask) → signature.Reply q → Prop) : UserId → String → Prop
  | stored {draft : Draft} {m : Message} (h : A (.archive (.store draft)) (.ok m)) :
    Reports user A m.recipient m.newFrame
  | recalled {id : Int} {old : Status} {m : Message}
    (h : A (.archive (.retire id old .recalled)) (.ok (.applied m))) :
    Reports user A (m.counterpart m.sender) (m.frameOf m.sender .recalled)
  | deleted {id : Int} {old : Status} {m : Message}
    (h : A (.archive (.retire id old .deleted)) (.ok (.applied m))) :
    Reports user A (m.counterpart user) (m.frameOf user .deleted)

/-- What may be asked for a user, where `A` admits the answers before it. -/
def ActsAs (user : UserId) (A : (q : Ask) → signature.Reply q → Prop) : Ask → Prop
  | .archive (.store draft) => draft.sender = user
  | .archive (.find _) => True
  | .archive (.transition id old new) =>
    old = .sent ∧ new = .delivered ∧ ∃ draft m, A (.archive (.store draft)) (.ok m) ∧ m.id = id
  | .archive (.retire id old new) => ∃ m, Shown A m ∧ m.id = id ∧ m.status = old ∧
    (new = .recalled ∧ m.sender = user ∨ new = .deleted ∧ m.isParticipant user)
  | .archive (.markRead reader conversation _) => reader = user ∧ TakesPart user conversation
  | .archive (.history conversation _ _) => TakesPart user conversation
  | .archive (.rows owner _ _) => owner = user
  | .archive (.row _ _) => False
  | .archive (.unread owner conversation) =>
    owner = user ∧ ∀ c, conversation = some c → TakesPart user c
  | .areFriends asker _ => asker = user
  | .offer target frame => Reports user A target frame
  | .profile _ | .time | .isOnline _ => True
  | .stats | .openSession _ | .closeSession _ | .touch _ => False

namespace Messaging

open Parley.Action (obeys_pure obeys_throw obeys_ofExcept obeys_bind obeys_query obeys_archive)

variable {user : UserId} {A : (q : Ask) → signature.Reply q → Prop}

theorem send_acts {settings : MessageSettings} {request : SendRequest} (h : request.sender = user) :
    (send settings request).run.Obeys (ActsAs user A) A fun _ => True := by
  have hsender : ∀ draft, request.check settings = .ok draft → draft.sender = user :=
    fun draft hd => (SendRequest.draft_of_check hd).2.1.trans h
  exact send_rule hsender hsender (fun draft m hm => .stored hm)
    fun draft m hm _ => ⟨rfl, rfl, draft, m, hm, rfl⟩

theorem retirement_shown {α : Type} {P : Ask → Prop} {check : Message → Action Unit} {C : Message → Prop}
    {target : Status} {next : Message → Action α} {id : Int} {n : Nat} (hfind : P (.archive (.find id)))
    (hcheck : ∀ m, (check m).run.Obeys P A fun x => x = .ok () → C m)
    (hretire : ∀ m, Shown A m → C m → P (.archive (.retire m.id m.status target)))
    (hnext : ∀ id old m, A (.archive (.retire id old target)) (.ok (.applied m)) →
      (next m).run.Obeys P A fun _ => True) :
    (existing id >>= fun m => retireChecked check target n m >>= next).run.Obeys P A fun _ => True :=
  retirement_rule hfind hcheck (fun _ hm => ⟨id, .inl hm⟩) (fun m _ _ hstale => ⟨m.id, .inr ⟨_, _, hstale⟩⟩)
    hretire fun seen m _ _ happlied => hnext seen.id seen.status m happlied

theorem recallMessage_acts {settings : MessageSettings} {id : Int} :
    (recallMessage settings user id).run.Obeys (ActsAs user A) A fun _ => True := by
  refine retirement_shown trivial (fun m => recallCheck_passes trivial)
    (fun m hshown hsender => ⟨m, hshown, rfl, rfl, .inl ⟨rfl, hsender⟩⟩) fun id old m hm => ?_
  exact obeys_query (.recalled hm) fun _ _ => obeys_pure trivial

theorem deleteMessage_acts {id : Int} :
    (deleteMessage user id).run.Obeys (ActsAs user A) A fun _ => True := by
  refine retirement_shown trivial (fun m => obeys_ofExcept checkDelete_participant)
    (fun m hshown hpart => ⟨m, hshown, rfl, rfl, .inr ⟨rfl, hpart⟩⟩) fun id old m hm => ?_
  exact obeys_query (.deleted hm) fun _ _ => obeys_pure trivial

theorem participating_rule {P : Ask → Prop} {conversation : String} :
    (participating conversation user).run.Obeys P A fun x => x = .ok () → TakesPart user conversation := by
  refine obeys_bind (obeys_ofExcept (Q := fun x => x = counterpart conversation user) rfl)
    (fun other h _ => ⟨other, ?_⟩) fun _ _ => nofun
  unfold counterpart at h
  split at h
  · cases h
  · split at h
    · next hother =>
      cases h
      exact hother
    · cases h

theorem history_acts {conversation : String} {before limit : Option Int} :
    (history user conversation before limit).run.Obeys (ActsAs user A) A fun _ => True := by
  refine obeys_bind participating_rule (fun _ hpart => ?_) fun _ _ => trivial
  exact obeys_archive (hpart rfl) (fun _ _ => obeys_pure trivial) fun _ => trivial

theorem markRead_acts {conversation : String} {upTo : Option Int} :
    (markRead user conversation upTo).run.Obeys (ActsAs user A) A fun _ => True :=
  obeys_bind participating_rule (fun _ hpart => ⟨⟨rfl, hpart rfl⟩, fun _ _ => trivial⟩)
    fun _ _ => trivial

theorem unread_acts {conversation : Option String} :
    (unread user conversation).run.Obeys (ActsAs user A) A fun _ => True := by
  unfold unread
  simp only
  split
  · next c hc =>
    refine obeys_bind participating_rule (fun _ hpart => ⟨⟨rfl, fun c' hc' => ?_⟩, fun _ _ => trivial⟩)
      fun _ _ => trivial
    cases hc.symm.trans hc'
    exact hpart rfl
  · next hc => exact ⟨⟨rfl, fun c' hc' => (nomatch hc.symm.trans hc')⟩, fun _ _ => trivial⟩

end Messaging

namespace Http

open Parley.Action (obeys_throw)
open Time (Instant)

variable {P : Ask → Prop} {A : (q : Ask) → signature.Reply q → Prop} {user : UserId} {now : Instant}
  {r : Request}

theorem answer_obeys {α : Type} {a : Action α} {write : α → Reply}
    (h : a.run.Obeys P A fun _ => True) : (answer now a write).Obeys P A fun _ => True := by
  refine h.bind fun x _ => ?_
  cases x <;> exact trivial

theorem withBody_obeys {α : Type} {form : Json.Form α} {use : α → Answering Reply}
    (h : ∀ a, (use a).Obeys P A fun _ => True) : (withBody form r use).Obeys P A fun _ => True := by
  unfold withBody
  split
  · exact h _
  · exact trivial

theorem withQuery_obeys {α : Type} {fields : Option α} {use : α → Answering Reply}
    (h : ∀ a, (use a).Obeys P A fun _ => True) : (withQuery fields use).Obeys P A fun _ => True := by
  cases fields with
  | none => exact trivial
  | some a => exact h a

theorem isOnline_obeys (h : P (.isOnline user)) : (isOnline user).run.Obeys P A fun _ => True := by
  by_cases hid : user ≤ 0
  · have hrefused : isOnline user = throw (.invalidUserId user) := if_pos hid
    rw [hrefused]
    exact obeys_throw trivial
  · have hasked : isOnline user = Action.query (.isOnline user) := if_neg hid
    rw [hasked]
    exact ⟨h, fun _ _ => trivial⟩

theorem forUser_acts {settings : MessageSettings} (e : Endpoint) :
    (e.forUser settings now user r).Obeys (ActsAs user A) A fun _ => True := by
  cases e with
  | send => exact withBody_obeys fun _ => answer_obeys (Messaging.send_acts rfl)
  | history => exact withQuery_obeys fun _ => answer_obeys Messaging.history_acts
  | read => exact withBody_obeys fun _ => answer_obeys Messaging.markRead_acts
  | recallMessage => exact withBody_obeys fun _ => answer_obeys Messaging.recallMessage_acts
  | deleteMessage => exact withBody_obeys fun _ => answer_obeys Messaging.deleteMessage_acts
  | unread => exact withQuery_obeys fun _ => answer_obeys Messaging.unread_acts
  | conversations =>
    exact withQuery_obeys fun _ => answer_obeys (Inbox.conversations_obeys (fun _ _ => rfl) fun _ => trivial)
  | online part =>
    unfold Endpoint.forUser
    simp only
    split
    · exact trivial
    · exact answer_obeys (isOnline_obeys trivial)
  | _ => exact trivial

theorem passing_obeys {fresh : String} {x : Answering Reply} (h : x.Obeys P A fun _ => True) :
    (passing fresh r x).Obeys P A fun _ => True :=
  h.bind fun _ _ => trivial

theorem answerOf_obeys {e : Option Endpoint} {use : Endpoint → Answering Reply}
    (h : ∀ e, (use e).Obeys P A fun _ => True) : (answerOf e use).Obeys P A fun _ => True := by
  cases e with
  | none => exact trivial
  | some e => exact h e

/-- **A request with a token acts as its user.** -/
theorem serve_acts {c : Configuration} {fresh : String} (harea : (areaOf r.path).1 = .users)
    (h : Bears c now r user) : (serve c now fresh r).Obeys (ActsAs user A) A fun _ => True := by
  rw [serve_bearing harea h]
  exact passing_obeys (answerOf_obeys forUser_acts)

/-! ## Opening sessions -/

/-- The token of a request for a socket: that of its authorization, or if there
is none, that of its query. -/
def OpensWith (r : Request) (token : String) : Prop :=
  r.headers.Carries token ∨
    (∀ other, ¬ r.headers.Carries other) ∧ single (fields r.query) "token" = some (some token)

/-- The request asks for a socket of a user. -/
def Names (c : Configuration) (now : Instant) (r : Request) (user : UserId) : Prop :=
  r.method = "GET" ∧ r.path = "/ws" ∧
    ∃ token, OpensWith r token ∧ AccessToken.verify? c.secret now.second token = some user

theorem socketToken_eq_some_iff {token : String} {queryToken : Option String}
    (hquery : single (fields r.query) "token" = some queryToken) :
    socketToken r queryToken = some token ↔ OpensWith r token := by
  unfold socketToken OpensWith
  simp only [← Headers.bearer?_eq_some_iff, hquery, Option.some.injEq]
  cases r.headers.bearer? <;> simp

/-- A question that neither opens nor closes a session. -/
def LeavesSessions (q : Ask) : Prop := (∀ user, q ≠ .openSession user) ∧ ∀ id, q ≠ .closeSession id

theorem forServices_leaves_sessions (e : Endpoint) :
    (e.forServices now r).Obeys LeavesSessions A fun _ => True := by
  cases e with
  | push => exact withBody_obeys fun _ => answer_obeys (push_obeys ⟨nofun, nofun⟩)
  | stats => exact ⟨⟨nofun, nofun⟩, fun _ _ => trivial⟩
  | _ => exact trivial

theorem forEveryone_leaves_sessions (e : Endpoint) :
    e.forEveryone.Obeys LeavesSessions A fun _ => True := by
  cases e with
  | health => exact ⟨⟨nofun, nofun⟩, fun _ _ => trivial⟩
  | _ => exact trivial

theorem leavesSessions_of_actsAs {q : Ask} (h : ActsAs user A q) : LeavesSessions q := by
  refine ⟨?_, ?_⟩
  · rintro opened rfl
    exact h
  · rintro closed rfl
    exact h

theorem endpoint_socket (h : r.endpoint? = some .socket) : r.method = "GET" ∧ r.path = "/ws" := by
  have harea : (areaOf r.path).1 = .everyone := Request.endpoint?_area h
  have hnamed : ∀ {rest : List Char}, endpoint? .everyone r.method rest = some .socket →
      r.method = "GET" ∧ String.ofList rest = "/ws" := by
    intro rest h
    unfold endpoint? at h
    split at h <;> simp_all
  have hrest : (areaOf r.path).2 = r.path.toList := by
    revert harea
    unfold areaOf
    split
    · simp
    · split <;> simp
  unfold Request.endpoint? at h
  rw [harea] at h
  obtain ⟨hmethod, hpath⟩ := hnamed h
  rw [hrest, String.ofList_toList] at hpath
  exact ⟨hmethod, hpath⟩

theorem serve_cases (c : Configuration) (now : Instant) (fresh : String) (r : Request) :
    serve c now fresh r = .done (refusal now) ∨
    (r.method = "GET" ∧ r.path = "/ws" ∧ serve c now fresh r = openSocket c now (requestIdOf r fresh) r) ∨
    ∃ x : Answering Reply, serve c now fresh r = passing fresh r x ∧
      ∀ A, x.Obeys LeavesSessions A fun _ => True := by
  by_cases hrefused : Refused c now r
  · exact .inl (serve_refused hrefused)
  rcases serve_admitted c now fresh r hrefused with ⟨hsocket, he⟩ | ⟨x, hx, he⟩
  · obtain ⟨hmethod, hpath⟩ := endpoint_socket hsocket
    exact .inr (.inl ⟨hmethod, hpath, he⟩)
  · refine .inr (.inr ⟨x, he, fun A => ?_⟩)
    cases hx with
    | unknown => exact trivial
    | everyone => exact forEveryone_leaves_sessions _
    | services => exact forServices_leaves_sessions _
    | users => exact forUser_acts _ |>.mono (fun _ => leavesSessions_of_actsAs) (fun _ _ h => h) fun _ h => h

/-- What follows the opening of a session for a socket. -/
def handover (now : Instant) (requestId : String) (r : Request) (user : UserId) :
    Except Failure SessionId → Answering Outcome
  | .error f => .done ((Reply.failure now f).respond (some requestId))
  | .ok session =>
    match handshakeFault? r.headers with
    | none => .done (.upgraded session user)
    | some status => .ask (.closeSession session) fun _ => .done ((Reply.empty status).respond (some requestId))

theorem openSocket_cases (c : Configuration) (now : Instant) (requestId : String) (hmethod : r.method = "GET")
    (hpath : r.path = "/ws") : (∃ x, openSocket c now requestId r = .done (.response x)) ∨
      ∃ user, Names c now r user ∧
        openSocket c now requestId r = .ask (.openSession user) (handover now requestId r user) := by
  cases hquery : single (fields r.query) "token" with
  | none =>
    refine .inl ⟨⟨400, .text, some requestId⟩, ?_⟩
    simp only [openSocket, hquery]
    rfl
  | some queryToken =>
    cases hverified : (socketToken r queryToken).bind (AccessToken.verify? c.secret now.second) with
    | none =>
      have hrefused : openSocket c now requestId r =
          .done ((Reply.failure now .unauthorized).respond (some requestId)) := by
        simp only [openSocket, hquery, userOf, hverified]
      exact .inl ⟨_, hrefused⟩
    | some user =>
      obtain ⟨token, htoken, hverify⟩ := Option.bind_eq_some_iff.mp hverified
      have hnames : Names c now r user :=
        ⟨hmethod, hpath, token, (socketToken_eq_some_iff hquery).mp htoken, hverify⟩
      refine .inr ⟨user, hnames, ?_⟩
      simp only [openSocket, hquery, userOf, hverified]
      refine congrArg (Program.ask _) (funext fun opened => ?_)
      cases opened <;> rfl

/-- The outcome is a socket of the user only if a session was opened for it. -/
def Upgrades (A : (q : Ask) → signature.Reply q → Prop) (c : Configuration) (now : Instant) (r : Request) :
    Outcome → Prop
  | .upgraded session user => Names c now r user ∧ A (.openSession user) (.ok session)
  | .response _ => True

/-- **Sessions are opened for nobody but the user whom a request for a socket
names.** -/
theorem serve_opens {c : Configuration} {fresh : String} : (serve c now fresh r).Obeys
    (fun q : Ask => ∀ user, q = .openSession user → Names c now r user) A (Upgrades A c now r) := by
  rcases serve_cases c now fresh r with he | ⟨hmethod, hpath, he⟩ | ⟨x, he, hx⟩
  · rw [he]
    exact trivial
  · rw [he]
    rcases openSocket_cases c now (requestIdOf r fresh) hmethod hpath with ⟨x, he⟩ | ⟨user, hnames, he⟩
    · rw [he]
      exact trivial
    · rw [he]
      refine ⟨fun _ hq => Ask.openSession.inj hq ▸ hnames, fun opened hopened => ?_⟩
      cases opened with
      | error f => exact trivial
      | ok session =>
        unfold handover
        simp only
        split
        · exact ⟨hnames, hopened⟩
        · exact ⟨fun _ => nofun, fun _ _ => trivial⟩
  · rw [he]
    refine ((hx A).mono (fun q hq => ?_) (fun _ _ h => h) fun _ h => h).bind fun _ _ => trivial
    exact fun user he => (hq.1 user he).elim

end Http

/-! ## What is stored -/

namespace Store

variable {s s' s'' : Store} {user : UserId} {now : Time.Instant}

/-- Every message behind is one of the user, or was there before. -/
def WrittenBy (user : UserId) (s s' : Store) : Prop :=
  ∀ m ∈ s'.messages, m.sender = user ∨ ∃ m₀ ∈ s.messages, m₀.id = m.id ∧ m₀.sender = m.sender

theorem WrittenBy.refl (s : Store) : WrittenBy user s s := fun m hm => .inr ⟨m, hm, rfl, rfl⟩

theorem WrittenBy.trans (h : WrittenBy user s s') (h' : WrittenBy user s' s'') : WrittenBy user s s'' := by
  intro m hm
  rcases h' m hm with hsender | ⟨m', hm', hid, hsender⟩
  · exact .inl hsender
  · rcases h m' hm' with huser | ⟨m₀, hm₀, hid₀, hsender₀⟩
    · exact .inl (hsender ▸ huser)
    · exact .inr ⟨m₀, hm₀, hid₀.trans hid, hsender₀.trans hsender⟩

theorem writtenBy_map {f : Message → Message} (hmessages : s'.messages = s.messages.map f)
    (hf : ∀ m ∈ s.messages, ∃ m₀ ∈ s.messages, m₀.id = (f m).id ∧ m₀.sender = (f m).sender) :
    WrittenBy user s s' := by
  intro m hm
  rw [hmessages] at hm
  obtain ⟨m', hm', rfl⟩ := List.mem_map.mp hm
  exact .inr (hf m' hm')

theorem answer_writtenBy {q : Archive.Ask} (hq : ∀ draft, q = .store draft → draft.sender = user) :
    WrittenBy user s (s.answer now q).2 := by
  cases q with
  | store draft =>
    intro m hm
    change m ∈ (s.add draft now).2.messages at hm
    rw [add_eq] at hm
    rcases List.mem_append.mp hm with hm | hm
    · exact .inr ⟨m, hm, rfl, rfl⟩
    · rw [List.mem_singleton.mp hm]
      exact .inl (hq draft rfl)
  | transition id old new =>
    change WrittenBy user s (s.transition id old new now).2
    unfold transition
    split
    · split
      · refine writtenBy_map rfl fun m hm => ⟨m, hm, ?_⟩
        split <;> exact ⟨rfl, rfl⟩
      · exact WrittenBy.refl s
    · exact WrittenBy.refl s
  | retire id expected target =>
    change WrittenBy user s (s.retire id expected target now).2
    unfold retire
    cases hfound : s.message? id with
    | none => exact WrittenBy.refl s
    | some found =>
    have hmem := (mem_of_message? hfound).1
    simp only
    split
    · refine writtenBy_map (f := fun m => if m.id == id then
        { found with status := target, updatedAt := now } else m) ?_ fun m hm => ?_
      · split <;> rfl
      · split
        · exact ⟨found, hmem, rfl, rfl⟩
        · exact ⟨m, hm, rfl, rfl⟩
    · exact WrittenBy.refl s
  | markRead reader conversation upTo =>
    change WrittenBy user s (s.markRead reader conversation upTo now).2
    unfold markRead
    split
    · exact WrittenBy.refl s
    · refine writtenBy_map rfl fun m hm => ⟨m, hm, ?_⟩
      split <;> exact ⟨rfl, rfl⟩
  | _ => exact WrittenBy.refl s

end Store

/-! ## The service -/

namespace Server

open Http (Under servicesRoot usersRoot Keyed Bears Names areaOf_services_iff areaOf_users_iff)

variable {B : Backend} {s : Server B} {fresh : String} {r : Http.Request} {user : UserId}

/-- What a request asks of the surroundings, and how it is answered. -/
def exchanges (s : Server B) (fresh : String) (r : Http.Request) :
    List (Program.Exchange signature) :=
  (Http.serve s.configuration s.now fresh r).exchanges answer s

/-- Whether a request lies among those of users. -/
def ForUsers (r : Http.Request) : Prop := Under usersRoot r.path ∧ ¬ Under servicesRoot r.path

/-- The answer to a request that may not pass, from a server that stays as it is. -/
def Refuses (s : Server B) (fresh : String) (r : Http.Request) : Prop :=
  ∃ body, s.serve fresh r = (.response ⟨401, body, none⟩, s)

/-- Who may do what with a request. -/
structure Controlled (s : Server B) (fresh : String) (r : Http.Request) : Prop where
  /-- An internal request needs the key. -/
  services : Under servicesRoot r.path → ¬ Keyed s.configuration r → s.Refuses fresh r
  /-- The token of an internal request does not count. -/
  services_only : Under servicesRoot r.path →
    s.serve fresh (r.without "authorization") = s.serve fresh r
  /-- A request of users needs a token. -/
  users : ForUsers r → (∀ user, ¬ Bears s.configuration s.now r user) → s.Refuses fresh r
  /-- The internal key of a request of users does not count. -/
  users_only : ForUsers r → s.serve fresh (r.without "x-internal-api-key") = s.serve fresh r
  /-- Whatever a request of users asks for, it asks as the user of its token. -/
  acting : ∀ user, ForUsers r → Bears s.configuration s.now r user → ∀ front e behind,
    s.exchanges fresh r = front ++ e :: behind → ActsAs user (fun q reply => ⟨q, reply⟩ ∈ front) e.1
  /-- A session is opened for nobody but the user whom a request for a socket names. -/
  opening : ∀ id x, (s.serve fresh r).2.hub.session? id = some x →
    (∃ x₀, s.hub.session? id = some x₀ ∧ x₀.user = x.user) ∨ Names s.configuration s.now r x.user
  /-- A socket is for the user whom its request names. -/
  upgrading : ∀ session user, (s.serve fresh r).1 = .upgraded session user →
    Names s.configuration s.now r user ∧ ⟨.openSession user, .ok session⟩ ∈ s.exchanges fresh r

theorem serve_fst : (s.serve fresh r).1 = (s.run (Http.serve s.configuration s.now fresh r)).1 := by
  unfold Server.serve
  cases s.run (Http.serve s.configuration s.now fresh r) with
  | mk outcome s' => cases outcome <;> rfl

theorem serve_snd_hub :
    (s.serve fresh r).2.hub = (s.run (Http.serve s.configuration s.now fresh r)).2.hub := by
  unfold Server.serve
  simp only
  split <;> rfl

theorem serve_snd_archive :
    (s.serve fresh r).2.archive = (s.run (Http.serve s.configuration s.now fresh r)).2.archive := by
  unfold Server.serve
  simp only
  split <;> rfl

theorem serve_without {name : String} (h : Http.serve s.configuration s.now fresh (r.without name) =
    Http.serve s.configuration s.now fresh r) : s.serve fresh (r.without name) = s.serve fresh r := by
  unfold Server.serve
  rw [h]

theorem serve_dialogue (s : Server B) (fresh : String) (r : Http.Request) : (Http.serve s.configuration s.now fresh r).Dialogue (s.exchanges fresh r)
    (s.serve fresh r).1 :=
  serve_fst ▸ Program.dialogue_run answer _ s

theorem serve_sessions {id : SessionId} {x : Session}
    (hx : (s.serve fresh r).2.hub.session? id = some x) :
    (∃ x₀, s.hub.session? id = some x₀ ∧ x₀.user = x.user) ∨ Names s.configuration s.now r x.user := by
  let I (s' : Server B) : Prop := ∀ id x, s'.hub.session? id = some x →
    (∃ x₀, s.hub.session? id = some x₀ ∧ x₀.user = x.user) ∨ Names s.configuration s.now r x.user
  have hstep : ∀ (q : Ask) (s' : Server B), (∀ user, q = .openSession user → Names s.configuration s.now r user) →
      I s' → True ∧ I (answer q s').2 := by
    intro q s' hq hI
    refine ⟨trivial, fun id x hx => ?_⟩
    rcases answer_sessions hx with ⟨x', hx', hu'⟩ | hopen
    · rcases hI id x' hx' with ⟨x₀, hx₀, hu₀⟩ | hnames
      · exact .inl ⟨x₀, hx₀, hu₀.trans hu'⟩
      · exact .inr (hu' ▸ hnames)
    · exact .inr (hq _ hopen)
  have hrun : I (s.run (Http.serve s.configuration s.now fresh r)).2 :=
    (Program.run_obeys (A := fun _ _ => True) hstep Http.serve_opens fun id x hx => .inl ⟨x, hx, rfl⟩).2
  rw [serve_snd_hub] at hx
  exact hrun id x hx

theorem controlled (s : Server B) (fresh : String) (r : Http.Request) : s.Controlled fresh r where
  services hunder hkey := by
    obtain ⟨body, he⟩ := Http.refusal_eq s.now
    exact ⟨body, he ▸ serve_refused (.inl ⟨areaOf_services_iff.mpr hunder, hkey⟩)⟩
  services_only hunder := serve_without (Http.serve_without_authorization (areaOf_services_iff.mpr hunder))
  users hunder htoken := by
    obtain ⟨body, he⟩ := Http.refusal_eq s.now
    exact ⟨body, he ▸ serve_refused (.inr ⟨areaOf_users_iff.mpr hunder, htoken⟩)⟩
  users_only hunder := serve_without (Http.serve_without_key (areaOf_users_iff.mpr hunder))
  acting user hunder htoken front e behind hsplit := by
    have hdialogue := serve_dialogue s fresh r
    rw [hsplit] at hdialogue
    exact (Http.serve_acts (areaOf_users_iff.mpr hunder) htoken).asked hdialogue fun x hx => hx
  opening _ _ := serve_sessions
  upgrading session user houtcome := by
    have hdialogue := serve_dialogue s fresh r
    rw [houtcome] at hdialogue
    exact (Http.serve_opens (A := fun q reply => ⟨q, reply⟩ ∈ s.exchanges fresh r)).ended hdialogue
      fun x hx => hx

/-- The request is answered with its id by work that is run, and nothing else is done for it. -/
def Replies (s : Server B) (fresh : String) (r : Http.Request) (work : Http.Answering Http.Reply) : Prop :=
  s.serve fresh r = ((s.run work).1.respond (some (Http.requestIdOf r fresh)), (s.run work).2)

theorem replies_of_passing {work : Http.Answering Http.Reply}
    (h : Http.serve s.configuration s.now fresh r = Http.passing fresh r work) : s.Replies fresh r work := by
  have hrun : s.run (Http.passing fresh r work) =
      ((s.run work).1.respond (some (Http.requestIdOf r fresh)), (s.run work).2) :=
    Program.run_bind answer work _ s
  unfold Replies Server.serve
  rw [h, hrun]
  rfl

/-- What is done for a request with the credential of its area. -/
structure Reaches (s : Server B) (fresh : String) (r : Http.Request) : Prop where
  services : Under servicesRoot r.path → Keyed s.configuration r →
    s.Replies fresh r (Http.answerOf r.endpoint? (·.forServices s.now r))
  users : ∀ user, ForUsers r → Bears s.configuration s.now r user →
    s.Replies fresh r (Http.answerOf r.endpoint? (·.forUser s.configuration.message s.now user r))

/-- **A request with the credential of its area reaches the endpoint that it names**, as the
user of its token. -/
theorem reaches (s : Server B) (fresh : String) (r : Http.Request) : s.Reaches fresh r where
  services hunder hkey := by
    have harea := areaOf_services_iff.mpr hunder
    refine replies_of_passing ?_
    rw [Http.serve_keyed harea hkey, Http.Request.endpoint?, harea]
  users user hunder htoken := by
    have harea := areaOf_users_iff.mpr hunder
    refine replies_of_passing ?_
    rw [Http.serve_bearing harea htoken, Http.Request.endpoint?, harea]

theorem serve_writtenBy {s : Server Backend.memory} (hunder : ForUsers r)
    (htoken : Bears s.configuration s.now r user) :
    Store.WrittenBy user s.archive (s.serve fresh r).2.archive := by
  let I (s' : Server Backend.memory) : Prop := Store.WrittenBy user s.archive s'.archive
  have hstep : ∀ (q : Ask) (s' : Server Backend.memory), ActsAs user (fun _ _ => True) q → I s' →
      True ∧ I (answer q s').2 := by
    intro q s' hq hwritten
    refine ⟨trivial, ?_⟩
    cases q with
    | archive q =>
      refine hwritten.trans (Store.answer_writtenBy ?_)
      rintro draft rfl
      exact hq
    | _ => exact hwritten
  have hstart : I s := Store.WrittenBy.refl s.archive
  have hrun : I (s.run (Http.serve s.configuration s.now fresh r)).2 :=
    (Program.run_obeys (A := fun _ _ => True) (I := I) hstep
      (Http.serve_acts (areaOf_users_iff.mpr hunder) htoken) hstart).2
  rw [serve_snd_archive]
  exact hrun

/-- Whether requests of users store messages of the user of their token only. -/
def StoresAs (s : Server Backend.memory) (fresh : String) (r : Http.Request) : Prop :=
  ∀ user, ForUsers r → Bears s.configuration s.now r user →
    Store.WrittenBy user s.archive (s.serve fresh r).2.archive

/-- **Access is controlled.** Internal requests need the configured key, and
requests of users a token; what has neither is refused and changes nothing. The
credential of the other area does not count. A request of users acts as the user of
its token, in whose name alone messages are stored. A session is opened for the user
whom the token of a request for a socket names. -/
theorem access_controlled :
    (∀ {B : Backend} (s : Server B) (fresh : String) (r : Http.Request), s.Controlled fresh r) ∧
    ∀ (s : Server Backend.memory) (fresh : String) (r : Http.Request), s.StoresAs fresh r :=
  ⟨controlled, fun _ _ _ _ => serve_writtenBy⟩

end Server

end Parley
