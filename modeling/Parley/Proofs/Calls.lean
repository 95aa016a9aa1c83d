/-
The calls of the service, and how each conducts itself.

`Call.MayAsk` lists what a call may ask of the archive; what it asks
elsewhere is not listed. `Call.obeys` says that no call asks for
more, however it is answered, and that recalling and deleting succeed only
after a retirement of their own message was applied.
-/
import Parley.Inbox
import Parley.Proofs.Conduct
import Parley.Push
import Parley.Socket

namespace Parley

/-- What the service can be asked to do. -/
inductive Call where
  | send (request : SendRequest)
  | history (viewer : UserId) (conversation : String) (before limit : Option Int)
  | conversations (user : UserId) (page limit : Option Int)
  | markRead (reader : UserId) (conversation : String) (upTo : Option Int)
  | recallMessage (user : UserId) (id : Int)
  | deleteMessage (user : UserId) (id : Int)
  | unread (user : UserId) (conversation : Option String)
  | sharesConversation (user peer : UserId)
  | push (request : PushRequest)
  /-- Passing on an event from the socket of a user. -/
  | relay (user target : UserId) (event : Envelope)

namespace Call

/-- What a call is answered with when it succeeds. -/
def Answer : Call → Type
  | send _ => Message
  | history _ _ _ _ => HistoryPage
  | conversations _ _ _ => ConversationPage
  | markRead _ _ _ => Nat
  | recallMessage _ _ => Message
  | deleteMessage _ _ => Unit
  | unread _ _ => Int
  | sharesConversation _ _ => Bool
  | push _ => Bool
  | relay _ _ _ => Bool

/-- The program of a call. -/
def action (settings : MessageSettings) : (c : Call) → Action c.Answer
  | send request => Messaging.send settings request
  | history viewer conversation before limit => Messaging.history viewer conversation before limit
  | conversations user page limit => Inbox.conversations user page limit
  | markRead reader conversation upTo => Messaging.markRead reader conversation upTo
  | recallMessage user id => Messaging.recallMessage settings user id
  | deleteMessage user id => Messaging.deleteMessage user id
  | unread user conversation => Messaging.unread user conversation
  | sharesConversation user peer => Messaging.sharesConversation user peer
  | push request => Parley.push request
  | relay user target event => Parley.relay user target event

end Call

/-- What a call may ask of its surroundings. -/
def Call.MayAsk (settings : MessageSettings) : Call → Surroundings.Ask → Prop
  | .send request, .archive (.store draft) => request.check settings = .ok draft
  | .send _, .archive (.transition _ old new) => old = .sent ∧ new = .delivered
  | .history _ conversation _ _, .archive (.history conversation' _ _) =>
    conversation' = conversation
  | .conversations user _ _, .archive (.rows user' _ _) => user' = user
  | .markRead reader conversation upTo, .archive (.markRead reader' conversation' upTo') =>
    reader' = reader ∧ conversation' = conversation ∧ upTo' = Messaging.positive? upTo
  | .recallMessage _ id, .archive (.find id') => id' = id
  | .recallMessage _ id, .archive (.retire id' old new) =>
    id' = id ∧ new = .recalled ∧ old.canBecome .recalled
  | .deleteMessage _ id, .archive (.find id') => id' = id
  | .deleteMessage _ id, .archive (.retire id' old new) =>
    id' = id ∧ new = .deleted ∧ old.canBecome .deleted
  | .unread user _, .archive (.unread user' _) => user' = user
  | .sharesConversation user peer, .archive (.row user' peer') => user' = user ∧ peer' = peer
  | .relay user target _, .archive (.row user' peer') => user' = user ∧ peer' = target
  | _, .archive _ => False
  | _, _ => True

/-- What the archive in memory says of the message that a question names. -/
def Truthful : (q : Surroundings.Ask) → Surroundings.signature.Reply q → Prop
  | .archive (.find id), .ok (some m) => m.id = id
  | .archive (.retire id _ target), .ok (.applied m) => m.id = id ∧ m.status = target
  | .archive (.retire id expected _), .ok (.stale m) => m.id = id ∧ m.status ≠ expected
  | _, _ => True

/-- What the success of a call tells: a recall or a deletion was answered
that a retirement of its message was applied. -/
def Call.Ends (A : (q : Surroundings.Ask) → Surroundings.signature.Reply q → Prop) :
    (c : Call) → Except Failure c.Answer → Prop
  | .recallMessage _ id, .ok _ => ∃ old m, A (.archive (.retire id old .recalled)) (.ok (.applied m))
  | .deleteMessage _ id, .ok _ => ∃ old m, A (.archive (.retire id old .deleted)) (.ok (.applied m))
  | _, _ => True

namespace Messaging

open Parley.Action (obeys_pure obeys_throw obeys_ofExcept obeys_bind obeys_query obeys_archive)

variable {P : Surroundings.Ask → Prop}
  {A : (q : Surroundings.Ask) → Surroundings.signature.Reply q → Prop}

/-! ## Sending -/

theorem storeRetrying_obeys {draft : Draft} (h : P (.archive (.store draft))) :
    ∀ n, (storeRetrying draft n).run.Obeys P A fun x =>
      ∀ m, x = .ok m → A (.archive (.store draft)) (.ok m)
  | 0 => by
    refine ⟨h, fun r hr => ?_⟩
    rintro m rfl
    exact hr
  | n + 1 => by
    refine obeys_query h fun r hr => ?_
    cases r with
    | ok m =>
      refine obeys_pure fun m' hm => ?_
      cases hm
      exact hr
    | error f =>
      simp only
      split
      · exact storeRetrying_obeys h n
      · refine obeys_throw fun m hm => ?_
        cases hm

theorem deliver_obeys {m : Message}
    (hoffer : P (.offer m.recipient (Envelope.mk EventKind.newMessage m.toJson).frame))
    (htransition : A (.offer m.recipient (Envelope.mk EventKind.newMessage m.toJson).frame) true →
      P (.archive (.transition m.id .sent .delivered))) :
    (deliver m).run.Obeys P A fun _ => True := by
  refine obeys_query hoffer fun taken htaken => ?_
  cases taken with
  | false => exact obeys_pure trivial
  | true =>
    refine obeys_query (htransition htaken) fun r _ => ?_
    cases r with
    | error e => exact obeys_pure trivial
    | ok moved => cases moved <;> exact obeys_pure trivial

/-- The rule for a send: each question may use the answers before it. -/
theorem send_rule {settings : MessageSettings} {request : SendRequest}
    (friends : ∀ draft, request.check settings = .ok draft →
      P (.areFriends draft.sender draft.recipient))
    (store : ∀ draft, request.check settings = .ok draft → P (.archive (.store draft)))
    (offer : ∀ draft m, A (.archive (.store draft)) (.ok m) →
      P (.offer m.recipient (Envelope.mk EventKind.newMessage m.toJson).frame))
    (transition : ∀ draft m, A (.archive (.store draft)) (.ok m) →
      A (.offer m.recipient (Envelope.mk EventKind.newMessage m.toJson).frame) true →
      P (.archive (.transition m.id .sent .delivered))) :
    (send settings request).run.Obeys P A fun _ => True := by
  refine obeys_bind (obeys_ofExcept (Q := fun x => x = request.check settings) rfl)
    (fun draft hd => ?_) fun _ _ => trivial
  refine obeys_bind (Q := fun _ => True) ⟨friends draft hd.symm, fun _ _ => trivial⟩ (fun friends _ => ?_)
    fun _ _ => trivial
  cases friends with
  | false => exact obeys_throw trivial
  | true =>
    refine obeys_bind (storeRetrying_obeys (store draft hd.symm) _) (fun m hm => ?_) fun _ _ => trivial
    exact deliver_obeys (offer draft m (hm m rfl)) (transition draft m (hm m rfl))

theorem send_obeys (settings : MessageSettings) (request : SendRequest) :
    (send settings request).run.Obeys ((Call.send request).MayAsk settings) A fun _ => True :=
  send_rule (fun _ _ => trivial) (fun _ hd => hd) (fun _ _ _ => trivial) fun _ _ _ _ => ⟨rfl, rfl⟩

/-! ## Recalling and deleting -/

theorem existing_rule {id : Int} {Q : Except Failure Message → Prop} (h : P (.archive (.find id)))
    (found : ∀ m, A (.archive (.find id)) (.ok (some m)) → Q (.ok m))
    (missing : A (.archive (.find id)) (.ok none) → Q (.error .notFound))
    (failed : ∀ e, A (.archive (.find id)) (.error e) → Q (.error e)) :
    (existing id).run.Obeys P A Q := by
  refine ⟨h, fun r hr => ?_⟩
  cases r with
  | error e => exact failed e hr
  | ok m? =>
    cases m? with
    | none => exact missing hr
    | some m => exact found m hr

theorem existing_obeys {id : Int} (h : P (.archive (.find id))) :
    (existing id).run.Obeys P A fun x =>
      ∀ m, x = .ok m → A (.archive (.find id)) (.ok (some m)) := by
  refine existing_rule h (fun m hm m' h => ?_) (fun _ _ => nofun) fun _ _ _ => nofun
  cases h
  exact hm

theorem notify_obeys {m : Message} {actor : UserId} {kind : String}
    (h : ∀ content, P (.offer (m.counterpart actor) (Envelope.mk kind content).frame)) :
    (notify m actor kind).run.Obeys P A fun x => x = .ok () :=
  obeys_query (h _) fun _ _ => obeys_pure rfl

/-- The rule for the rounds of retiring: `K n` holds of the message when `n`
rounds are left, `C` of one that stands the check, and each way out ends as
`Q` says. -/
theorem retireChecked_rule {check : Message → Action Unit} {target : Status}
    {K : Nat → Message → Prop} {C : Message → Prop} {Q : Except Failure Message → Prop}
    (hcheck : ∀ n m, K (n + 1) m → (check m).run.Obeys P A fun x =>
      (x = .ok () → C m ∧ P (.archive (.retire m.id m.status target))) ∧
        ∀ e, x = .error e → Q (.error e))
    (applied : ∀ n m m', K (n + 1) m → C m →
      A (.archive (.retire m.id m.status target)) (.ok (.applied m')) → Q (.ok m'))
    (stale : ∀ n m m', K (n + 1) m →
      A (.archive (.retire m.id m.status target)) (.ok (.stale m')) → K n m')
    (missing : ∀ n m, K (n + 1) m →
      A (.archive (.retire m.id m.status target)) (.ok .missing) → Q (.error .notFound))
    (failed : ∀ n m e, K (n + 1) m →
      A (.archive (.retire m.id m.status target)) (.error e) → Q (.error e))
    (exhausted : ∀ m, K 0 m → Q (.error (.statusConflict m.status))) :
    ∀ n m, K n m → (retireChecked check target n m).run.Obeys P A Q
  | 0, m, hm => obeys_throw (exhausted m hm)
  | n + 1, m, hm => by
    refine obeys_bind (hcheck n m hm) (fun _ hx => ?_) fun e hx => hx.2 e rfl
    obtain ⟨hpassed, hask⟩ := hx.1 rfl
    refine ⟨hask, fun r hr => ?_⟩
    cases r with
    | error e => exact failed n m e hm hr
    | ok retirement =>
      cases retirement with
      | applied m' => exact applied n m m' hm hpassed hr
      | stale m' =>
        exact retireChecked_rule hcheck applied stale missing failed exhausted n m' (stale n m m' hm hr)
      | missing => exact missing n m hm hr

theorem retireChecked_asks {check : Message → Action Unit} {target : Status}
    (hretire : ∀ id old, P (.archive (.retire id old target)))
    (hcheck : ∀ m, (check m).run.Obeys P A fun _ => True) (n : Nat) (m : Message) :
    (retireChecked check target n m).run.Obeys P A fun _ => True := by
  refine retireChecked_rule (K := fun _ _ => True) (C := fun _ => True) (fun _ m _ => ?_)
    (fun _ _ _ _ _ _ => trivial) (fun _ _ _ _ _ => trivial) (fun _ _ _ _ => trivial)
    (fun _ _ _ _ _ => trivial) (fun _ _ => trivial) n m trivial
  exact (hcheck m).imp fun _ _ =>
    ⟨fun _ => ⟨trivial, hretire _ _⟩, fun _ _ => trivial⟩

theorem retireChecked_obeys {check : Message → Action Unit} {target : Status} {id : Int}
    (hA : ∀ q r, A q r → Truthful q r)
    (hcheck : ∀ m, m.id = id → (check m).run.Obeys P A fun x =>
      x = .ok () → P (.archive (.retire id m.status target))) :
    ∀ n m, m.id = id → (retireChecked check target n m).run.Obeys P A fun x =>
      ∀ m', x = .ok m' → ∃ old, A (.archive (.retire id old target)) (.ok (.applied m')) := by
  refine retireChecked_rule (K := fun _ m => m.id = id) (C := fun _ => True) (fun n m hm => ?_)
    (fun n m m' hm _ hr => ?_) (fun n m m' hm hr => ?_) (fun _ _ _ _ _ => nofun)
    (fun _ _ _ _ _ _ => nofun) fun _ _ _ => nofun
  · refine (hcheck m hm).imp fun x hx => ⟨?_, fun _ _ _ => nofun⟩
    rw [hm]
    exact fun ok => ⟨trivial, hx ok⟩
  · rintro m'' h
    cases h
    exact ⟨m.status, hm ▸ hr⟩
  · exact (hA _ _ hr).1.trans hm

theorem checkRecall_ok {window : Milliseconds} {user : UserId} {m : Message}
    (h : checkRecall window user m = .ok ()) : m.status.canBecome .recalled = true := by
  unfold checkRecall at h
  split at h
  · cases h
  split at h
  · cases h
  next hr =>
  split at h
  · cases h
  next hd =>
  cases hs : m.status <;> simp_all [Status.canBecome]

theorem checkDelete_ok {user : UserId} {m : Message} (h : checkDelete user m = .ok ()) :
    m.status.canBecome .deleted = true := by
  unfold checkDelete at h
  split at h
  · cases h
  split at h
  · cases h
  next hd =>
  cases hs : m.status <;> simp_all [Status.canBecome]

theorem recallCheck_obeys {settings : MessageSettings} {user : UserId} {m : Message}
    (h : P .time) : (recallCheck settings user m).run.Obeys P A fun x =>
      x = .ok () → m.status.canBecome .recalled = true := by
  refine obeys_bind (obeys_ofExcept (Q := fun x => x = checkRecall settings.recallWindow user m) rfl)
    (fun _ hc => ?_) fun _ _ => nofun
  exact obeys_query h fun now _ => obeys_ofExcept fun _ => checkRecall_ok hc.symm

theorem recallMessage_obeys (hA : ∀ q r, A q r → Truthful q r) (settings : MessageSettings)
    (user : UserId) (id : Int) :
    (recallMessage settings user id).run.Obeys ((Call.recallMessage user id).MayAsk settings) A
      ((Call.recallMessage user id).Ends A) := by
  refine obeys_bind (existing_obeys rfl) (fun m hm => ?_) fun _ _ => trivial
  refine obeys_bind (retireChecked_obeys hA (fun m _ => ?_) _ m (hA _ _ (hm m rfl)))
    (fun m' hm' => ?_) fun _ _ => trivial
  · exact (recallCheck_obeys trivial).imp fun x hx ok => ⟨rfl, rfl, hx ok⟩
  · obtain ⟨old, happlied⟩ := hm' m' rfl
    exact obeys_bind (notify_obeys fun _ => trivial)
      (fun _ _ => obeys_pure ⟨old, m', happlied⟩) fun _ _ => trivial

theorem deleteMessage_obeys (hA : ∀ q r, A q r → Truthful q r) (settings : MessageSettings)
    (user : UserId) (id : Int) :
    (deleteMessage user id).run.Obeys ((Call.deleteMessage user id).MayAsk settings) A
      ((Call.deleteMessage user id).Ends A) := by
  refine obeys_bind (existing_obeys rfl) (fun m hm => ?_) fun _ _ => trivial
  refine obeys_bind (retireChecked_obeys hA (fun m _ => ?_) _ m (hA _ _ (hm m rfl)))
    (fun m' hm' => ?_) fun _ _ => trivial
  · exact obeys_ofExcept fun ok => ⟨rfl, rfl, checkDelete_ok ok⟩
  · obtain ⟨old, happlied⟩ := hm' m' rfl
    refine (notify_obeys fun _ => trivial).imp ?_
    rintro _ rfl
    exact ⟨old, m', happlied⟩

/-! ## Reading -/

theorem participating_obeys {conversation : String} {user : UserId} :
    (participating conversation user).run.Obeys P A fun _ => True :=
  obeys_bind (Q := fun _ => True) (obeys_ofExcept trivial) (fun _ _ => obeys_pure trivial)
    fun _ _ => trivial

theorem markRead_obeys {reader : UserId} {conversation : String} {upTo : Option Int}
    (h : P (.archive (.markRead reader conversation (positive? upTo)))) :
    (markRead reader conversation upTo).run.Obeys P A fun _ => True :=
  obeys_bind participating_obeys (fun _ _ => ⟨h, fun _ _ => trivial⟩) fun _ _ => trivial

theorem history_obeys {viewer : UserId} {conversation : String} {before limit : Option Int}
    (h : ∀ before limit, P (.archive (.history conversation before limit))) :
    (history viewer conversation before limit).run.Obeys P A fun _ => True := by
  refine obeys_bind participating_obeys (fun _ _ => ?_) fun _ _ => trivial
  exact obeys_archive (h _ _) (fun _ _ => obeys_pure trivial) fun _ => trivial

theorem unread_obeys {user : UserId} {conversation : Option String}
    (h : ∀ c, P (.archive (.unread user c))) :
    (unread user conversation).run.Obeys P A fun _ => True := by
  unfold unread
  simp only
  split
  · exact obeys_bind participating_obeys (fun _ _ => ⟨h _, fun _ _ => trivial⟩) fun _ _ => trivial
  · exact ⟨h _, fun _ _ => trivial⟩

theorem sharesConversation_rule {user peer : UserId} (h : P (.archive (.row user peer))) :
    (sharesConversation user peer).run.Obeys P A fun x => x = .ok true →
      user ≠ peer ∧ ∃ row, A (.archive (.row user peer)) (.ok (some row)) := by
  unfold sharesConversation
  split
  · exact obeys_pure nofun
  · next hnot =>
    refine obeys_archive h (fun row hrow => obeys_pure fun hshared => ?_) fun _ => nofun
    cases row with
    | none => cases hshared
    | some row => exact ⟨fun he => hnot (.inr (.inr he)), row, hrow⟩

theorem sharesConversation_obeys {user peer : UserId} (h : P (.archive (.row user peer))) :
    (sharesConversation user peer).run.Obeys P A fun _ => True :=
  (sharesConversation_rule h).imp fun _ _ => trivial

end Messaging

open Parley.Action (obeys_pure obeys_throw obeys_bind obeys_query obeys_archive)

variable {P : Surroundings.Ask → Prop}
  {A : (q : Surroundings.Ask) → Surroundings.signature.Reply q → Prop}

theorem Inbox.views_obeys (h : ∀ user, P (.profile user)) :
    ∀ rows, (Inbox.views rows).run.Obeys P A fun _ => True
  | [] => obeys_pure trivial
  | row :: rows => by
    refine obeys_query (h _) fun profile _ => ?_
    refine obeys_bind (views_obeys h rows) (fun rest _ => ?_) fun _ _ => trivial
    cases profile <;> exact obeys_pure trivial

theorem Inbox.conversations_obeys {user : UserId} {page limit : Option Int}
    (hrows : ∀ offset limit, P (.archive (.rows user offset limit)))
    (hprofile : ∀ user, P (.profile user)) :
    (Inbox.conversations user page limit).run.Obeys P A fun _ => True := by
  refine obeys_archive (hrows _ _) (fun found _ => ?_) fun _ => trivial
  exact obeys_bind (Inbox.views_obeys hprofile _) (fun _ _ => obeys_pure trivial) fun _ _ => trivial

theorem push_obeys {request : PushRequest}
    (h : P (.offer request.user (Envelope.mk request.kind request.content).frame)) :
    (push request).run.Obeys P A fun _ => True := by
  unfold push
  split
  · exact obeys_throw trivial
  split
  · exact obeys_throw trivial
  · exact ⟨h, fun _ _ => trivial⟩

theorem relay_obeys {user target : UserId} {event : Envelope} (hrow : P (.archive (.row user target)))
    (hoffer : user ≠ target → ∀ row, A (.archive (.row user target)) (.ok (some row)) →
      P (.offer target event.frame)) :
    (relay user target event).run.Obeys P A fun _ => True := by
  refine obeys_bind (Messaging.sharesConversation_rule hrow) (fun shared hshared => ?_) fun _ _ => trivial
  cases shared with
  | false => exact obeys_pure trivial
  | true =>
    obtain ⟨hne, row, hfound⟩ := hshared rfl
    exact ⟨hoffer hne row hfound, fun _ _ => trivial⟩

/-! ## Every call -/

/-- **Every call asks for its own changes only**, however it is answered. -/
theorem Call.obeys (hA : ∀ q r, A q r → Truthful q r) (settings : MessageSettings) (c : Call) :
    (c.action settings).run.Obeys (c.MayAsk settings) A (c.Ends A) := by
  cases c with
  | send request => exact Messaging.send_obeys settings request
  | history viewer conversation before limit => exact Messaging.history_obeys fun _ _ => rfl
  | conversations user page limit => exact Inbox.conversations_obeys (fun _ _ => rfl) fun _ => trivial
  | markRead reader conversation upTo => exact Messaging.markRead_obeys ⟨rfl, rfl, rfl⟩
  | recallMessage user id => exact Messaging.recallMessage_obeys hA settings user id
  | deleteMessage user id => exact Messaging.deleteMessage_obeys hA settings user id
  | unread user conversation => exact Messaging.unread_obeys fun _ => rfl
  | sharesConversation user peer => exact Messaging.sharesConversation_obeys ⟨rfl, rfl⟩
  | push request => exact push_obeys trivial
  | relay user target event => exact relay_obeys ⟨rfl, rfl⟩ fun _ _ _ => trivial

end Parley
