/-
By what right a call tells somebody something.

`Call.Offers` lists what a call may offer. `Call.Grounded` lists what it was
answered before it does so: a retirement was applied before its notice, to a
message in which the operator was seen to take part; a row was found before an
event is passed on; and an offer was taken before a delivery is noted
(`Call.grounded`). A call offers at most once (`Call.offers_once`).
-/
import Parley.Proofs.Conflict
import Parley.Proofs.Delivery

namespace Parley

open Surroundings (Ask signature)

/-- The notice of a retirement that was applied, for the other participant of
the message. The message was seen before, and stood the check. -/
def Notified (A : (q : Ask) → signature.Reply q → Prop) (id : Int) (target : Status) (news : News)
    (check : Message → Prop) (actor : Message → UserId) (user : UserId) (frame : String) : Prop :=
  ∃ seen m, Seen A id seen ∧ check seen ∧ A (.archive (.retire id seen.status target)) (.ok (.applied m)) ∧
    user = m.counterpart (actor m) ∧ frame = m.frameOf (actor m) news

/-- What a call was answered before it asks a question. -/
def Call.Grounded (A : (q : Ask) → signature.Reply q → Prop) : Call → Ask → Prop
  | .send _, .archive (.transition id _ _) => ∃ draft m,
    A (.archive (.store draft)) (.ok m) ∧ A (.offer m.recipient m.newFrame) true ∧ id = m.id
  | .recallMessage operator id, .offer user frame =>
    Notified A id .recalled .recalled (·.sender = operator) Message.sender user frame
  | .deleteMessage operator id, .offer user frame =>
    Notified A id .deleted .deleted (·.isParticipant operator) (fun _ => operator) user frame
  | .relay user target _, .offer _ _ =>
    user ≠ target ∧ ∃ row, A (.archive (.row user target)) (.ok (some row))
  | _, _ => True

namespace Messaging

open Parley.Action (obeys_pure obeys_ofExcept obeys_bind obeys_query asksAtMost_bind)

variable {P : Ask → Prop} {A : (q : Ask) → signature.Reply q → Prop} {id : Int} {user : UserId}
  {m : Message} {check : Message → Action Unit} {target : Status} {C : Message → Prop}

/-! ## Retiring -/

/-- The rule for looking a message up, retiring it and what follows: `K` holds
of the message as it was seen, `C` of one that stands the check. -/
theorem retirement_rule {α : Type} {next : Message → Action α} {n : Nat} {K : Message → Prop}
    (hfind : P (.archive (.find id)))
    (hcheck : ∀ m, (check m).run.Obeys P A fun x => x = .ok () → C m)
    (found : ∀ m, A (.archive (.find id)) (.ok (some m)) → K m)
    (stale : ∀ m m', K m → A (.archive (.retire m.id m.status target)) (.ok (.stale m')) → K m')
    (hretire : ∀ m, K m → C m → P (.archive (.retire m.id m.status target)))
    (hnext : ∀ seen m, K seen → C seen →
      A (.archive (.retire seen.id seen.status target)) (.ok (.applied m)) →
        (next m).run.Obeys P A fun _ => True) :
    (existing id >>= fun m => retireChecked check target n m >>= next).run.Obeys P A fun _ => True := by
  refine obeys_bind (existing_obeys hfind) (fun m hm => ?_) fun _ _ => trivial
  have hrounds : (retireChecked check target n m).run.Obeys P A fun x => ∀ m', x = .ok m' →
      ∃ seen, K seen ∧ C seen ∧ A (.archive (.retire seen.id seen.status target)) (.ok (.applied m')) := by
    refine retireChecked_rule (K := fun _ => K) (C := C) ?_ ?_ (fun _ => stale)
      (fun _ _ _ _ _ => nofun) (fun _ _ _ _ _ _ => nofun) (fun _ _ _ => nofun) n m (found m (hm m rfl))
    · intro n m hseen
      exact (hcheck m).imp fun x hx =>
        ⟨fun ok => ⟨hx ok, hretire m hseen (hx ok)⟩, fun _ _ _ => nofun⟩
    · rintro n m m' hseen hpassed happlied m'' ⟨⟩
      exact ⟨m, hseen, hpassed, happlied⟩
  refine obeys_bind hrounds (fun m' hm' => ?_) fun _ _ => trivial
  obtain ⟨seen, hseen, hpassed, happlied⟩ := hm' m' rfl
  exact hnext seen m' hseen hpassed happlied

theorem retirement_seen {α : Type} {next : Message → Action α} {n : Nat} (hA : ∀ q r, A q r → Truthful q r)
    (hfind : P (.archive (.find id))) (hretire : ∀ old, P (.archive (.retire id old target)))
    (hcheck : ∀ m, (check m).run.Obeys P A fun x => x = .ok () → C m)
    (hnext : ∀ seen m, Seen A id seen → C seen →
      A (.archive (.retire id seen.status target)) (.ok (.applied m)) → (next m).run.Obeys P A fun _ => True) :
    (existing id >>= fun m => retireChecked check target n m >>= next).run.Obeys P A fun _ => True := by
  refine retirement_rule (K := fun m => m.id = id ∧ Seen A id m) hfind hcheck ?_ ?_ ?_ ?_
  · exact fun m hm => ⟨hA _ _ hm, .inl hm⟩
  · rintro m m' ⟨rfl, -⟩ hstale
    exact ⟨(hA _ _ hstale).1, .inr ⟨_, _, hstale⟩⟩
  · rintro m ⟨rfl, -⟩ -
    exact hretire _
  · rintro seen m ⟨rfl, hseen⟩ hpassed happlied
    exact hnext seen m hseen hpassed happlied

theorem checkRecall_sender {window : Milliseconds} (h : checkRecall window user m = .ok ()) :
    m.sender = user := by
  unfold checkRecall at h
  split at h
  · cases h
  · next hsender => exact Decidable.not_not.mp hsender

theorem checkDelete_participant (h : checkDelete user m = .ok ()) : m.isParticipant user = true := by
  unfold checkDelete at h
  split at h
  · cases h
  · next hparticipant => simpa using hparticipant

theorem recallCheck_passes {settings : MessageSettings} (h : P .time) :
    (recallCheck settings user m).run.Obeys P A fun x => x = .ok () → m.sender = user := by
  refine obeys_bind (obeys_ofExcept (Q := fun x => x = checkRecall settings.recallWindow user m) rfl)
    (fun _ hc => ?_) fun _ _ => nofun
  exact obeys_query h fun now _ => obeys_ofExcept fun _ => checkRecall_sender hc.symm

end Messaging

/-! ## The calls -/

section

open Messaging

open Parley.Action (obeys_pure obeys_ofExcept obeys_query)

variable {A : (q : Ask) → signature.Reply q → Prop}

/-- **Calls tell only what they were answered**, however that is. -/
theorem Call.grounded (hA : ∀ q r, A q r → Truthful q r) (settings : MessageSettings) (c : Call) :
    (c.action settings).run.Obeys (c.Grounded A) A fun _ => True := by
  cases c with
  | send request =>
    exact send_rule (fun _ _ => trivial) (fun _ _ => trivial) (fun _ _ _ => trivial)
      fun draft m hstored htaken => ⟨draft, m, hstored, htaken, rfl⟩
  | history viewer conversation before limit => exact history_obeys fun _ _ => trivial
  | conversations user page limit => exact Inbox.conversations_obeys (fun _ _ => trivial) fun _ => trivial
  | markRead reader conversation upTo => exact markRead_obeys trivial
  | recallMessage user id =>
    refine retirement_seen hA trivial (fun _ => trivial) (fun m => recallCheck_passes trivial)
      fun seen m hseen hsender happlied => ?_
    exact obeys_query ⟨seen, m, hseen, hsender, happlied, rfl, rfl⟩ fun _ _ => obeys_pure trivial
  | deleteMessage user id =>
    refine retirement_seen hA trivial (fun _ => trivial) (fun m => obeys_ofExcept checkDelete_participant)
      fun seen m hseen hparticipant happlied => ?_
    exact obeys_query ⟨seen, m, hseen, hparticipant, happlied, rfl, rfl⟩ fun _ _ => obeys_pure trivial
  | unread user conversation => exact unread_obeys fun _ => trivial
  | sharesConversation user peer => exact sharesConversation_obeys trivial
  | push request => exact push_obeys trivial
  | relay user target event => exact relay_obeys trivial fun hne row hrow => ⟨hne, row, hrow⟩

end

section

open Messaging

open Parley.Action (asksAtMost_bind)

theorem Messaging.retirement_offers_once {α : Type} {check : Message → Action Unit} {target : Status} {id : Int}
    {n : Nat} {next : Message → Action α}
    (hcheck : ∀ m, (check m).run.Obeys (fun q : Ask => q.isOffer = false) (fun _ _ => True) fun _ => True)
    (hnext : ∀ m, (next m).run.AsksAtMost Ask.isOffer 1) :
    (existing id >>= fun m => retireChecked check target n m >>= next).run.AsksAtMost Ask.isOffer 1 := by
  have hfind : (existing id).run.AsksAtMost Ask.isOffer 0 :=
    (existing_obeys (P := fun q => q.isOffer = false) rfl).asksAtMost
  have hrounds (m : Message) : (retireChecked check target n m).run.AsksAtMost Ask.isOffer 0 :=
    (retireChecked_asks (fun _ _ => rfl) hcheck n m).asksAtMost
  exact (asksAtMost_bind hfind fun m => asksAtMost_bind (hrounds m) hnext).mono (by omega)

theorem Messaging.notify_offers_once {m : Message} {actor : UserId} {kind : String} :
    (notify m actor kind).run.AsksAtMost Ask.isOffer 1 := .ask fun _ => .done

theorem Call.offers_once (settings : MessageSettings) (c : Call) :
    (c.action settings).run.AsksAtMost Ask.isOffer 1 := by
  have none_of {α : Type} {p : Program signature α} {Q : α → Prop}
      (h : p.Obeys (fun q : Ask => q.isOffer = false) (fun _ _ => True) Q) : p.AsksAtMost Ask.isOffer 1 :=
    h.asksAtMost.mono (Nat.zero_le 1)
  cases c with
  | send request => exact send_offers_once settings request
  | history viewer conversation before limit => exact none_of (history_obeys fun _ _ => rfl)
  | conversations user page limit => exact none_of (Inbox.conversations_obeys (fun _ _ => rfl) fun _ => rfl)
  | markRead reader conversation upTo => exact none_of (markRead_obeys rfl)
  | recallMessage user id =>
    refine retirement_offers_once (fun m => ?_) fun m =>
      asksAtMost_bind (n := 0) notify_offers_once fun _ => .done
    exact (recallCheck_obeys (P := fun q : Ask => q.isOffer = false) rfl).imp fun _ _ => trivial
  | deleteMessage user id =>
    exact retirement_offers_once (fun m => Action.obeys_ofExcept trivial) fun m => notify_offers_once
  | unread user conversation => exact none_of (unread_obeys fun _ => rfl)
  | sharesConversation user peer => exact none_of (sharesConversation_obeys rfl)
  | push request =>
    change (Parley.push request).run.AsksAtMost Ask.isOffer 1
    unfold Parley.push
    split
    · exact .done
    split
    · exact .done
    · exact .ask fun _ => .done
  | relay user target event =>
    have hshares : (Messaging.sharesConversation user target).run.AsksAtMost Ask.isOffer 0 :=
      (sharesConversation_obeys (P := fun q => q.isOffer = false) rfl).asksAtMost
    refine (asksAtMost_bind (m := 0) (n := 1) hshares fun shared => ?_).mono (by omega)
    cases shared with
    | false => exact .done
    | true => exact .ask fun _ => .done

end
end Parley
