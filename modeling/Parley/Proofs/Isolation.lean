/-
Pairs of users are isolated from each other.

All pairs share the lists of the archive and are told apart by texts. A call
about one pair leaves the rest of each list as it is, element by element
(`Store.Beyond`): a change of messages moves those of one conversation, and a
change of rows those whose key or conversation is of the pair. A call knows the
messages that it moves by their ids alone. That an id is one of the pair follows
from the rest being as it was (`Store.Beyond.own`), so nothing is said of the
steps before.
-/
import Parley.Proofs.Concern
import Parley.Proofs.Retirement
import Parley.Proofs.Sending
import Parley.Proofs.Spelling
import Parley.Proofs.Structure

namespace Parley

open Time (Instant)

/-- Whether two users are those of a pair, in either order. -/
def Pair.Same (a b x y : UserId) : Prop := x = a ∧ y = b ∨ x = b ∧ y = a

instance (a b x y : UserId) : Decidable (Pair.Same a b x y) := inferInstanceAs (Decidable (_ ∨ _))

theorem Pair.same_iff {a b x y : UserId} : Pair.Same a b x y ↔ Pair.id x y = Pair.id a b :=
  Pair.id_eq_id_iff.symm

theorem Pair.counterpart?_same {c : String} {user other : UserId} (h : Pair.counterpart? c user = some other) :
    ∃ low high, Pair.ofId? c = some (low, high) ∧ Pair.id user other = Pair.id low high := by
  obtain ⟨low, high, hread, huser⟩ := Pair.counterpart?_eq_some_iff.mp h
  refine ⟨low, high, hread, ?_⟩
  rw [Pair.id_eq_id_iff]
  omega

namespace Store

variable {s s' s'' : Store} {c : String}

/-- Archives that agree beyond one conversation, in storing order. -/
structure Beyond (c : String) (s s' : Store) : Prop where
  messages : (s'.messages.filter fun m => m.conversation != c) = s.messages.filter fun m => m.conversation != c
  rows : (s'.rows.filter fun r => r.conversation != c) = s.rows.filter fun r => r.conversation != c
  counters : ∀ c', c' ≠ c → s'.counter c' = s.counter c'

namespace Beyond

theorem refl (c : String) (s : Store) : Beyond c s s := ⟨rfl, rfl, fun _ _ => rfl⟩

theorem trans (h : Beyond c s s') (h' : Beyond c s' s'') : Beyond c s s'' :=
  ⟨h'.messages.trans h.messages, h'.rows.trans h.rows, fun c' hc => (h'.counters c' hc).trans (h.counters c' hc)⟩

theorem moveWhere {p : Message → Bool} (hp : ∀ m ∈ s.messages, p m = true → m.conversation = c) (new : Status)
    (now : Instant) : Beyond c s (s.moveWhere p new now) where
  messages := by
    simp only [Store.moveWhere, List.filter_map, Function.comp_def, Message.moveIf_conversation]
    refine Message.map_moveIf_of_neg fun m hm => Bool.eq_false_iff.mpr fun hmoved => ?_
    obtain ⟨hm, hc⟩ := List.mem_filter.mp hm
    exact bne_iff_ne.mp hc (hp m hm hmoved)
  rows := rfl
  counters _ _ := rfl

theorem mapRows {f : Conversation → Conversation} (hf : KeepsOwner f)
    (hrows : ∀ r ∈ s.rows, r.conversation ≠ c → f r = r) : Beyond c s { s with rows := s.rows.map f } where
  messages := rfl
  rows := by
    simp only [List.filter_map, Function.comp_def, hf.conversation]
    refine (List.map_congr_left fun r hr => ?_).trans (List.map_id' _)
    obtain ⟨hr, hc⟩ := List.mem_filter.mp hr
    exact hrows r hr (bne_iff_ne.mp hc)
  counters _ _ := rfl

theorem updateRow (h : s.Sound) {f : Conversation → Conversation} (hf : KeepsOwner f) {owner peer : UserId}
    (hc : Pair.id owner peer = c) : Beyond c s (s.updateRow (Pair.ownerKey owner peer) f) := by
  refine mapRows (hf.ite fun r => r.ownerKey == Pair.ownerKey owner peer) fun r hr hne => if_neg fun hk => hne ?_
  obtain ⟨ho, hp⟩ := h.owner_peer hr (beq_iff_eq.mp hk)
  rw [(h.owned r hr).2, ho, hp, hc]

theorem recountUnread (h : s.Sound) {owner peer : UserId} (hc : Pair.id owner peer = c) (conversation : String) :
    Beyond c s (s.recountUnread conversation owner peer) :=
  updateRow h (KeepsOwner.unread _) hc

theorem repointRows (c : String) (s : Store) (retired : Int) : Beyond c s (s.repointRows c retired) := by
  refine mapRows ((KeepsOwner.pointAt _).ite fun r => r.conversation == c && r.lastId == some retired)
    fun r _ hne => if_neg fun hrow => hne ?_
  rw [Bool.and_eq_true, beq_iff_eq] at hrow
  exact hrow.1

theorem ensureRow (s : Store) (owner peer : UserId) (c : String) (now : Instant) :
    Beyond c s (s.ensureRow owner peer c now) := by
  rcases ensureRow_cases s owner peer c now with ⟨-, he⟩ | ⟨-, he⟩ <;> rw [he]
  · exact refl c s
  · refine ⟨rfl, ?_, fun _ _ => rfl⟩
    simp [List.filter_append, newRow]

theorem add (h : s.Sound) (draft : Draft) (now : Instant) : Beyond draft.conversation s (s.add draft now).2 := by
  have hrows := (h.withRows draft now).1
  have hmade : Beyond draft.conversation s (s.withRows draft now) :=
    (ensureRow s _ _ _ now).trans (ensureRow _ _ _ _ now)
  have hshown := mapRows (afterStoring_keepsOwner (s.messageOf draft now)) fun r hr hne =>
    ((hrows.afterStoring_cases hr (m := s.messageOf draft now) rfl).resolve_left fun hc => hne hc.1).2
  rw [add_eq]
  refine ⟨?_, (hmade.trans hshown).rows, fun c' hc' => ?_⟩
  · simp [List.filter_append, messageOf]
  · exact (counter_bump s draft.conversation c').trans (by rw [if_neg (Ne.symm hc'), Int.add_zero])

theorem retired (h : s.Sound) {m : Message} (hm : m ∈ s.messages) (target : Status) (now : Instant) :
    Beyond m.conversation s (s.retired m target now) := by
  have hmoved : Beyond m.conversation s (s.moveWhere (·.id == m.id) target now) :=
    moveWhere (fun n hn hid => by rw [h.eq_of_beq hm hn hid]) target now
  have hpointed := hmoved.trans (repointRows m.conversation _ m.id)
  unfold Store.retired
  simp only
  split
  · have hname : Pair.id m.recipient m.sender = m.conversation := (Pair.id_comm _ _).trans (h.named m hm).symm
    exact hpointed.trans (recountUnread ((h.moveWhere _ _ _).repointRows _ _) hname _)
  · exact hpointed

theorem marked (h : s.Sound) {reader peer : UserId} {c : String} (hp : Pair.counterpart? c reader = some peer)
    (upTo : Option Int) (now : Instant) :
    Beyond (Pair.id reader peer) s (s.marked reader peer c upTo now) := by
  obtain ⟨low, high, hread, hsame⟩ := Pair.counterpart?_same hp
  refine (moveWhere (fun m hm hreached => ?_) .read now).trans (recountUnread (h.moveWhere _ _ _) rfl _)
  have hc := (reachedBy_iff.mp hreached).1
  -- No message is of another spelling of the id, so a mark by it moves none.
  by_cases hspelled : c = Pair.id low high
  · rw [hc, hspelled, hsame]
  · exact absurd hc ((h.not_spelled hread hspelled).1 m hm)

theorem own (h : Beyond c s s') {id : Int} (hid : ∀ m ∈ s.messages, m.id = id → m.conversation = c) :
    ∀ m ∈ s'.messages, m.id = id → m.conversation = c := by
  intro m hm he
  by_contra hne
  have hkept : m ∈ s'.messages.filter fun m => m.conversation != c := List.mem_filter.mpr ⟨hm, bne_iff_ne.mpr hne⟩
  rw [h.messages] at hkept
  exact hne (hid m (List.mem_filter.mp hkept).1 he)

end Beyond

/-- Whether a question can move only what is of a conversation, in archives that
agree with one beyond it. -/
def Within (s : Store) (c : String) : Archive.Ask → Prop
  | .store draft => draft.conversation = c
  | .transition id old new => old = .sent ∧ new = .delivered ∧ ∀ m ∈ s.messages, m.id = id → m.conversation = c
  | .retire id old new => Lawful (.retire id old new) ∧ ∀ m ∈ s.messages, m.id = id → m.conversation = c
  | .markRead reader conversation _ =>
    ∀ peer, Pair.counterpart? conversation reader = some peer → Pair.id reader peer = c
  | _ => True

/-- **An answer leaves all but the conversation as it is.** -/
theorem Beyond.answer (hs : s'.Sound) (h : Beyond c s s') {q : Archive.Ask} (hq : Within s c q) (now : Instant) :
    Beyond c s (Store.answer now q s').2 := by
  refine h.trans ?_
  cases q with
  | store draft =>
    obtain rfl : draft.conversation = c := hq
    exact add hs draft now
  | transition id old new =>
    obtain ⟨rfl, rfl, hid⟩ := hq
    change Beyond c s' (s'.transition id .sent .delivered now).2
    unfold Store.transition
    cases hm : s'.message? id with
    | none => exact refl c s'
    | some m =>
      obtain ⟨hm, rfl⟩ := mem_of_message? hm
      simp only
      split
      · exact moveWhere (fun n hn hmoved => h.own hid n hn (beq_iff_eq.mp hmoved)) .delivered now
      · exact refl c s'
  | retire id old new =>
    change Beyond c s' (s'.retire id old new now).2
    rcases retire_cases hs id old new now with ⟨-, he⟩ | ⟨m, -, -, -, he⟩ | ⟨m, hm, rfl, -, he⟩ <;> rw [he]
    · exact refl c s'
    · exact refl c s'
    · exact h.own hq.2 m hm rfl ▸ retired hs hm new now
  | markRead reader conversation upTo =>
    change Beyond c s' (s'.markRead reader conversation upTo now).2
    cases hp : Pair.counterpart? conversation reader with
    | none =>
      rw [markRead_eq_error hp]
      exact refl c s'
    | some peer =>
      rw [markRead_eq hp]
      exact hq peer hp ▸ marked hs hp upTo now
  | _ => exact refl c s'

theorem Within.lawful {q : Archive.Ask} (hq : Within s c q) : Lawful q := by
  cases q with
  | transition id old new => exact ⟨hq.1, hq.2.1⟩
  | retire id old new => exact hq.1
  | _ => trivial

theorem Beyond.fresh_id (hs : s'.Sound) (h : Beyond c s s') (draft : Draft) (now : Instant) :
    ∀ m ∈ s.messages, m.id = (s'.add draft now).1.id → m.conversation = c := by
  intro m hm hid
  by_contra hne
  have hkept : m ∈ s.messages.filter fun m => m.conversation != c := List.mem_filter.mpr ⟨hm, bne_iff_ne.mpr hne⟩
  rw [← h.messages] at hkept
  have hbelow := hs.below m (List.mem_filter.mp hkept).1
  rw [add_eq] at hid
  simp only [messageOf] at hid
  omega

/-- What does not belong to a pair is the same in two archives. -/
structure Apart (a b : UserId) (s s' : Store) : Prop where
  messages : (s'.messages.filter fun m => ¬Pair.Same a b m.sender m.recipient) =
    s.messages.filter fun m => ¬Pair.Same a b m.sender m.recipient
  rows : (s'.rows.filter fun r => ¬Pair.Same a b r.owner r.peer) =
    s.rows.filter fun r => ¬Pair.Same a b r.owner r.peer
  counters : ∀ x y, ¬Pair.Same a b x y → s'.counter (Pair.id x y) = s.counter (Pair.id x y)

theorem Beyond.apart {a b : UserId} (h : s.Sound) (hs : s'.Sound) (hb : Beyond (Pair.id a b) s s') :
    Apart a b s s' := by
  have hmessages {s : Store} (h : s.Sound) : (s.messages.filter fun m => ¬Pair.Same a b m.sender m.recipient) =
      s.messages.filter fun m => m.conversation != Pair.id a b := by
    refine List.filter_congr fun m hm => ?_
    rw [Bool.eq_iff_iff, decide_eq_true_iff, bne_iff_ne, h.named m hm, Pair.same_iff]
  have hrows {s : Store} (h : s.Sound) : (s.rows.filter fun r => ¬Pair.Same a b r.owner r.peer) =
      s.rows.filter fun r => r.conversation != Pair.id a b := by
    refine List.filter_congr fun r hr => ?_
    rw [Bool.eq_iff_iff, decide_eq_true_iff, bne_iff_ne, (h.owned r hr).2, Pair.same_iff]
  refine ⟨?_, ?_, fun x y hxy => hb.counters _ (mt Pair.same_iff.mpr hxy)⟩
  · rw [hmessages h, hmessages hs, hb.messages]
  · rw [hrows h, hrows hs, hb.rows]

/-! ## What is answered -/

theorem filter_bne_filter {α : Type} {f : α → String} {c : String} {p : α → Bool} (l : List α)
    (hp : ∀ x ∈ l, p x = true → f x ≠ c) : (l.filter fun x => f x != c).filter p = l.filter p := by
  rw [List.filter_filter]
  refine List.filter_congr fun x hx => ?_
  cases hpx : p x with
  | false => rfl
  | true => exact bne_iff_ne.mpr (hp x hx hpx)

theorem Beyond.latest (h : Beyond c s s') {c' : String} (hne : c' ≠ c) : s'.latest c' = s.latest c' := by
  have hlatest (s : Store) : s.latest c' = ((s.messages.filter fun m => m.conversation != c).filter
      fun m => m.conversation == c' && m.status != .deleted).reverse := by
    rw [filter_bne_filter, Store.latest, List.filter_reverse]
    intro m _ hm
    rw [Bool.and_eq_true, beq_iff_eq] at hm
    exact hm.1 ▸ hne
  rw [hlatest, hlatest, h.messages]

theorem Beyond.unread_one (h : Beyond c s s') {c' : String} (hne : c' ≠ c) (user : UserId) :
    s'.unread user (some c') = s.unread user (some c') := by
  have hunread (s : Store) : s.unread user (some c') = (((s.rows.filter fun r => r.conversation != c).filter
      fun r => r.owner == user && r.conversation == c').map (·.unread)).foldr (· + ·) 0 := by
    rw [filter_bne_filter]
    · rfl
    intro r _ hr
    rw [Bool.and_eq_true, beq_iff_eq (b := c')] at hr
    exact hr.2 ▸ hne
  rw [hunread, hunread, h.rows]

theorem Beyond.unread_all {a b : UserId} (hs : s.Sound) (hs' : s'.Sound) (h : Beyond (Pair.id a b) s s')
    {user : UserId} (ha : user ≠ a) (hb : user ≠ b) : s'.unread user none = s.unread user none := by
  have hunread {s : Store} (hs : s.Sound) : s.unread user none =
      (((s.rows.filter fun r => r.conversation != Pair.id a b).filter fun r => r.owner == user).map
        (·.unread)).foldr (· + ·) 0 := by
    rw [filter_bne_filter]
    · simp only [unread, Option.all_none, Bool.and_true]
    intro r hr ho hc
    rw [(hs.owned r hr).2, beq_iff_eq.mp ho, Pair.id_eq_id_iff] at hc
    exact hc.elim (fun h => ha h.1) fun h => hb h.1
  rw [hunread hs, hunread hs', h.rows]

end Store

/-! ## The calls -/

/-- Whether a call is about one pair: it names the users, an id that is read as
them, or messages between them. -/
def Call.About (s : Store) (a b : UserId) : Call → Prop
  | .send request => Pair.Same a b request.sender request.recipient
  | .markRead _ conversation _ => ∀ low high, Pair.ofId? conversation = some (low, high) → Pair.Same a b low high
  | .recallMessage _ id | .deleteMessage _ id => ∀ m ∈ s.messages, m.id = id → m.Between a b
  | _ => False

/-- A stored message has an id that is of no message of another conversation. -/
def Fresh (s : Store) (c : String) : (q : Surroundings.Ask) → Surroundings.signature.Reply q → Prop
  | .archive (.store _), .ok m => ∀ n ∈ s.messages, n.id = m.id → n.conversation = c
  | _, _ => True

/-- A call about a pair asks for what is of its conversation. -/
def AsksWithin (s : Store) (c : String) : Surroundings.Ask → Prop
  | .archive q => Store.Within s c q
  | _ => True

theorem Call.About.within {s : Store} (hs : s.Sound) {a b : UserId} {call : Call} (about : call.About s a b)
    (other : ∀ request, call ≠ .send request) {settings : MessageSettings} {q : Archive.Ask}
    (hq : call.MayAsk settings (.archive q)) : Store.Within s (Pair.id a b) q := by
  cases call with
  | send request => exact absurd rfl (other request)
  | markRead reader conversation upTo =>
    cases q with
    | markRead reader' conversation' upTo' =>
      obtain ⟨rfl, rfl, -⟩ := hq
      intro peer hp
      obtain ⟨low, high, hread, hsame⟩ := Pair.counterpart?_same hp
      rw [hsame, Pair.same_iff.mp (about low high hread)]
    | _ => exact hq.elim
  | recallMessage user id | deleteMessage user id =>
    cases q with
    | find id' => trivial
    | retire id' old new =>
      obtain ⟨rfl, rfl, hbecomes⟩ := hq
      exact ⟨⟨hbecomes, by decide⟩, fun m hm hid => (hs.between_iff hm).mp (about m hm hid)⟩
    | _ => exact hq.elim
  | _ => exact about.elim

/-- **A call about a pair asks for what is of its conversation.** -/
theorem Call.About.obeys {s : Store} (hs : s.Sound) {a b : UserId} {call : Call} (about : call.About s a b)
    (settings : MessageSettings) : (call.action settings).run.Obeys (AsksWithin s (Pair.id a b))
      (fun q r => Truthful q r ∧ Fresh s (Pair.id a b) q r) fun _ => True := by
  by_cases hsend : ∃ request, call = .send request
  · obtain ⟨request, rfl⟩ := hsend
    refine Messaging.send_rule (fun _ _ => trivial) (fun draft hd => ?_) (fun _ _ _ => trivial)
      fun draft m hm _ => ⟨rfl, rfl, hm.2⟩
    obtain ⟨-, hsender, hrecipient, -⟩ := SendRequest.draft_of_check hd
    change Pair.id draft.sender draft.recipient = Pair.id a b
    rw [hsender, hrecipient, Pair.same_iff.mp about]
  · refine (Call.obeys (fun _ _ h => h.1) settings call).mono (fun q hq => ?_) (fun _ _ h => h) fun _ _ => trivial
    cases q with
    | archive q => exact about.within hs (fun request he => hsend ⟨request, he⟩) hq
    | _ => trivial

namespace Server

variable {c : String} {s : Store} {server server' : Server Backend.memory}

theorem answer_beyond {q : Surroundings.Ask} (hq : AsksWithin s c q) (hs : server.store.Sound)
    (h : Store.Beyond c s server.store) :
    (Truthful q (answer q server).1 ∧ Fresh s c q (answer q server).1) ∧
      (answer q server).2.store.Sound ∧ Store.Beyond c s (answer q server).2.store := by
  refine ⟨⟨answer_truthful q server, ?_⟩, ?_⟩
  · cases q with
    | archive q =>
      cases q with
      | store draft => exact h.fresh_id hs draft server.now
      | _ => trivial
    | _ => trivial
  · cases q with
    | archive q =>
      have change : Store.Change (fun _ => True) server.store (Store.answer server.now q server.store).2 :=
        Store.answer_change hs trivial (Store.Within.lawful hq) server.now
      exact ⟨change.sound hs, h.answer hs hq server.now⟩
    | _ => exact ⟨hs, h⟩

theorem run_history_congr {c' : String} (h : server'.store.latest c' = server.store.latest c') (viewer : UserId)
    (before limit : Option Int) : (server'.run (Messaging.history viewer c' before limit).run).1 =
      (server.run (Messaging.history viewer c' before limit).run).1 := by
  have hhistory (before : Option Int) (limit : Int) :
      server'.store.history c' before limit = server.store.history c' before limit := by
    simp only [Store.history, h]
  cases hc : Messaging.counterpart c' viewer with
  | ok other => rw [run_history hc, run_history hc, hhistory]
  | error e =>
    unfold Messaging.history
    simp only [Messaging.participating, hc]
    rfl

theorem run_unread_congr {c' : String} (hne : c' ≠ "") {user : UserId}
    (h : server'.store.unread user (some c') = server.store.unread user (some c')) :
    (server'.run (Messaging.unread user (some c')).run).1 = (server.run (Messaging.unread user (some c')).run).1 := by
  cases hc : Messaging.counterpart c' user with
  | ok other => rw [run_unread_one _ hne hc, run_unread_one _ hne hc, h]
  | error e =>
    have hasked : (some c').filter (fun c => decide (c ≠ "")) = some c' := by simp [hne]
    unfold Messaging.unread
    generalize (some c').filter (fun c => decide (c ≠ "")) = asked at hasked
    subst hasked
    simp only [Messaging.participating, hc]
    rfl

end Server

/-! ## Runs -/

namespace System

variable {settings : MessageSettings} {calls : List Call} {server : Server Backend.memory}
  {t : List Event} {s : System}

theorem Run.fresh_stored (run : Run Server.StoreKept (System.start settings calls server) t s)
    (fresh : server.store = .empty) {i : Nat} {call : Call} {a b : UserId} (hi : calls[i]? = some call)
    (about : call.About s.store a b) {draft : Draft} {m : Message} (he : ⟨i, .archive (.store draft), .ok m⟩ ∈ t) :
    ∀ n ∈ s.store.messages, n.id = m.id → n.conversation = Pair.id a b := by
  obtain ⟨n, hn, hfixed⟩ := run.mem_of_stored fresh he rfl
  obtain ⟨t₁, t₂, s₁, s₂, before, turn, -, -⟩ := run.split he
  obtain ⟨call', next, hcaller, hreply, -⟩ := turn.turn_of
  obtain rfl : call = call' := Option.some.inj (hi.symm.trans (before.call hcaller))
  have hdraft : Pair.id draft.sender draft.recipient = Pair.id a b := by
    have hmay := (before.mayAsk hcaller).2
    cases call with
    | send request =>
      obtain ⟨-, hsender, hrecipient, -⟩ := SendRequest.draft_of_check hmay
      rw [hsender, hrecipient, Pair.same_iff.mp about]
    | _ => exact hmay.elim
  have hm : m = s₁.store.messageOf draft s₁.server.now :=
    (Except.ok.inj hreply).trans (congrArg Prod.fst (Store.add_eq _ _ _))
  intro n' hn' hid
  rw [(run.sound fresh).eq_of_id hn' hn (hid.trans (congrArg Message.id hfixed).symm)]
  change n.fixed.conversation = _
  rw [hfixed, hm]
  exact hdraft

/-- **A turn of a call about a pair leaves all others as they are**, whatever
other calls have done since its first. -/
theorem Run.turn_beyond (run : Run Server.StoreKept (System.start settings calls server) t s)
    (fresh : server.store = .empty) {e : Event} {s' : System} (step : Step Server.StoreKept s (some e) s')
    {call : Call} {rest : Program Surroundings.signature (Except Failure call.Answer)}
    (hi : s.callers[e.caller]? = some ⟨call, rest⟩) {a b : UserId} (about : call.About s.store a b) :
    Store.Beyond (Pair.id a b) s.store s'.store := by
  have hsound := run.sound fresh
  obtain ⟨call', next, hcaller, -, hserver⟩ := step.turn_of
  cases hi.symm.trans hcaller
  have told : ∀ e' ∈ t, e'.caller = e.caller →
      Truthful e'.question e'.reply ∧ Fresh s.store (Pair.id a b) e'.question e'.reply := by
    intro e' he' hcall
    refine ⟨run.events_truthful e' he', ?_⟩
    obtain ⟨i, q, r⟩ := e'
    cases q with
    | archive q =>
      cases q with
      | store draft =>
        cases r with
        | ok m =>
          obtain rfl : i = e.caller := hcall
          exact run.fresh_stored fresh (run.call hi) about he'
        | error f => trivial
      | _ => trivial
    | _ => trivial
  have hasks := (run.obeys hcaller (about.obeys hsound settings) told).1
  have hanswered := (Server.answer_beyond hasks hsound (.refl _ s.store)).2.2
  rwa [← hserver] at hanswered

/-- **Pairs are isolated from each other.** However the calls before took turns,
a call that sends, marks, recalls or deletes what is of one pair leaves all
messages, rows and counters of other pairs as they are, and so what is answered
about them. So does each of its turns among those of other calls. -/
theorem pairs_isolated (fresh : server.store = .empty)
    (run : Run Server.StoreKept (System.start settings calls server) t s) {call : Call} {a b : UserId}
    (about : call.About s.store a b) :
    let behind := (s.server.run (call.action settings).run).2
    Store.Apart a b s.store behind.store ∧
    (∀ viewer c before limit, c ≠ Pair.id a b →
      (behind.run (Messaging.history viewer c before limit).run).1 =
        (s.server.run (Messaging.history viewer c before limit).run).1) ∧
    (∀ user c, c ≠ Pair.id a b → c ≠ "" →
      (behind.run (Messaging.unread user (some c)).run).1 = (s.server.run (Messaging.unread user (some c)).run).1) ∧
    (∀ user, user ≠ a → user ≠ b →
      (behind.run (Messaging.unread user none).run).1 = (s.server.run (Messaging.unread user none).run).1) ∧
    ∀ e s' rest, Step Server.StoreKept s (some e) s' → s.callers[e.caller]? = some ⟨call, rest⟩ →
      Store.Apart a b s.store s'.store := by
  intro behind
  have hsound := run.sound fresh
  obtain ⟨-, hbehind, hbeyond⟩ := Program.run_obeys
    (I := fun server : Server Backend.memory => server.store.Sound ∧ Store.Beyond (Pair.id a b) s.store server.store)
    (fun q server hq ⟨hs, h⟩ => Server.answer_beyond hq hs h) (about.obeys hsound settings)
    ⟨hsound, .refl _ s.store⟩
  refine ⟨hbeyond.apart hsound hbehind, fun viewer c before limit hne => ?_, fun user c hne hempty => ?_,
    fun user ha hb => ?_, fun e s' rest step hi => ?_⟩
  · exact Server.run_history_congr (hbeyond.latest hne) viewer before limit
  · exact Server.run_unread_congr hempty (hbeyond.unread_one hne user)
  · rw [Server.run_unread_all, Server.run_unread_all]
    exact congrArg _ (hbeyond.unread_all hsound hbehind ha hb)
  · exact (run.turn_beyond fresh step hi about).apart hsound ((run.step step).sound fresh)

/-- Two users of whom one writes to itself as well, and one to a third user. -/
def threePairs : System :=
  System.start {} [.send ⟨2, 2, 1, "note", none⟩, .send ⟨1, 2, 1, "hello", none⟩, .send ⟨1, 3, 1, "hi", none⟩]
    (Server.fresh [])

/-- The three messages are stored. -/
def threePairsWritten : System := threePairs.play [0, 1, 0, 1, 0, 1, 2, 2, 2]

/-- When the message between the two is deleted, what they wrote elsewhere stays
unread. -/
theorem pairs_isolated_of_shared_users : ∃ t, Run Server.StoreKept threePairs t threePairsWritten ∧
    let behind := (threePairsWritten.server.run ((Call.deleteMessage 2 2).action {}).run).2
    behind.store.messages.map (·.status) = [.sent, .deleted, .sent] ∧
    Store.Apart 1 2 threePairsWritten.store behind.store ∧
    (behind.run (Messaging.unread 2 (some (Pair.id 2 2))).run).1 = .ok 1 ∧
    (behind.run (Messaging.unread 3 none).run).1 = .ok 1 := by
  obtain ⟨t, run⟩ : ∃ t, Run Server.StoreKept threePairs t threePairsWritten := Run.play .nil _
  have about : (Call.deleteMessage 2 2).About threePairsWritten.store 1 2 :=
    show ∀ m ∈ threePairsWritten.store.messages, m.id = 2 → Pair.Same 1 2 m.sender m.recipient by decide +kernel
  obtain ⟨hapart, -, hone, hall, -⟩ := pairs_isolated rfl run about
  refine ⟨t, run, by decide +kernel, hapart, ?_, ?_⟩
  · rw [hone 2 (Pair.id 2 2) (by decide +kernel) (by decide +kernel)]
    decide +kernel
  · rw [hall 3 (by decide) (by decide)]
    decide +kernel

end System
end Parley
