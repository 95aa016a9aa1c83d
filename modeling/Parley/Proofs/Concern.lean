/-
Frames reach those whom they concern.

`Concerns` lists why a frame may be put into a queue: it brings a message to
its recipient, tells one participant of a message what the other did to it, or
passes on what a socket said of its user to somebody with whom that user has
exchanged a message. Each reason names the turn that it rests on: the message
was stored, or its retirement applied, by the call that offers the frame
(`Run.concerned`). Such a turn comes once for each message, and a call offers
once, so nothing is told twice (`Run.told_once`). A message is noted to be
delivered only after its offer was taken (`Run.delivered_taken`).
-/
import Parley.Proofs.Faults
import Parley.Proofs.Grounds
import Parley.Proofs.Structure

namespace Parley

open Surroundings (Ask signature)

/-! ## Messages -/

theorem Message.Advanced.fixed {m m' : Message} (h : m.Advanced m') : m'.fixed = m.fixed := by
  rcases h with rfl | ⟨-, h⟩
  · rfl
  · rw [h]
    rfl

theorem Message.frameOf_congr {m n : Message} (h : n.fixed = m.fixed) {news : News} (hnews : news ≠ .stored)
    (operator : UserId) : m.frameOf operator news = n.frameOf operator news := by
  have hframe := congrArg (·.frameOf operator news) h.symm
  cases news with
  | stored => exact absurd rfl hnews
  | recalled | deleted => exact hframe

theorem Message.between_counterpart {m : Message} {user : UserId} (h : m.isParticipant user = true) :
    m.Between user (m.counterpart user) := by
  unfold isParticipant at h
  unfold counterpart
  split
  · next hsender => exact .inl ⟨hsender, rfl⟩
  · next hsender => exact .inr ⟨rfl, by simpa [hsender] using h⟩

namespace Store

variable {s : Store}

theorem of_mem_moveWhere {p : Message → Bool} {new : Status} {now : Time.Instant} {m : Message}
    (h : m ∈ (s.moveWhere p new now).messages) (hne : m.status ≠ new) : m ∈ s.messages := by
  obtain ⟨n, hn, rfl⟩ := mem_moveWhere.mp h
  cases hp : p n with
  | true =>
    rw [Message.moveIf_of_pos hp] at hne
    exact absurd rfl hne
  | false =>
    rw [Message.moveIf_of_neg hp]
    exact hn

theorem delivered_of_answer (h : s.Sound) {q : Archive.Ask} (lawful : Lawful q) {now : Time.Instant}
    {m : Message} (hm : m ∈ (answer now q s).2.messages) (hs : m.status = .delivered) :
    (∃ old new, q = .transition m.id old new) ∨ m ∈ s.messages := by
  cases q with
  | store draft =>
    change m ∈ (s.add draft now).2.messages at hm
    rw [add_eq] at hm
    rcases List.mem_append.mp hm with hm | hm
    · exact .inr hm
    · rw [List.mem_singleton.mp hm] at hs
      cases hs
  | transition id old new =>
    change m ∈ (s.transition id old new now).2.messages at hm
    by_cases hid : m.id = id
    · exact .inl ⟨old, new, by rw [hid]⟩
    · unfold transition at hm
      split at hm
      · split at hm
        · obtain ⟨n, hn, rfl⟩ := List.mem_map.mp hm
          split at hid
          · next he => exact absurd (by simpa using he) hid
          · next he => exact .inr (by simpa [he] using hn)
        · exact .inr hm
      · exact .inr hm
  | retire id old new =>
    change m ∈ (s.retire id old new now).2.messages at hm
    rcases retire_cases h id old new now with ⟨-, he⟩ | ⟨_, -, -, -, he⟩ | ⟨n, -, -, -, he⟩ <;> rw [he] at hm
    · exact .inr hm
    · exact .inr hm
    · rw [messages_retired] at hm
      refine .inr (of_mem_moveWhere hm fun hnew => ?_)
      rcases lawful.2 with hnew' | hnew' <;> rw [hs, hnew'] at hnew <;> cases hnew
  | markRead reader conversation upTo =>
    change m ∈ (s.markRead reader conversation upTo now).2.messages at hm
    unfold markRead at hm
    split at hm
    · exact .inr hm
    · exact .inr (of_mem_moveWhere hm (by rw [hs]; decide))
  | _ => exact .inr hm

end Store

/-! ## What is told, and why -/

/-- The call is one that users make: what it relays was said on a socket of
its user. Events that other services push are left out. -/
def Call.FromUser : Call → Prop
  | .push _ => False
  | .relay user target event => ∃ (w : Socket) (settings : SocketSettings) (now : Time.Instant) (i : Incoming),
    w.user = user ∧ .relay target event ∈ (w.receive settings now i).2
  | _ => True

/-- A message with that id was stored, recalled or deleted at this turn. -/
def Event.Reaches (e : Event) (id : Int) : News → Prop
  | .stored => ∃ m, e.stored? = some m ∧ m.id = id
  | .recalled => e.Retires id .recalled
  | .deleted => e.Retires id .deleted

/-- News of the message with that id are offered at this turn. -/
def Event.Tells (e : Event) (id : Int) (news : News) : Prop :=
  ∃ user m operator, e.question = .offer user (Message.frameOf m operator news) ∧ m.id = id

/-- Why a frame that a caller offers concerns the user. -/
inductive Concerns (calls : List Call) (t : List Event) (s : Store) (i : Nat) (user : UserId) : String → Prop
  /-- It is a message to the user, as the caller has stored it. -/
  | stored {m : Message} {e : Event} (hm : m ∈ s.messages) (recipient : m.recipient = user) (he : e ∈ t)
    (caller : e.caller = i) (stored : e.stored? = some m.fixed) : Concerns calls t s i user m.fixed.newFrame
  /-- Its sender has recalled a message to the user. -/
  | recalled {m : Message} {operator : UserId} {e : Event}
    (call : calls[i]? = some (.recallMessage operator m.id)) (hm : m ∈ s.messages)
    (sender : m.sender = operator) (recipient : m.recipient = user) (he : e ∈ t) (caller : e.caller = i)
    (retired : e.Retires m.id .recalled) :
    Concerns calls t s i user (m.frameOf operator .recalled)
  /-- The other participant has deleted a message of the user. -/
  | deleted {m : Message} {operator : UserId} {e : Event}
    (call : calls[i]? = some (.deleteMessage operator m.id)) (hm : m ∈ s.messages)
    (between : m.Between operator user) (he : e ∈ t) (caller : e.caller = i)
    (retired : e.Retires m.id .deleted) :
    Concerns calls t s i user (m.frameOf operator .deleted)
  /-- The user of a socket types or has read, and there is a message between
  the two. -/
  | relayed {w : Socket} {settings : SocketSettings} {now : Time.Instant} {input : Incoming} {event : Envelope}
    {m : Message} (call : calls[i]? = some (.relay w.user user event))
    (relays : .relay user event ∈ (w.receive settings now input).2) (isFrom : event.IsFrom w.user)
    (other : w.user ≠ user) (hm : m ∈ s.messages) (between : m.Between w.user user) :
    Concerns calls t s i user event.frame

theorem Event.Tells.isOffer {e : Event} {id : Int} {news : News} (h : e.Tells id news) :
    e.question.isOffer = true := by
  obtain ⟨user, m, operator, hquestion, -⟩ := h
  rw [hquestion]
  rfl

theorem Concerns.origin {calls : List Call} {t : List Event} {s : Store} {i : Nat} {user operator : UserId}
    {frame : String} (h : Concerns calls t s i user frame) {m : Message} {news : News}
    (hframe : frame = m.frameOf operator news) : ∃ e ∈ t, e.caller = i ∧ e.Reaches m.id news := by
  cases h with
  | @stored n e hn _ he hcaller hstored =>
    have hnews : n.fixed.frameOf operator .stored = m.frameOf operator news := hframe
    obtain ⟨hid, rfl⟩ := Message.frameOf_inj hnews
    exact ⟨e, he, hcaller, n.fixed, hstored, hid⟩
  | @recalled n operator' e _ _ _ _ he hcaller hretired =>
    obtain ⟨hid, rfl⟩ := Message.frameOf_inj hframe
    exact ⟨e, he, hcaller, hid ▸ hretired⟩
  | @deleted n operator' e _ _ _ he hcaller hretired =>
    obtain ⟨hid, rfl⟩ := Message.frameOf_inj hframe
    exact ⟨e, he, hcaller, hid ▸ hretired⟩
  | relayed _ _ isFrom =>
    refine absurd hframe (Message.frameOf_ne ?_ m operator)
    rcases isFrom.1 with hkind | hkind <;> rw [hkind] <;> cases news <;> decide

/-! ## Runs -/

namespace System

variable {settings : MessageSettings} {calls : List Call} {server : Server Backend.memory}
  {t : List Event} {s s' : System} {e : Option Event} {i : Nat} {id : Int} {m : Message} {user : UserId}

theorem Run.mem_of_stored (run : Run Server.StoreKept (System.start settings calls server) t s)
    (fresh : server.store = .empty) {e : Event} (he : e ∈ t) (stored : e.stored? = some m) :
    ∃ n ∈ s.store.messages, n.fixed = m := by
  have hmem : m ∈ t.reverse.filterMap Event.stored? :=
    List.mem_filterMap.mpr ⟨e, List.mem_reverse.mpr he, stored⟩
  rw [← run.log fresh] at hmem
  exact List.mem_map.mp hmem

theorem Run.between_of_row (run : Run Server.StoreKept (System.start settings calls server) t s)
    (fresh : server.store = .empty) {a b : UserId} {row : Conversation}
    (he : ⟨i, .archive (.row a b), .ok (some row)⟩ ∈ t) : ∃ m ∈ s.store.messages, m.Between a b := by
  obtain ⟨t₁, t₂, s₁, s₂, before, turn, behind, rfl⟩ := run.split he
  obtain ⟨-, -, -, hreply, -⟩ := turn.turn_of
  have hrow : s₁.store.row? (Pair.ownerKey a b) = some row := (Except.ok.inj hreply).symm
  obtain ⟨m, hm, hbetween⟩ := ((before.inOrder fresh).rows a b).mp (by rw [hrow]; rfl)
  obtain ⟨m', hm', hadv⟩ := (before.grew fresh ((Run.nil.step turn).trans behind)).mem hm
  exact ⟨m', hm', hadv.between hbetween⟩

theorem Run.held_of_applied (run : Run Server.StoreKept (System.start settings calls server) t s)
    (fresh : server.store = .empty) {old target : Status}
    (he : ⟨i, .archive (.retire id old target), .ok (.applied m)⟩ ∈ t) :
    ∃ m' ∈ s.store.messages, m.Advanced m' := by
  obtain ⟨t₁, t₂, s₁, s₂, before, turn, behind, rfl⟩ := run.split he
  obtain ⟨-, -, -, hreply, hserver⟩ := turn.turn_of
  have happlied : (s₁.store.retire id old target s₁.server.now).1 = .applied m := (Except.ok.inj hreply).symm
  have hstore : s₂.store = (s₁.store.retire id old target s₁.server.now).2 := congrArg Server.store hserver
  refine ((before.step turn).grew fresh behind).mem ?_
  rcases Store.retire_cases (before.sound fresh) id old target s₁.server.now with
    ⟨-, hcase⟩ | ⟨n, -, -, -, hcase⟩ | ⟨n, hn, -, -, hcase⟩ <;> rw [hcase] at happlied hstore <;> cases happlied
  rw [hstore, Store.messages_retired, Store.mem_moveWhere]
  exact ⟨n, hn, Message.moveIf_of_pos (by simp)⟩

theorem Run.notified (run : Run Server.StoreKept (System.start settings calls server) t s)
    (fresh : server.store = .empty) {seen : Message} {old target : Status} (hseen : Seen (Told t i) id seen)
    (happlied : Told t i (.archive (.retire id old target)) (.ok (.applied m))) :
    ∃ n ∈ s.store.messages, n.id = id ∧ n.fixed = seen.fixed ∧ n.fixed = m.fixed := by
  obtain ⟨n, hn, hadv⟩ := run.held_of_applied fresh happlied.2
  obtain ⟨n', hn', hadv'⟩ := run.seen fresh hseen
  have hid : n.id = id := hadv.id.trans happlied.1.1
  have hsame : n' = n := by
    rw [← hid, (run.sound fresh).message?_eq hn] at hn'
    exact (Option.some.inj hn').symm
  exact ⟨n, hn, hid, hsame ▸ hadv'.fixed, hadv.fixed⟩

/-- **Whatever is offered concerns the user.** -/
theorem Run.concerned (run : Run Server.StoreKept (System.start settings calls server) t s)
    (fresh : server.store = .empty) (users : ∀ c ∈ calls, c.FromUser) {frame : String} {taken : Bool}
    (step : Step Server.StoreKept s (some ⟨i, .offer user frame, taken⟩) s') :
    Concerns calls t s.store i user frame := by
  obtain ⟨call, next, hi, -, -⟩ := step.turn_of
  have hcall : calls[i]? = some call := run.call hi
  have hoffers : call.Offers (Told t i) user frame := (run.obeys hi (Call.offers settings call) run.told).1
  have hgrounds : call.Grounded (Told t i) (.offer user frame) :=
    (run.obeys hi (Call.grounded (fun _ _ h => h.1) settings call) run.told).1
  cases call with
  | send request =>
    obtain ⟨draft, m, ⟨-, hstored⟩, rfl, rfl⟩ := hoffers
    obtain ⟨n, hn, rfl⟩ := run.mem_of_stored fresh hstored rfl
    exact .stored hn rfl hstored rfl rfl
  | recallMessage operator id =>
    obtain ⟨seen, m, hseen, rfl, happlied, rfl, rfl⟩ := hgrounds
    obtain ⟨n, hn, rfl, hseen, hm⟩ := run.notified fresh hseen happlied
    have hsender : n.sender = seen.sender := congrArg (·.sender) hseen
    have hactor : m.sender = seen.sender := (congrArg (·.sender) hm).symm.trans hsender
    have hrecipient : n.recipient = m.counterpart m.sender := by
      rw [Message.counterpart, if_pos rfl]
      exact congrArg (·.recipient) hm
    rw [Message.frameOf_congr hm (by decide), hactor]
    exact .recalled hcall hn hsender (hactor ▸ hrecipient) happlied.2 rfl .mk
  | deleteMessage operator id =>
    obtain ⟨seen, m, hseen, hparticipant, happlied, rfl, rfl⟩ := hgrounds
    obtain ⟨n, hn, rfl, hseen, hm⟩ := run.notified fresh hseen happlied
    have hparticipant : n.isParticipant operator = true :=
      (congrArg (·.isParticipant operator) hseen).trans hparticipant
    have hcounterpart : n.counterpart operator = m.counterpart operator := congrArg (·.counterpart operator) hm
    rw [Message.frameOf_congr hm (by decide), ← hcounterpart]
    exact .deleted hcall hn (Message.between_counterpart hparticipant) happlied.2 rfl .mk
  | push request => exact (users _ (List.mem_of_getElem? hcall)).elim
  | relay sender target event =>
    obtain ⟨rfl, rfl⟩ := hoffers
    obtain ⟨hne, row, hrow⟩ := hgrounds
    obtain ⟨w, _, _, _, rfl, hrelays⟩ := users _ (List.mem_of_getElem? hcall)
    obtain ⟨m, hm, hbetween⟩ := run.between_of_row fresh hrow.2
    exact .relayed hcall hrelays (Socket.isFrom_of_relayed hrelays) hne hm hbetween
  | _ => exact hoffers.elim

theorem Run.origin (run : Run Server.StoreKept (System.start settings calls server) t s)
    (fresh : server.store = .empty) (users : ∀ c ∈ calls, c.FromUser) {e : Event}
    (step : Step Server.StoreKept s (some e) s') {news : News} (tells : e.Tells id news) :
    ∃ e₀ ∈ t, e₀.caller = e.caller ∧ e₀.Reaches id news := by
  obtain ⟨i, q, r⟩ := e
  obtain ⟨user, m, operator, hquestion, rfl⟩ := tells
  obtain rfl : q = _ := hquestion
  exact (run.concerned fresh users step).origin rfl

theorem Run.reached_once (run : Run Server.StoreKept (System.start settings calls server) t s)
    (fresh : server.store = .empty) {e e' : Event} (he : e ∈ t) (he' : e' ∈ t) {news : News}
    (h : e.Reaches id news) (h' : e'.Reaches id news) : e = e' := by
  cases news with
  | stored =>
    obtain ⟨m, hm, hid⟩ := h
    obtain ⟨n, hn, hid'⟩ := h'
    exact run.stored_once fresh he he' hm hn (hid.trans hid'.symm)
  | recalled | deleted => exact run.retires_once fresh he he' h h'

/-- **Nothing is told twice.** -/
theorem Run.told_once (run : Run Server.StoreKept (System.start settings calls server) t s)
    (fresh : server.store = .empty) (users : ∀ c ∈ calls, c.FromUser) :
    t.Pairwise fun later earlier => ∀ id news, ¬(later.Tells id news ∧ earlier.Tells id news) := by
  induction run with
  | nil => exact .nil
  | @step t s s' e run step ih =>
    cases e with
    | none => exact ih
    | some e =>
      refine List.pairwise_cons.mpr ⟨fun e' he' id news ⟨hlater, hearlier⟩ => ?_, ih⟩
      obtain ⟨e₀, he₀, hcaller, hreaches⟩ := run.origin fresh users step hlater
      obtain ⟨t₁, t₂, s₁, s₂, before, turn, -, rfl⟩ := run.split he'
      obtain ⟨e₁, he₁, hcaller', hreaches'⟩ := before.origin fresh users turn hearlier
      have hmem := List.mem_append_right t₂ (List.mem_cons_of_mem e' he₁)
      obtain rfl := run.reached_once fresh he₀ hmem hreaches hreaches'
      -- One caller has offered twice.
      obtain ⟨call, next, hi, -, -⟩ := step.turn_of
      have hfirst := run.asked_first hi (Call.offers_once settings call) hlater.isOffer e' he'
        (hcaller'.symm.trans hcaller)
      rw [hearlier.isOffer] at hfirst
      cases hfirst

theorem Run.delivered (run : Run Server.StoreKept (System.start settings calls server) t s)
    (fresh : server.store = .empty) (hm : m ∈ s.store.messages) (hs : m.status = .delivered) :
    ∃ e ∈ t, ∃ old new, e.question = .archive (.transition m.id old new) := by
  induction run with
  | nil =>
    have hnone : m ∈ server.store.messages := hm
    rw [fresh] at hnone
    cases hnone
  | @step t s s' e run step ih =>
    have held (hm : m ∈ s.store.messages) :
        ∃ e' ∈ e.toList ++ t, ∃ old new, e'.question = .archive (.transition m.id old new) := by
      obtain ⟨e', he', hquestion⟩ := ih hm
      exact ⟨e', List.mem_append_right _ he', hquestion⟩
    rcases run.step_cases step with ⟨i, q, c, hc, hask, rfl, hstore⟩ | ⟨hstore, -⟩ <;> rw [hstore] at hm
    · have lawful := Asked.lawful ⟨c, hc, hask⟩
      rcases Store.delivered_of_answer (run.sound fresh) lawful hm hs with ⟨old, new, rfl⟩ | hm
      · exact ⟨_, List.mem_cons_self, old, new, rfl⟩
      · exact held hm
    · exact held hm

theorem Run.delivered_taken (run : Run Server.StoreKept (System.start settings calls server) t s)
    (fresh : server.store = .empty) (hm : m ∈ s.store.messages) (hs : m.status = .delivered) :
    ∃ i, ⟨i, .offer m.recipient m.fixed.newFrame, true⟩ ∈ t := by
  obtain ⟨⟨i, q, r⟩, he, old, new, hquestion⟩ := run.delivered fresh hm hs
  obtain rfl : q = _ := hquestion
  obtain ⟨t₁, t₂, s₁, s₂, before, turn, -, rfl⟩ := run.split he
  obtain ⟨call, next, hi, -, -⟩ := turn.turn_of
  have hasks := (before.mayAsk hi).2
  have hgrounds := (before.obeys hi (Call.grounded (fun _ _ h => h.1) settings call) before.told).1
  have still {e : Event} (he : e ∈ t₁) := List.mem_append_right t₂ (List.mem_cons_of_mem ⟨i, _, r⟩ he)
  cases call with
  | send request =>
    obtain ⟨draft, n, ⟨-, hstored⟩, ⟨-, htaken⟩, hid⟩ := hgrounds
    obtain ⟨m', hm', rfl⟩ := run.mem_of_stored fresh (still hstored) rfl
    obtain rfl : m' = m := (run.sound fresh).eq_of_id hm' hm hid.symm
    exact ⟨i, still htaken⟩
  | _ => exact hasks.elim

/-- **Every frame reaches those whom it concerns.** However the calls of users
and what happens around them take turns, and wherever the archive fails, a queue
is given a frame at an offer to the user of its session, once and at its end,
and the frame concerns that user. News of a message are offered once. A
message that is delivered was taken before by a session of its recipient. -/
theorem frames_reach_whom_they_concern (fresh : server.store = .empty) (sound : server.hub.Sound)
    (users : ∀ c ∈ calls, c.FromUser)
    (run : FaultyRun Server.Tended (System.start settings calls server) t s) :
    (∀ e s', FaultyStep Server.Tended s e s' → ∀ id frame,
      (s.server.hub.waiting id).count frame < (s'.server.hub.waiting id).count frame →
      ∃ i user taken w, e = some ⟨i, .offer user frame, taken⟩ ∧ s.server.hub.session? id = some w ∧
        w.user = user ∧ s'.server.hub.waiting id = s.server.hub.waiting id ++ [frame] ∧
        Concerns calls t s.store i user frame) ∧
    (t.Pairwise fun later earlier => ∀ id news, ¬(later.Tells id news ∧ earlier.Tells id news)) ∧
    (∀ m ∈ s.store.messages, m.status = .delivered → ∃ t₁ t₂ s₁ s₂ i,
      FaultyRun Server.Tended (System.start settings calls server) t₁ s₁ ∧
      FaultyStep Server.Tended s₁ (some ⟨i, .offer m.recipient m.fixed.newFrame, true⟩) s₂ ∧
      FaultyRun Server.Tended s₂ t₂ s ∧
      s₁.server.hub.Took s₂.server.hub m.recipient m.fixed.newFrame) := by
  obtain ⟨shadow, hrun, hshadows⟩ := run.shadow
  have kept := hrun.mono fun _ _ h => h.store
  refine ⟨fun e s' step id frame hgains => ?_, kept.told_once fresh users, fun m hm hs => ?_⟩
  · rcases hshadows.wait step with ⟨shadow', hstep, hshadows'⟩ | ⟨-, hserver, -⟩
    · rw [← hshadows.server, ← hshadows'.server] at hgains ⊢
      obtain ⟨i, user, taken, w, rfl, hw, huser, hwaiting⟩ := hstep.puts (hrun.hub_sound sound) hgains
      have hconcerns := kept.concerned fresh users (hstep.mono fun _ _ h => h.store)
      have hstore : shadow.store = s.store := congrArg Server.store hshadows.server
      exact ⟨i, user, taken, w, rfl, hw, huser, hwaiting, hstore ▸ hconcerns⟩
    · rw [hserver] at hgains
      exact absurd hgains (Nat.lt_irrefl _)
  · have hstore : shadow.store = s.store := congrArg Server.store hshadows.server
    obtain ⟨i, he⟩ := kept.delivered_taken fresh (hstore ▸ hm) hs
    obtain ⟨t₁, t₂, s₁, s₂, before, turn, behind, -⟩ := run.split he
    refine ⟨t₁, t₂, s₁, s₂, i, before, turn, behind, ?_⟩
    rcases before.reflects turn with ⟨shadow₁, shadow₂, hrun₁, hstep, hserver, hserver'⟩ | ⟨hnone, -⟩
    · rw [← hserver, ← hserver']
      exact hstep.took (hrun₁.hub_sound sound)
    · cases hnone

/-! ## A send whose storing fails once -/

/-- A socket of the first user. -/
def writer : Socket := Socket.start {} 0 1 ⟨0, 0⟩ 0

/-- The first user types to the second. -/
def typing : Envelope := ⟨EventKind.typing, .obj [("from_user_id", .int 1)]⟩

theorem writer_relays : .relay 2 typing ∈ (writer.receive {} ⟨0, 0⟩ (.text "[\"typing\",2]")).2 := by
  have hread : ClientEvent.ofText? "[\"typing\",2]" = some (.typing 2) := by decide +kernel
  have heffects : (writer.receive {} ⟨0, 0⟩ (.text "[\"typing\",2]")).2 = [.touch, .relay 2 typing] := by
    simp only [Socket.receive, hread]
    rfl
  simp [heffects]

/-- A user sends a message to another, and types to it. -/
def chat : List Call := [.send ⟨1, 2, 1, "hello", none⟩, .relay 1 2 typing]

theorem fromUser_chat : ∀ c ∈ chat, c.FromUser := by
  intro c hc
  rcases List.mem_cons.mp hc with rfl | hc
  · trivial
  · rw [List.mem_singleton.mp hc]
    exact ⟨writer, {}, ⟨0, 0⟩, _, rfl, writer_relays⟩

/-- The message as it is stored. -/
def hello : Message := Store.empty.messageOf ⟨1, 2, .text, "hello", none⟩ ⟨0, 0⟩

/-- The message was stored at the second attempt and delivered, and the event
is about to be passed on. -/
def arrived : System :=
  (((start {} chat (Server.fresh [2])).turn 0).failedTurn 0 (.transactionConflict "deadlock")).play [0, 0, 0, 1]

theorem run_arrived : ∃ t, FaultyRun Server.Tended (start {} chat (Server.fresh [2])) t arrived := by
  obtain ⟨t, run⟩ : ∃ t, Run Server.Tended (start {} chat (Server.fresh [2])) t _ := Run.turn .nil 0
  obtain ⟨t', more⟩ := Run.play .nil [0, 0, 0, 1]
  exact ⟨_, (run.faultless.failedTurn 0 (.transactionConflict "deadlock")).trans more.faultless⟩

theorem waiting_arrived : arrived.server.hub.waiting 0 = [hello.newFrame] := by
  with_unfolding_all rfl

theorem waiting_arrived_turn : (arrived.turn 1).server.hub.waiting 0 = [hello.newFrame, typing.frame] := by
  with_unfolding_all rfl

/-- The message is stored at the second attempt, offered once and delivered, and
then the event is passed on: the recipient is told both, and has a message from
the user who types. -/
theorem frames_reach_whom_they_concern_after_conflict : ∃ t s e s',
    FaultyRun Server.Tended (start {} chat (Server.fresh [2])) t s ∧ FaultyStep Server.Tended s e s' ∧
    s'.server.hub.waiting 0 = [hello.newFrame, typing.frame] ∧
    (∃ i user taken, e = some ⟨i, .offer user typing.frame, taken⟩ ∧
      Concerns chat t s.store i user typing.frame) ∧
    (t.Pairwise fun later earlier => ∀ id news, ¬(later.Tells id news ∧ earlier.Tells id news)) ∧
    ∃ m ∈ s.store.messages, m.status = .delivered ∧
      ∃ s₁ s₂ i, FaultyStep Server.Tended s₁ (some ⟨i, .offer m.recipient m.fixed.newFrame, true⟩) s₂ ∧
        s₁.server.hub.Took s₂.server.hub m.recipient m.fixed.newFrame := by
  obtain ⟨t, run⟩ := run_arrived
  have sound : (Server.fresh [2]).hub.Sound := (Hub.Sound.start _).register rfl
  obtain ⟨hputs, honce, hdelivered⟩ := frames_reach_whom_they_concern rfl sound fromUser_chat run
  have hgains : (arrived.server.hub.waiting 0).count typing.frame <
      ((arrived.turn 1).server.hub.waiting 0).count typing.frame := by
    rw [waiting_arrived, waiting_arrived_turn]
    simp [List.count_cons]
  obtain ⟨e, step⟩ := step_of_gains ⟨0, hgains⟩
  refine ⟨t, _, some e, _, run, .faultless step, waiting_arrived_turn, ?_, honce, ?_⟩
  · obtain ⟨i, user, taken, -, he, -, -, -, hconcerns⟩ := hputs _ _ (.faultless step) 0 typing.frame hgains
    exact ⟨i, user, taken, he, hconcerns⟩
  · have hstatuses : arrived.store.messages.map (·.status) = [.delivered] := by decide +kernel
    obtain ⟨m, hm, hs⟩ := List.map_eq_singleton_iff.mp hstatuses
    have hmem : m ∈ arrived.store.messages := by simp [hm]
    obtain ⟨t₁, t₂, s₁, s₂, i, -, turn, -, htook⟩ := hdelivered m hmem hs
    exact ⟨m, hmem, hs, s₁, s₂, i, turn, htook⟩

end System
end Parley
