/-
Recalling and deleting decide by what is wrong, and change one message.

`Message.recallFaults` and `Message.deleteFaults` list what speaks against a
step, the cause that is told first. When no other call has a turn, the first
of them is the answer and nothing but the clock has moved; without any, the
archive is as `Store.OnlyRetired` says and the other user is sent a notice
(`Messaging.Decided`).

The archive repairs rows by looking them over: it points those anew that show
the message, and counts the unread messages of a row again. That this touches
no other row rests on what holds of the rows before, that they show the latest
message (`Store.Pointed`) and count the unread ones (`Store.Counted`).
-/
import Parley.Proofs.Frame
import Parley.Proofs.Hub.Tending
import Parley.Proofs.LastMessage
import Parley.Proofs.Lifecycle
import Parley.Proofs.Unread

namespace Parley

open Time (Instant)

/-! ## What speaks against a step -/

namespace Message

variable {m : Message} {user : UserId}

/-- All that speaks against recalling a message at a time. -/
def recallFaults (window : Milliseconds) (user : UserId) (now : Instant) (m : Message) : List Failure :=
  (if m.sender ≠ user then [.notSender] else [])
  ++ (if m.status = .recalled then [.alreadyRecalled] else [])
  ++ (if m.status = .deleted then [.alreadyDeleted] else [])
  ++ (if (window : Int) * 1000000 < now.since m.createdAt then
    [.recallWindowExpired m.createdAt (window / 1000 : Nat)] else [])

/-- All that speaks against deleting a message. -/
def deleteFaults (user : UserId) (m : Message) : List Failure :=
  (if m.sender ≠ user ∧ m.recipient ≠ user then [.notParticipant] else [])
  ++ (if m.status = .deleted then [.alreadyDeleted] else [])

theorem recallFaults_eq_nil {window : Milliseconds} {now : Instant} :
    m.recallFaults window user now = [] ↔ m.sender = user ∧
      (m.status = .sent ∨ m.status = .delivered ∨ m.status = .read) ∧
        now.since m.createdAt ≤ (window : Int) * 1000000 := by
  cases hs : m.status <;> simp [recallFaults, hs]

theorem deleteFaults_eq_nil :
    m.deleteFaults user = [] ↔ (m.sender = user ∨ m.recipient = user) ∧ m.status ≠ .deleted := by
  simp only [deleteFaults, List.append_eq_nil_iff, ite_eq_right_iff, List.cons_ne_nil, imp_false,
    not_and_or, ne_eq, not_not]

end Message

/-- Success without faults, and else the first of them. -/
def verdict : List Failure → Except Failure Unit
  | [] => .ok ()
  | f :: _ => .error f

namespace Messaging

theorem checkDelete_eq (user : UserId) (m : Message) :
    checkDelete user m = verdict (m.deleteFaults user) := by
  unfold checkDelete Message.deleteFaults
  by_cases hpart : m.isParticipant user = true
  · have hnot : ¬(m.sender ≠ user ∧ m.recipient ≠ user) := by
      rw [not_and_or, not_not, not_not]
      simpa [Message.isParticipant] using hpart
    by_cases hd : m.status = .deleted <;> simp [hpart, hnot, hd, verdict]
  · have hnot : m.sender ≠ user ∧ m.recipient ≠ user := by simpa [Message.isParticipant] using hpart
    simp [hpart, hnot, verdict]

end Messaging

/-! ## Running a step alone -/

namespace Server

variable {B : Backend} {α β : Type}

theorem run_bind_ok {s s' : Server B} {x : Action α} {a : α} (h : s.run x.run = (.ok a, s'))
    (f : α → Action β) : s.run (x >>= f).run = s'.run (f a).run := by
  rw [ExceptT.run_bind, run, Program.bind_eq, Program.run_bind]
  rw [run] at h
  rw [h]
  rfl

theorem run_bind_error {s s' : Server B} {x : Action α} {e : Failure} (h : s.run x.run = (.error e, s'))
    (f : α → Action β) : s.run (x >>= f).run = (.error e, s') := by
  rw [ExceptT.run_bind, run, Program.bind_eq, Program.run_bind]
  rw [run] at h
  rw [h]
  rfl

end Server

/-! ## The archive -/

theorem Message.map_moveIf_of_neg {p : Message → Bool} {new : Status} {now : Instant} {l : List Message}
    (h : ∀ n ∈ l, p n = false) : l.map (Message.moveIf p new now) = l :=
  (List.map_congr_left fun n hn => Message.moveIf_of_neg (h n hn)).trans (List.map_id' l)

namespace Store

variable {s : Store} {m : Message} {target : Status} {now : Instant}

/-- A row that shows a message is pointed at `last` instead. -/
def repointed (m : Message) (last : Option LastMessage) (r : Conversation) : Conversation :=
  if r.lastId = some m.id then r.pointAt last else r

/-- What retiring a message makes of a row: it is pointed anew if it shows the
message, and the row of the recipient counts one unread message less. -/
def afterRetiring (m : Message) (last : Option LastMessage) (r : Conversation) : Conversation :=
  if m.status.isUnread = true ∧ r.owner = m.recipient ∧ r.peer = m.sender then
    { repointed m last r with unread := wrapCount (r.unread - 1) }
  else repointed m last r

/-- Nothing but the retired message has changed, and what rows say of it. -/
structure OnlyRetired (s s' : Store) (m : Message) (target : Status) (now : Instant) : Prop where
  messages : s'.messages =
    s.messages.map fun n => if n.id = m.id then { n with status := target, updatedAt := now } else n
  rows : s'.rows = s.rows.map (afterRetiring m (s'.last m.conversation))
  counters : s'.counters = s.counters
  lastMessage : s'.lastMessage = s.lastMessage
  lastRow : s'.lastRow = s.lastRow

theorem repointed_ownerKey (m : Message) (last : Option LastMessage) (r : Conversation) :
    (repointed m last r).ownerKey = r.ownerKey := by
  unfold repointed
  split <;> rfl

theorem Pointed.conversation_of_lastId (hp : s.Pointed) (h : s.Sound) (hm : m ∈ s.messages)
    {r : Conversation} (hr : r ∈ s.rows) (hid : r.lastId = some m.id) :
    r.conversation = m.conversation := by
  rw [(hp.fields hr).1, last, Option.map_map, Option.map_eq_some_iff] at hid
  obtain ⟨n, hn, hid⟩ := hid
  obtain ⟨hmem, hc, -⟩ := mem_of_newest? hn
  rw [← hc, h.eq_of_id hmem hm hid]

theorem Sound.unreadCount_retired (h : s.Sound) (hm : m ∈ s.messages)
    (hunread : m.status.isUnread = true) (hnew : target.isUnread = false) (now : Instant) :
    (s.moveWhere (·.id == m.id) target now).unreadCount m.conversation m.recipient + 1 =
      s.unreadCount m.conversation m.recipient := by
  obtain ⟨front, behind, hsplit⟩ := List.append_of_mem hm
  have hids := h.ids
  rw [hsplit, List.pairwise_append, List.pairwise_cons] at hids
  -- The messages around it keep their status, for they have other ids.
  have hfront : front.map (Message.moveIf (·.id == m.id) target now) = front :=
    Message.map_moveIf_of_neg fun n hn =>
      beq_eq_false_iff_ne.mpr (Int.ne_of_lt (hids.2.2 n hn m List.mem_cons_self))
  have hbehind : behind.map (Message.moveIf (·.id == m.id) target now) = behind :=
    Message.map_moveIf_of_neg fun n hn => beq_eq_false_iff_ne.mpr (Int.ne_of_gt (hids.2.1.1 n hn))
  have hmoved : counts m.conversation m.recipient (m.moveIf (·.id == m.id) target now) = false := by
    rw [Message.moveIf_of_pos (beq_self_eq_true m.id), Bool.eq_false_iff, ne_eq, counts_iff]
    simp [Message.move, hnew]
  have hcounted : counts m.conversation m.recipient m = true := counts_iff.mpr ⟨rfl, rfl, hunread⟩
  rw [unreadCount, unreadCount, Store.moveWhere, hsplit, List.map_append, List.map_cons, hfront, hbehind,
    List.countP_append, List.countP_append, List.countP_cons_of_pos hcounted,
    List.countP_cons_of_neg (Bool.eq_false_iff.mp hmoved), Nat.add_assoc]

theorem wrapCount_sub_one (n : Int) : wrapCount (wrapCount n - 1) = wrapCount (n - 1) :=
  Int.bmod_sub_bmod

theorem Counted.recipient (hc : s.Counted) (h : s.Sound) (hm : m ∈ s.messages) {r : Conversation}
    (hr : r ∈ s.rows) (ho : r.owner = m.recipient) (hp : r.peer = m.sender) :
    r.unread = wrapCount (s.unreadCount m.conversation m.recipient) := by
  rw [hc r hr, (h.owned r hr).2, h.named m hm, ho, hp, Pair.id_comm]

theorem last_retired (s : Store) (m : Message) (target : Status) (now : Instant) (c : String) :
    (s.retired m target now).last c = (s.moveWhere (·.id == m.id) target now).last c := by
  simp only [last, newest?_eq_find?, messages_retired]

theorem rows_recountUnread (s : Store) (conversation : String) (owner peer : UserId) :
    (s.recountUnread conversation owner peer).rows = s.rows.map fun r =>
      if r.ownerKey = Pair.ownerKey owner peer then
        { r with unread := wrapCount (s.unreadCount conversation owner) }
      else r := by
  simp only [recountUnread, updateRow, length_unreadOf, beq_iff_eq]

theorem Pointed.rows_repointRows (hp : s.Pointed) (h : s.Sound) (hm : m ∈ s.messages) (target : Status)
    (now : Instant) : ((s.moveWhere (·.id == m.id) target now).repointRows m.conversation m.id).rows =
      s.rows.map (repointed m ((s.moveWhere (·.id == m.id) target now).last m.conversation)) := by
  refine List.map_congr_left fun r hr => ?_
  have hshows : (r.conversation == m.conversation && r.lastId == some m.id) = true ↔ r.lastId = some m.id := by
    rw [Bool.and_eq_true, beq_iff_eq, beq_iff_eq]
    exact and_iff_right_of_imp (hp.conversation_of_lastId h hm hr)
  simp only [hshows]
  rfl

/-- **Retiring repairs the rows of the message and no others.** -/
theorem onlyRetired (h : s.Sound) (hp : s.Pointed) (hc : s.Counted) (hm : m ∈ s.messages)
    (hnew : target.isUnread = false) (now : Instant) :
    s.OnlyRetired (s.retired m target now) m target now where
  messages := by
    rw [messages_retired]
    refine List.map_congr_left fun n _ => ?_
    simp only [Message.moveIf, beq_iff_eq]
    rfl
  rows := by
    have hshown := hp.rows_repointRows h hm target now
    rw [last_retired]
    unfold Store.retired
    simp only
    split
    · next hunread =>
      have hcount := h.unreadCount_retired hm hunread hnew now
      rw [rows_recountUnread, hshown, List.map_map]
      refine List.map_congr_left fun r hr => ?_
      have hkey : (repointed m ((s.moveWhere (·.id == m.id) target now).last m.conversation) r).ownerKey =
          Pair.ownerKey m.recipient m.sender ↔ r.owner = m.recipient ∧ r.peer = m.sender := by
        rw [repointed_ownerKey, (h.owned r hr).1, Pair.ownerKey_eq_iff]
      by_cases hown : r.owner = m.recipient ∧ r.peer = m.sender
      · have hcounted := hc.recipient h hm hr hown.1 hown.2
        rw [Function.comp, if_pos (hkey.mpr hown), afterRetiring, if_pos ⟨hunread, hown⟩, hcounted,
          wrapCount_sub_one, ← hcount, Int.natCast_succ, Int.add_sub_cancel]
        rfl
      · rw [Function.comp, if_neg (mt hkey.mp hown), afterRetiring, if_neg fun hboth => hown hboth.2]
    · next hread =>
      rw [hshown]
      exact List.map_congr_left fun r _ => (if_neg fun hboth => hread hboth.1).symm
  counters := by
    unfold Store.retired
    simp only
    split <;> rfl
  lastMessage := by
    unfold Store.retired
    simp only
    split <;> rfl
  lastRow := by
    unfold Store.retired
    simp only
    split <;> rfl

theorem Counted.one_less (hc : s.Counted) (h : s.Sound) (few : s.messages.length < 2 ^ 31) (hm : m ∈ s.messages)
    (hunread : m.status.isUnread = true) {r : Conversation} (hr : r ∈ s.rows) (ho : r.owner = m.recipient)
    (hp : r.peer = m.sender) : 0 < r.unread ∧ wrapCount (r.unread - 1) = r.unread - 1 := by
  have hpos : 0 < s.unreadCount m.conversation m.recipient :=
    List.countP_pos_iff.mpr ⟨m, hm, counts_iff.mpr ⟨rfl, rfl, hunread⟩⟩
  have hlt : s.unreadCount m.conversation m.recipient < 2 ^ 31 :=
    Nat.lt_of_le_of_lt List.countP_le_length few
  rw [hc.recipient h hm hr ho hp, wrapCount_of_lt hlt, ← Int.natCast_pred_of_pos hpos]
  exact ⟨Int.natCast_pos.mpr hpos, wrapCount_of_lt (Nat.lt_of_le_of_lt (Nat.sub_le _ 1) hlt)⟩

end Store

/-! ## The calls -/

theorem Hub.Sound.fanout_send {h : Hub} (hs : h.Sound) (user : UserId) (frame : String) (now : Tick) :
    h.Fanout (h.send user frame now).2 user frame (h.send user frame now).1 := by
  obtain ⟨taken, hanswer, hfanout⟩ := hs.fanout now user frame
  rcases htake : h.take now (.offer user frame) with ⟨a, h'⟩
  rw [htake] at hanswer hfanout
  cases (show a = .delivered taken from hanswer)
  simp only [Hub.send, htake]
  exact hfanout

/-- The server behind a question to the archive that changed nothing but the
time of the next change. -/
def Server.asked {B : Backend} (s : Server B) : Server B := { s with now := s.now.later Server.instantStep }

namespace Messaging

variable {α : Type} {s : Server Backend.memory} {id : Int} {faults : Message → List Failure} {target : Status}
  {user : UserId} {news : News} {answer : Message → α}

/-- A message is retired by a user unless something speaks against it. -/
structure Decided (s : Server Backend.memory) (id : Int) (faults : Message → List Failure) (target : Status)
    (user : UserId) (news : News) (answer : Message → α)
    (result : Except Failure α × Server Backend.memory) : Prop where
  missing : (∀ m ∈ s.store.messages, m.id ≠ id) → result = (.error .notFound, s.asked)
  refused : ∀ m ∈ s.store.messages, m.id = id → ∀ f, (faults m).head? = some f → result = (.error f, s.asked)
  /-- The message changes at the time of the second question, and the sessions
  of the other user are offered the notice. -/
  applied : ∀ m ∈ s.store.messages, m.id = id → faults m = [] → ∃ (store : Store) (hub : Hub) (taken : Bool),
    result = (.ok (answer { m with status := target, updatedAt := s.asked.now }),
      { s.asked.asked with archive := store, hub := hub }) ∧
    s.store.OnlyRetired store m target s.asked.now ∧
    (taken, hub) = s.hub.send (m.counterpart user) (m.frameOf user news) s.tick ∧
    s.hub.Fanout hub (m.counterpart user) (m.frameOf user news) taken

theorem Decided.succeeds_iff {result : Except Failure α × Server Backend.memory}
    (h : Decided s id faults target user news answer result) :
    (∃ a, result.1 = .ok a) ↔ ∃ m ∈ s.store.messages, m.id = id ∧ faults m = [] := by
  constructor
  · rintro ⟨a, ha⟩
    by_cases hex : ∃ m ∈ s.store.messages, m.id = id
    · obtain ⟨m, hm, hid⟩ := hex
      refine ⟨m, hm, hid, List.head?_eq_none_iff.mp (Option.eq_none_iff_forall_ne_some.mpr fun f hf => ?_)⟩
      rw [h.refused m hm hid f hf] at ha
      cases ha
    · rw [h.missing fun m hm hid => hex ⟨m, hm, hid⟩] at ha
      cases ha
  · rintro ⟨m, hm, hid, hfaults⟩
    obtain ⟨_, _, _, he, -⟩ := h.applied m hm hid hfaults
    exact ⟨_, congrArg Prod.fst he⟩

theorem run_existing (s : Server Backend.memory) (id : Int) :
    s.run (existing id).run =
      ((s.store.message? id).elim (.error .notFound) .ok, s.asked) := by
  have hfind : s.run (Action.archive (.find id)).run = (.ok (s.store.message? id), s.asked) := rfl
  rw [existing, Server.run_bind_ok hfind]
  cases s.store.message? id <;> rfl

theorem run_retireChecked (h : s.store.Sound) {check : Message → Action Unit} {m : Message}
    (hm : m ∈ s.store.messages) (hcheck : s.run (check m).run = (verdict (faults m), s)) (n : Nat) :
    s.run (retireChecked check target (n + 1) m).run = match faults m with
      | f :: _ => (.error f, s)
      | [] => (.ok (m.move target s.now), { s.asked with archive := s.store.retired m target s.now }) := by
  cases hf : faults m with
  | cons f fs =>
    rw [hf] at hcheck
    rw [retireChecked, Server.run_bind_error hcheck]
  | nil =>
    rw [hf] at hcheck
    have hretire : s.store.retire m.id m.status target s.now =
        (.applied (m.move target s.now), s.store.retired m target s.now) := by
      rcases Store.retire_cases h m.id m.status target s.now with
        ⟨hnone, -⟩ | ⟨n, hn, hid, hs, -⟩ | ⟨n, hn, hid, -, he⟩
      · cases (h.message?_eq hm).symm.trans hnone
      · exact absurd (congrArg Message.status (h.eq_of_id hn hm hid)) hs
      · rw [he, h.eq_of_id hn hm hid]
    have hasked : s.run (Action.archive (.retire m.id m.status target)).run =
        (.ok (s.store.retire m.id m.status target s.now).1,
          { s.asked with archive := (s.store.retire m.id m.status target s.now).2 }) := rfl
    rw [retireChecked, Server.run_bind_ok hcheck, Server.run_bind_ok hasked, hretire]
    rfl

theorem frameOf_move (m : Message) (target : Status) (now : Instant) (actor : UserId) {news : News}
    (h : news ≠ .stored) : (m.move target now).frameOf actor news = m.frameOf actor news := by
  cases news with
  | stored => exact absurd rfl h
  | recalled | deleted => rfl

theorem run_notify (s : Server Backend.memory) (m : Message) (target : Status) (now : Instant) (actor : UserId)
    {news : News} (h : news ≠ .stored) : s.run (notify (m.move target now) actor news.kind).run = (.ok (),
      { s with hub := (s.hub.send (m.counterpart actor) (m.frameOf actor news) s.tick).2 }) := by
  rw [← frameOf_move m target now actor h]
  cases news with
  | stored => exact absurd rfl h
  | recalled | deleted => rfl

theorem decided_of_steps (h : s.store.Sound) (hp : s.store.Pointed) (hc : s.store.Counted) (hub : s.hub.Sound)
    (hnew : target.isUnread = false) {check : Message → Action Unit} {next : Message → Action α} {n : Nat}
    (hcheck : ∀ m, s.asked.run (check m).run = (verdict (faults m), s.asked))
    (hnext : ∀ m now (s : Server Backend.memory), faults m = [] → s.run (next (m.move target now)).run =
      (.ok (answer (m.move target now)),
        { s with hub := (s.hub.send (m.counterpart user) (m.frameOf user news) s.tick).2 })) :
    Decided s id faults target user news answer
      (s.run (existing id >>= fun m => retireChecked check target (n + 1) m >>= next).run) := by
  have hfound {m : Message} (hm : m ∈ s.store.messages) (hid : m.id = id) :
      s.run (existing id).run = (.ok m, s.asked) := by
    rw [run_existing, ← hid, h.message?_eq hm]
    rfl
  have hretire {m : Message} (hm : m ∈ s.store.messages) :
      s.asked.run (retireChecked check target (n + 1) m).run = _ :=
    run_retireChecked (s := s.asked) h hm (hcheck m) n
  constructor
  · intro hnone
    have hmissing : s.run (existing id).run = (.error .notFound, s.asked) := by
      rw [run_existing, show s.store.message? id = none from List.find?_eq_none.mpr (by simpa using hnone)]
      rfl
    exact Server.run_bind_error hmissing _
  · intro m hm hid f hf
    obtain ⟨fs, hfaults⟩ := List.head?_eq_some_iff.mp hf
    rw [Server.run_bind_ok (hfound hm hid)]
    refine Server.run_bind_error ?_ _
    rw [hretire hm, hfaults]
  · intro m hm hid hfaults
    have happlied := hretire hm
    rw [hfaults] at happlied
    refine ⟨_, _, _, ?_, Store.onlyRetired h hp hc hm hnew s.asked.now, rfl, hub.fanout_send _ _ _⟩
    rw [Server.run_bind_ok (hfound hm hid), Server.run_bind_ok happlied, hnext m _ _ hfaults]
    rfl

theorem checks_eq {window : Milliseconds} (fits : window ≤ greatestWindow) (user : UserId) (m : Message)
    (now : Instant) : (checkRecall window user m).bind (fun _ => checkAge window m now) =
      verdict (m.recallFaults window user now) := by
  have hfits : ¬greatestWindow < window := Nat.not_lt.mpr fits
  unfold checkRecall checkAge Message.recallFaults
  by_cases hsender : m.sender = user
  · by_cases hage : (window : Int) * 1000000 < now.since m.createdAt <;> cases hs : m.status <;>
      simp [hsender, hage, hfits, Except.bind, verdict]
  · simp [hsender, Except.bind, verdict]

theorem run_recallCheck {settings : MessageSettings} (fits : settings.recallWindow ≤ greatestWindow)
    (user : UserId) (m : Message) (s : Server Backend.memory) : s.run (recallCheck settings user m).run =
      (verdict (m.recallFaults settings.recallWindow user s.recallTime), s) := by
  rw [← checks_eq fits, recallCheck]
  cases checkRecall settings.recallWindow user m <;> rfl

theorem recallMessage_decided {settings : MessageSettings} (fits : settings.recallWindow ≤ greatestWindow)
    (h : s.store.Sound) (hp : s.store.Pointed) (hc : s.store.Counted) (hub : s.hub.Sound) (user : UserId)
    (id : Int) : Decided s id (Message.recallFaults settings.recallWindow user s.recallTime) .recalled user
      .recalled Message.masked (s.run (recallMessage settings user id).run) := by
  refine decided_of_steps h hp hc hub rfl (fun m => run_recallCheck fits user m _) fun m now s hfaults => ?_
  obtain ⟨rfl, -⟩ := Message.recallFaults_eq_nil.mp hfaults
  change s.run (notify (m.move .recalled now) m.sender News.recalled.kind >>= fun _ => _).run = _
  rw [Server.run_bind_ok (run_notify s m .recalled now m.sender (by decide))]
  rfl

theorem deleteMessage_decided (h : s.store.Sound) (hp : s.store.Pointed) (hc : s.store.Counted)
    (hub : s.hub.Sound) (user : UserId) (id : Int) :
    Decided s id (Message.deleteFaults user) .deleted user .deleted (fun _ => ())
      (s.run (deleteMessage user id).run) := by
  have hcheck (m : Message) : s.asked.run (Action.ofExcept (checkDelete user m)).run =
      (verdict (m.deleteFaults user), s.asked) := by
    rw [checkDelete_eq]
    rfl
  refine decided_of_steps h hp hc hub rfl hcheck fun m now s _ => ?_
  change s.run (notify (m.move .deleted now) user News.deleted.kind).run = _
  rw [run_notify s m .deleted now user (by decide)]

end Messaging

namespace System

variable {settings : MessageSettings} {calls : List Call} {server : Server Backend.memory}
  {t : List Event} {s : System}

theorem Asked.named (named : ∀ reader conversation upTo, Call.markRead reader conversation upTo ∈ calls →
      ∃ a b, conversation = Pair.id a b) {reader : UserId} {conversation : String} {upTo : Option Int}
    (h : Asked settings calls (.markRead reader conversation upTo)) : ∃ a b, conversation = Pair.id a b := by
  obtain ⟨c, hc, hask⟩ := h
  cases c with
  | markRead reader' conversation' upTo' =>
    obtain ⟨rfl, rfl, -⟩ := hask
    exact named _ _ _ hc
  | _ => cases hask

/-- **Recalling and deleting decide by what is wrong and touch nothing else.**
However the calls before took turns and whatever the clocks say, a call that
runs alone recalls a message of the user that was not retired and is not older
than the window, or deletes one that the user takes part in. Otherwise it fails
with the first fault. The recipient's row goes down by exactly one, as long as
it can hold its count. -/
theorem retirements_decided (fresh : server.store = .empty) (sound : server.hub.Sound)
    (named : ∀ reader conversation upTo, Call.markRead reader conversation upTo ∈ calls →
      ∃ a b, conversation = Pair.id a b)
    (run : Run Server.Tended (System.start settings calls server) t s)
    (fits : settings.recallWindow ≤ Messaging.greatestWindow) (user : UserId) (id : Int) :
    let recalling := s.server.run (Messaging.recallMessage settings user id).run
    let deleting := s.server.run (Messaging.deleteMessage user id).run
    ((∃ m, recalling.1 = .ok m) ↔ ∃ m ∈ s.store.messages, m.id = id ∧ m.sender = user ∧
      (m.status = .sent ∨ m.status = .delivered ∨ m.status = .read) ∧
        s.server.recallTime.since m.createdAt ≤ (settings.recallWindow : Int) * 1000000) ∧
    (deleting.1 = .ok () ↔ ∃ m ∈ s.store.messages, m.id = id ∧ (m.sender = user ∨ m.recipient = user) ∧
      m.status ≠ .deleted) ∧
    Messaging.Decided s.server id (Message.recallFaults settings.recallWindow user s.server.recallTime) .recalled
      user .recalled Message.masked recalling ∧
    Messaging.Decided s.server id (Message.deleteFaults user) .deleted user .deleted (fun _ => ()) deleting ∧
    (s.store.messages.length < 2 ^ 31 → ∀ m ∈ s.store.messages, m.status.isUnread = true →
      ∀ r ∈ s.store.rows, r.owner = m.recipient → r.peer = m.sender →
        0 < r.unread ∧ Store.wrapCount (r.unread - 1) = r.unread - 1) := by
  intro recalling deleting
  have kept := run.mono fun _ _ h => h.store
  have hsound := kept.sound fresh
  have hpointed : s.store.Pointed :=
    kept.invariant fresh .empty fun s s' hs hp change => hp.change hs change
  have hcounted : s.store.Counted :=
    kept.invariant fresh .empty fun s s' hs hc change => hc.change hs (fun _ _ _ h => h.named named) change
  have hub := run.hub_sound sound
  have hrecall := Messaging.recallMessage_decided fits hsound hpointed hcounted hub user id
  have hdelete := Messaging.deleteMessage_decided hsound hpointed hcounted hub user id
  refine ⟨?_, ?_, hrecall, hdelete, fun few m hm hunread r hr ho hp =>
    hcounted.one_less hsound few hm hunread hr ho hp⟩
  · rw [hrecall.succeeds_iff]
    simp only [Message.recallFaults_eq_nil]
    rfl
  · refine (Unique.exists_iff (p := fun a => deleting.1 = .ok a)).symm.trans (hdelete.succeeds_iff.trans ?_)
    simp only [Message.deleteFaults_eq_nil]
    rfl

/-- A message that is as old as the window, to the nanosecond, is recalled, and
one of two unread messages is left. -/
theorem retirements_decided_at_the_last_moment : ∃ t s,
    Run Server.Tended (System.start {} [.send ⟨1, 2, 1, "one", none⟩, .send ⟨1, 2, 1, "two", none⟩]
      { Server.fresh [] with recallTime := ⟨120, 0⟩ }) t s ∧
    s.store.messages.map (·.createdAt) = [⟨0, 0⟩, ⟨0, 100⟩] ∧ s.store.rows.map (·.unread) = [0, 2] ∧
    ∃ m, (s.server.run (Messaging.recallMessage {} 1 1).run).1 = .ok m ∧
      (s.server.run (Messaging.recallMessage {} 1 1).run).2.store.rows.map (·.unread) = [0, 1] := by
  obtain ⟨t, run⟩ := Run.play .nil [0, 0, 0, 1, 1, 1]
  refine ⟨t, _, run, by decide +kernel, by decide +kernel, ?_⟩
  have named : ∀ reader conversation upTo, Call.markRead reader conversation upTo ∈
      [Call.send ⟨1, 2, 1, "one", none⟩, Call.send ⟨1, 2, 1, "two", none⟩] → ∃ a b, conversation = Pair.id a b := by
    simp
  have decided := retirements_decided rfl (Hub.Sound.start _) named run (by decide) 1 1
  refine (exists_congr fun m => and_iff_left ?_).mpr (decided.1.mpr ?_)
  · decide +kernel
  · decide +kernel

end System
end Parley
