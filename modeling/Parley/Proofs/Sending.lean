/-
A send is all or nothing.

`Messaging.Course` lists how a send can go, whatever it is answered: it is
refused, the users are no friends, storing is given up, or a message is
stored and offered (`Messaging.send_course`). Before an archive that keeps
what it holds when storing fails (`Backend.Keeps`), a send that fails leaves
no trace, and one that succeeds stores one message, however often storing
was tried.
-/
import Parley.Proofs.Delivery
import Parley.Proofs.Dialogue
import Parley.Proofs.Hub.Stream
import Parley.Proofs.Structure

namespace Parley

open Surroundings (Ask signature)

/-! ## Checks -/

/-- All that is wrong with a request, in the order in which it is checked. -/
def SendRequest.faults (settings : MessageSettings) (r : SendRequest) : List Failure :=
  (if r.sender ≤ 0 then [.invalidUserId r.sender] else [])
  ++ (if r.recipient ≤ 0 then [.invalidUserId r.recipient] else [])
  ++ (if (MessageKind.ofInt? r.kind).isNone then [.invalidMessageKind r.kind] else [])
  ++ (if Text.blank r.content then [.emptyContent] else [])
  ++ (if settings.greatestContent < r.content.utf8ByteSize then
    [.contentTooLong settings.greatestContent] else [])

theorem SendRequest.check_of_fault {settings : MessageSettings} {r : SendRequest} {f : Failure}
    (h : (r.faults settings).head? = some f) : r.check settings = .error f := by
  unfold faults at h
  unfold check
  split
  · next hsender => simpa [hsender] using h
  next hsender =>
  split
  · next hrecipient => simpa [hsender, hrecipient] using h
  next hrecipient =>
  split
  · next hkind => simpa [hsender, hrecipient, hkind] using h
  next kind hkind =>
  split
  · next hblank => simpa [hsender, hrecipient, hkind, hblank] using h
  next hblank =>
  split
  · next hsize => simpa [hsender, hrecipient, hkind, hblank, hsize] using h
  · next hsize => simp [hsender, hrecipient, hkind, hblank, hsize] at h

theorem SendRequest.draft_of_check {settings : MessageSettings} {r : SendRequest} {d : Draft}
    (h : r.check settings = .ok d) : r.faults settings = [] ∧ d.sender = r.sender ∧ d.recipient = r.recipient ∧
      MessageKind.ofInt? r.kind = some d.kind ∧ d.content = r.content ∧ d.extra = r.extra.filter (· ≠ "") := by
  unfold check at h
  split at h
  · cases h
  next hsender =>
  split at h
  · cases h
  next hrecipient =>
  split at h
  · cases h
  next kind hkind =>
  split at h
  · cases h
  next hblank =>
  split at h
  · cases h
  next hsize =>
  cases h
  exact ⟨by simp [faults, hsender, hrecipient, hkind, hblank, hsize], rfl, rfl, hkind, rfl, rfl⟩

namespace Messaging

/-! ## How a send can go -/

abbrev Exchange := Program.Exchange signature

/-- How a message that was stored is delivered, and what is answered. -/
inductive Delivery (m : Message) : List Exchange → Message → Prop
  | unheard : Delivery m [⟨.offer m.recipient m.newFrame, false⟩] m
  | noted : Delivery m [⟨.offer m.recipient m.newFrame, true⟩,
      ⟨.archive (.transition m.id .sent .delivered), .ok true⟩] { m with status := .delivered }
  | unnoted {r : Except Failure Bool} (h : r ≠ .ok true) : Delivery m
      [⟨.offer m.recipient m.newFrame, true⟩, ⟨.archive (.transition m.id .sent .delivered), r⟩] m

/-- Attempts to store that fail, one after the other. -/
def failedStores (draft : Draft) (fs : List Failure) : List Exchange :=
  fs.map fun f => ⟨.archive (.store draft), .error f⟩

/-- How a send goes. -/
inductive Course (settings : MessageSettings) (request : SendRequest) :
    List Exchange → Except Failure Message → Prop
  | refused {f : Failure} (h : request.check settings = .error f) : Course settings request [] (.error f)
  | unasked {draft : Draft} {f : Failure} (h : request.check settings = .ok draft) :
    Course settings request [⟨.areFriends draft.sender draft.recipient, .error f⟩] (.error f)
  | strangers {draft : Draft} (h : request.check settings = .ok draft) :
    Course settings request [⟨.areFriends draft.sender draft.recipient, .ok false⟩] (.error .notFriends)
  | unstored {draft : Draft} {conflicts : List Failure} {f : Failure} (h : request.check settings = .ok draft)
    (few : conflicts.length < storeAttempts) (again : ∀ e ∈ conflicts, e.retryable = true)
    (last : f.retryable = true → conflicts.length + 1 = storeAttempts) :
    Course settings request (⟨.areFriends draft.sender draft.recipient, .ok true⟩ ::
      (failedStores draft conflicts ++ [⟨.archive (.store draft), .error f⟩])) (.error f)
  | stored {draft : Draft} {conflicts : List Failure} {m m' : Message} {delivery : List Exchange}
    (h : request.check settings = .ok draft) (few : conflicts.length < storeAttempts)
    (again : ∀ e ∈ conflicts, e.retryable = true) (delivered : Delivery m delivery m') :
    Course settings request (⟨.areFriends draft.sender draft.recipient, .ok true⟩ ::
      (failedStores draft conflicts ++ [⟨.archive (.store draft), .ok m⟩] ++ delivery)) (.ok m')

open Parley.Action (dialogue_bind dialogue_query dialogue_pure dialogue_throw)

theorem storeRetrying_dialogue {draft : Draft} {l : List Exchange} {x : Except Failure Message} :
    ∀ n, (storeRetrying draft n).run.Dialogue l x →
      ∃ conflicts, l = failedStores draft conflicts ++ [⟨.archive (.store draft), x⟩] ∧ conflicts.length ≤ n ∧
        (∀ e ∈ conflicts, e.retryable = true) ∧ ∀ f, x = .error f → f.retryable = true → conflicts.length = n
  | 0, h => by
    obtain ⟨r, l', hdone, rfl⟩ := Program.dialogue_ask h
    obtain ⟨rfl, rfl⟩ := Program.dialogue_done hdone
    exact ⟨[], rfl, Nat.le_refl 0, nofun, fun _ _ _ => rfl⟩
  | n + 1, h => by
    obtain ⟨r, l', hrest, rfl⟩ := dialogue_query h
    cases r with
    | ok m =>
      obtain ⟨rfl, rfl⟩ := dialogue_pure hrest
      exact ⟨[], rfl, Nat.zero_le _, nofun, nofun⟩
    | error f =>
      simp only at hrest
      split at hrest
      · next hretry =>
        obtain ⟨conflicts, rfl, hlength, hagain, hlast⟩ := storeRetrying_dialogue n hrest
        refine ⟨f :: conflicts, rfl, Nat.succ_le_succ hlength, ?_, fun e he hr => ?_⟩
        · exact List.forall_mem_cons.mpr ⟨hretry, hagain⟩
        · rw [List.length_cons, hlast e he hr]
      · next hfinal =>
        obtain ⟨rfl, rfl⟩ := dialogue_throw hrest
        refine ⟨[], rfl, Nat.zero_le _, nofun, fun e he hr => ?_⟩
        cases he
        exact absurd hr hfinal

theorem deliver_dialogue {m : Message} {l : List Exchange} {x : Except Failure Message}
    (h : (deliver m).run.Dialogue l x) : ∃ m', x = .ok m' ∧ Delivery m l m' := by
  obtain ⟨taken, l', hrest, rfl⟩ := dialogue_query h
  cases taken with
  | false =>
    obtain ⟨rfl, rfl⟩ := dialogue_pure hrest
    exact ⟨m, rfl, .unheard⟩
  | true =>
    obtain ⟨r, l', hend, rfl⟩ := dialogue_query hrest
    cases r with
    | error e =>
      obtain ⟨rfl, rfl⟩ := dialogue_pure hend
      exact ⟨m, rfl, .unnoted nofun⟩
    | ok moved =>
      cases moved with
      | false =>
        obtain ⟨rfl, rfl⟩ := dialogue_pure hend
        exact ⟨m, rfl, .unnoted nofun⟩
      | true =>
        obtain ⟨rfl, rfl⟩ := dialogue_pure hend
        exact ⟨_, rfl, .noted⟩

/-- **Whatever it is answered, a send goes in one of these ways.** -/
theorem send_course {settings : MessageSettings} {request : SendRequest} {l : List Exchange}
    {x : Except Failure Message} (h : (send settings request).run.Dialogue l x) :
    Course settings request l x := by
  rcases dialogue_bind h with ⟨f, hcheck, rfl⟩ | ⟨draft, _, asked, hcheck, hasked, rfl⟩
  · obtain ⟨rfl, hf⟩ := Program.dialogue_done hcheck
    exact .refused hf.symm
  obtain ⟨rfl, hdraft⟩ := Program.dialogue_done hcheck
  rcases dialogue_bind hasked with ⟨f, hask, rfl⟩ | ⟨friends, _, rest, hask, hrest, rfl⟩
  · obtain ⟨r, _, hdone, rfl⟩ := Program.dialogue_ask hask
    obtain ⟨rfl, rfl⟩ := Program.dialogue_done hdone
    exact .unasked hdraft.symm
  obtain ⟨r, _, hdone, rfl⟩ := Program.dialogue_ask hask
  obtain ⟨rfl, rfl⟩ := Program.dialogue_done hdone
  cases friends with
  | false =>
    obtain ⟨rfl, rfl⟩ := dialogue_throw hrest
    exact .strangers hdraft.symm
  | true =>
    rcases dialogue_bind hrest with ⟨f, hstore, rfl⟩ | ⟨m, _, delivery, hstore, hdeliver, rfl⟩
    · obtain ⟨conflicts, rfl, hlength, hagain, hlast⟩ := storeRetrying_dialogue _ hstore
      exact .unstored hdraft.symm (Nat.lt_succ_of_le hlength) hagain fun hf => congrArg (· + 1) (hlast f rfl hf)
    · obtain ⟨conflicts, rfl, hlength, hagain, -⟩ := storeRetrying_dialogue _ hstore
      obtain ⟨m', rfl, hdelivery⟩ := deliver_dialogue hdeliver
      exact .stored hdraft.symm (Nat.lt_succ_of_le hlength) hagain hdelivery

/-- The message that was stored at a question. -/
def stored? : Exchange → Option Message
  | ⟨.archive (.store _), .ok m⟩ => some m
  | _ => none

theorem stored?_failedStores {draft : Draft} {fs : List Failure} {e : Exchange}
    (h : e ∈ failedStores draft fs) : e.1 = .archive (.store draft) ∧ stored? e = none := by
  obtain ⟨f, -, rfl⟩ := List.mem_map.mp h
  exact ⟨rfl, rfl⟩

theorem Delivery.stored? {m m' : Message} {l : List Exchange} (h : Delivery m l m') :
    l.filterMap Messaging.stored? = [] := by
  cases h <;> rfl

end Messaging

/-! ## Archives -/

/-- What an archive that holds messages, rows and counters promises: storing
adds the message that it answers with, as sent, or fails and changes nothing,
and moving a message to another status adds and takes away none. -/
structure Backend.Keeps (B : Backend) (held : B.State → Store) : Prop where
  failed : ∀ now draft a f, (B.answer now (.store draft) a).1 = .error f →
    held (B.answer now (.store draft) a).2 = held a
  stored : ∀ now draft a (m : Message), (B.answer now (.store draft) a).1 = .ok m →
    m.draft = draft ∧ m.status = .sent ∧ (held (B.answer now (.store draft) a).2).messages = (held a).messages ++ [m]
  moved : ∀ now id old new a, (held (B.answer now (.transition id old new) a).2).messages.map Message.fixed =
    (held a).messages.map Message.fixed

theorem Store.fixed_transition (s : Store) (id : Int) (old new : Status) (now : Time.Instant) :
    (s.transition id old new now).2.messages.map Message.fixed = s.messages.map Message.fixed := by
  unfold transition
  split
  · split
    · simp only [updateMessage, List.map_map]
      refine List.map_congr_left fun m _ => ?_
      simp only [Function.comp_apply]
      split <;> rfl
    · rfl
  · rfl

/-- An archive in memory that first fails to store as often as it is told to. -/
def Backend.failing : Backend where
  State := Store × List Failure
  answer now q a :=
    match q, a with
    | .store _, (s, f :: fs) => (.error f, (s, fs))
    | q, (s, fs) => let (r, s) := Store.answer now q s; (r, (s, fs))

theorem Backend.failing_keeps : Backend.failing.Keeps Prod.fst where
  failed now draft a f h := by
    obtain ⟨s, _ | ⟨g, fs⟩⟩ := a
    · cases h
    · rfl
  stored now draft a m h := by
    obtain ⟨s, _ | ⟨g, fs⟩⟩ := a
    · obtain rfl : (s.add draft now).1 = m := Except.ok.inj h
      change (s.add draft now).1.draft = draft ∧ (s.add draft now).1.status = .sent ∧
        (s.add draft now).2.messages = s.messages ++ [(s.add draft now).1]
      rw [Store.add_eq]
      exact ⟨rfl, rfl, rfl⟩
    · cases h
  moved now id old new a := a.1.fixed_transition id old new now

namespace Messaging

variable {B : Backend} {held : B.State → Store} {s s' : Server B} {draft : Draft} {m m' : Message}

open Program (Answered)

theorem answered_failedStores (keeps : B.Keeps held) {fs : List Failure}
    (h : Answered Server.answer s (failedStores draft fs) s') :
    held s'.archive = held s.archive ∧ s'.hub = s.hub ∧ s'.tick = s.tick := by
  induction fs generalizing s with
  | nil =>
    obtain rfl := Answered.eq_of_nil h
    exact ⟨rfl, rfl, rfl⟩
  | cons f fs ih =>
    obtain ⟨hfailed, hrest⟩ := Answered.head h
    obtain ⟨hheld, hhub, htick⟩ := ih hrest
    exact ⟨hheld.trans (keeps.failed _ draft _ f hfailed), hhub, htick⟩

theorem answered_delivery (keeps : B.Keeps held) {l : List Exchange} (hd : Delivery m l m')
    (h : Answered Server.answer s l s') (hub : s.hub.Sound) :
    (held s'.archive).messages.map Message.fixed = (held s.archive).messages.map Message.fixed ∧
      (s.hub.Took s'.hub m.recipient m.newFrame ∧
          ⟨.archive (.transition m.id .sent .delivered), .ok true⟩ ∈ l ∧ m' = { m with status := .delivered } ∨
        ¬(s.hub.Took s'.hub m.recipient m.newFrame ∧
          ⟨.archive (.transition m.id .sent .delivered), .ok true⟩ ∈ l) ∧ m' = m) := by
  have htook := hub.send_taken m.recipient m.newFrame s.tick
  cases hd with
  | unheard =>
    obtain ⟨htaken, hrest⟩ := Answered.head h
    obtain rfl := Answered.eq_of_nil hrest
    refine ⟨rfl, .inr ⟨fun harrived => ?_, rfl⟩⟩
    have htaken : (s.hub.send m.recipient m.newFrame s.tick).1 = false := htaken
    exact absurd (htaken.symm.trans (htook.mpr harrived.1)) (by decide)
  | noted =>
    obtain ⟨htaken, hrest⟩ := Answered.head h
    obtain ⟨hmoved, hrest⟩ := Answered.head hrest
    obtain rfl := Answered.eq_of_nil hrest
    exact ⟨keeps.moved _ _ _ _ _, .inl ⟨htook.mp htaken, by simp, rfl⟩⟩
  | unnoted hr =>
    obtain ⟨htaken, hrest⟩ := Answered.head h
    obtain ⟨hmoved, hrest⟩ := Answered.head hrest
    obtain rfl := Answered.eq_of_nil hrest
    refine ⟨keeps.moved _ _ _ _ _, .inr ⟨fun harrived => ?_, rfl⟩⟩
    rcases List.mem_cons.mp harrived.2 with he | he
    · cases he
    · cases List.mem_singleton.mp he
      exact hr rfl

/-! ## Ends -/

variable {settings : MessageSettings} {request : SendRequest} {log : List Exchange}

theorem Course.of_refusal {x : Except Failure Message} {f : Failure} (course : Course settings request log x)
    (h : request.check settings = .error f) : x = .error f ∧ log = [] := by
  cases course with
  | refused h' =>
    cases h.symm.trans h'
    exact ⟨rfl, rfl⟩
  | unasked h' | strangers h' | unstored h' | stored h' => cases h.symm.trans h'

theorem Course.failed {f : Failure} (course : Course settings request log (.error f)) (keeps : B.Keeps held)
    (h : Answered Server.answer s log s') : held s'.archive = held s.archive ∧ s'.hub = s.hub ∧
      ∀ e ∈ log, stored? e = none ∧ e.1.isOffer = false := by
  cases course with
  | refused =>
    obtain rfl := Answered.eq_of_nil h
    exact ⟨rfl, rfl, fun _ he => absurd he List.not_mem_nil⟩
  | unasked =>
    obtain rfl := Answered.eq_of_nil (Answered.head h).2
    exact ⟨rfl, rfl, List.forall_mem_singleton.mpr ⟨rfl, rfl⟩⟩
  | strangers =>
    obtain rfl := Answered.eq_of_nil (Answered.head h).2
    exact ⟨rfl, rfl, List.forall_mem_singleton.mpr ⟨rfl, rfl⟩⟩
  | @unstored draft conflicts f =>
    obtain ⟨between, hconflicts, hgiven⟩ := Answered.append (Answered.head h).2
    obtain ⟨hheld, hhub, -⟩ := answered_failedStores keeps hconflicts
    obtain ⟨hfailed, hrest⟩ := Answered.head hgiven
    obtain rfl := Answered.eq_of_nil hrest
    refine ⟨(keeps.failed _ draft _ f hfailed).trans hheld, hhub, fun e he => ?_⟩
    simp only [List.mem_cons, List.mem_append, List.not_mem_nil, or_false] at he
    rcases he with rfl | he | rfl
    · exact ⟨rfl, rfl⟩
    · obtain ⟨hstore, hnone⟩ := stored?_failedStores he
      exact ⟨hnone, by rw [hstore]; rfl⟩
    · exact ⟨rfl, rfl⟩

/-- What is known of a message when its send has succeeded. -/
structure Sent (held : B.State → Store) (s s' : Server B) (log : List Exchange) (stored m : Message) :
    Prop where
  /-- One of the attempts stored the message, and no other attempt stored one. -/
  once : log.filterMap stored? = [stored]
  added : (held s'.archive).messages.map Message.fixed =
    (held s.archive).messages.map Message.fixed ++ [stored.fixed]
  sent : stored.status = .sent
  /-- The message is told to have arrived when a session of its recipient took
  it and the archive noted so, and else as it was stored. -/
  arrived : s.hub.Took s'.hub stored.recipient stored.newFrame ∧
        ⟨.archive (.transition stored.id .sent .delivered), .ok true⟩ ∈ log ∧
        m = { stored with status := .delivered } ∨
      ¬(s.hub.Took s'.hub stored.recipient stored.newFrame ∧
        ⟨.archive (.transition stored.id .sent .delivered), .ok true⟩ ∈ log) ∧ m = stored

theorem mem_course_iff {e : Exchange} {l : List Exchange} (draft : Draft) (conflicts : List Failure)
    (r : Except Failure Bool) (r' : Except Failure Message) (hfriends : ∀ a b, e.1 ≠ .areFriends a b)
    (hstore : ∀ draft, e.1 ≠ .archive (.store draft)) :
    e ∈ (⟨.areFriends draft.sender draft.recipient, r⟩ ::
      (failedStores draft conflicts ++ [⟨.archive (.store draft), r'⟩] ++ l) : List Exchange) ↔ e ∈ l := by
  refine ⟨fun he => ?_, fun he => List.mem_cons_of_mem _ (List.mem_append_right _ he)⟩
  rcases List.mem_cons.mp he with rfl | he
  · exact absurd rfl (hfriends _ _)
  rcases List.mem_append.mp he with he | he
  · rcases List.mem_append.mp he with he | he
    · exact absurd (stored?_failedStores he).1 (hstore _)
    · rw [List.mem_singleton.mp he] at hstore
      exact absurd rfl (hstore _)
  · exact he

theorem Course.succeeded (course : Course settings request log (.ok m)) (keeps : B.Keeps held)
    (h : Answered Server.answer s log s') (hub : s.hub.Sound) :
    ∃ stored, request.check settings = .ok stored.draft ∧ Sent held s s' log stored m := by
  cases course with
  | @stored draft conflicts stored _ delivery hcheck _ _ hdelivery =>
    obtain ⟨behind, htried, hdelivered⟩ := Answered.append (Answered.head h).2
    obtain ⟨between, hfailed, hstore⟩ := Answered.append htried
    obtain ⟨hheld, hhub, -⟩ := answered_failedStores keeps hfailed
    obtain ⟨hstored, hrest⟩ := Answered.head hstore
    obtain rfl := Answered.eq_of_nil hrest
    obtain ⟨hdraft, hsent, hmessages⟩ := keeps.stored _ draft _ stored hstored
    have hubkept : (Server.answer (.archive (.store draft)) between).2.hub = s.hub := hhub
    obtain ⟨hfixed, harrived⟩ := answered_delivery keeps hdelivery hdelivered (hubkept ▸ hub)
    rw [hubkept] at harrived
    refine ⟨stored, hdraft ▸ hcheck, ?_, ?_, hsent, ?_⟩
    · have hnone : (failedStores draft conflicts).filterMap stored? = [] :=
        List.filterMap_eq_nil_iff.mpr fun e he => (stored?_failedStores he).2
      rw [List.filterMap_cons_none rfl, List.filterMap_append, List.filterMap_append, hnone, hdelivery.stored?]
      rfl
    · have hadded := congrArg (List.map Message.fixed) hmessages
      rw [List.map_append, hheld] at hadded
      exact hfixed.trans hadded
    · have hlog := mem_course_iff draft conflicts (l := delivery)
        (e := ⟨.archive (.transition stored.id .sent .delivered), .ok true⟩) (.ok true) (.ok stored) nofun nofun
      rcases harrived with ⟨htook, hnoted, rfl⟩ | ⟨hnot, rfl⟩
      · exact .inl ⟨htook, hlog.mpr hnoted, rfl⟩
      · exact .inr ⟨fun hboth => hnot ⟨hboth.1, hlog.mp hboth.2⟩, rfl⟩

/-- **A send is all or nothing, and delivery never fails it.** -/
theorem send_all_or_nothing (keeps : B.Keeps held) (settings : MessageSettings) (request : SendRequest)
    (s : Server B) (hub : s.hub.Sound) :
    let program := (send settings request).run
    let log := program.exchanges Server.answer s
    let s' := (s.run program).2
    (∀ f, (request.faults settings).head? = some f → (s.run program).1 = .error f ∧ log = []) ∧
    (∀ f, (s.run program).1 = .error f → held s'.archive = held s.archive ∧ s'.hub = s.hub ∧
      ∀ e ∈ log, stored? e = none ∧ e.1.isOffer = false) ∧
    ∀ m, (s.run program).1 = .ok m → ∃ stored, request.check settings = .ok stored.draft ∧
      Sent held s s' log stored m := by
  intro program log s'
  have hanswered : Answered Server.answer s log s' := Program.answered_run _ _ _
  have hcourse : Course settings request log (s.run program).1 := send_course (Program.dialogue_run _ _ _)
  exact ⟨fun f hf => hcourse.of_refusal (SendRequest.check_of_fault hf),
    fun f hf => (hf ▸ hcourse).failed keeps hanswered, fun m hm => (hm ▸ hcourse).succeeded keeps hanswered hub⟩

/-- A server whose archive fails to store once, where the recipient has a session. -/
def contended : Server Backend.failing :=
  let s := Server.start {} ⟨fun _ _ => .ok true, fun user => .ok ⟨user, "", ""⟩⟩
    (Store.empty, [.transactionConflict "deadlock"]) ⟨0, 0⟩
  { s with hub := (Hub.start {} 0).after [.command 0 (.register 2 false)] }

/-- A message that was stored at the second attempt is stored once, and arrives. -/
theorem send_all_or_nothing_of_conflict :
    let program := (send {} ⟨1, 2, 1, "hello", none⟩).run
    Backend.failing.Keeps Prod.fst ∧ contended.hub.Sound ∧ ∃ m stored, (contended.run program).1 = .ok m ∧
      m.status = .delivered ∧ Sent Prod.fst contended (contended.run program).2
        (program.exchanges Server.answer contended) stored m := by
  intro program
  have hub : contended.hub.Sound := (Hub.Sound.start {}).after _
  have hstatus : (contended.run program).1.map (·.status) = .ok .delivered := by decide +kernel
  obtain ⟨m, hm, hdelivered⟩ : ∃ m, (contended.run program).1 = .ok m ∧ m.status = .delivered := by
    cases hresult : (contended.run program).1 with
    | error f => rw [hresult] at hstatus; cases hstatus
    | ok m => rw [hresult] at hstatus; exact ⟨m, rfl, Except.ok.inj hstatus⟩
  obtain ⟨-, -, hsent⟩ := send_all_or_nothing Backend.failing_keeps {} ⟨1, 2, 1, "hello", none⟩ contended hub
  obtain ⟨stored, -, hstored⟩ := hsent m hm
  exact ⟨Backend.failing_keeps, hub, m, stored, hm, hdelivered, hstored⟩

end Messaging
end Parley
