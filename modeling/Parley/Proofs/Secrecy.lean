/-
What a retired message said is never seen again.

Two servers that differ only in what their recalled and deleted messages
say are served alike: every call has the same outcome and leaves the same
frames in the queues (`Server.Paired.perform`). A call may see the message
itself, in finding and retiring it, so the two programs go on with messages
that are only alike; what they do with them, a check, a notice and an
answer, does not tell the difference.
-/
import Parley.Proofs.LastMessage
import Parley.Proofs.Store.Alike

namespace Parley

open Time (Instant)

namespace Surroundings

/-- A question to the archive that keeps messages alike. -/
def Lawful : Ask → Prop
  | .archive q => Store.Lawful q
  | _ => True

/-- Two answers that agree in what participants may see. -/
def Matches : (q : Ask) → (r r' : signature.Reply q) → Prop
  | .archive q, r, r' => Archive.Matches q r r'
  | _, r, r' => r' = r

/-- A question whose answer shows no stored message. -/
def Plain : Ask → Prop
  | .archive (.find _) | .archive (.retire _ _ _) | .archive (.history _ _ _) => False
  | _ => True

theorem Plain.same {q : Ask} (hq : Plain q) {r r' : signature.Reply q} (h : Matches q r r') :
    Truthful q r ∧ r' = r := by
  cases q with
  | archive q =>
    cases q with
    | find | retire | history => exact hq.elim
    | _ => exact ⟨trivial, h⟩
  | _ => exact ⟨trivial, h⟩

end Surroundings

open Surroundings (Lawful Matches Plain)

/-! ## Calls -/

theorem Call.MayAsk.lawful {settings : MessageSettings} {c : Call} {q : Surroundings.Ask}
    (h : c.MayAsk settings q) : Lawful q := by
  cases q with
  | archive q => exact System.Asked.lawful ⟨c, List.mem_singleton_self c, h⟩
  | _ => trivial

namespace Messaging

open Parley.Action (Both agree_pure agree_throw agree_bind agree_archive)

variable {settings : MessageSettings} {m m' : Message}

theorem agree_self {α : Type} {x : Action α} {Q : Except Failure α → Prop}
    (h : x.run.Obeys (fun q => Plain q ∧ Lawful q) Truthful Q) {E : α → α → Prop}
    (hE : ∀ a, Q (.ok a) → E a a) : x.run.Agree Lawful Matches (Both E) x.run := by
  refine (h.agree (fun q hq => hq.2) fun q r r' hq hr => hq.1.same hr).mono ?_
  rintro (e | a) _ ⟨rfl, hQ⟩
  · exact rfl
  · exact hE a hQ

theorem existing_agree (id : Int) :
    (existing id).run.Agree Lawful Matches (Both Message.Alike) (existing id).run := by
  refine agree_bind (agree_archive (q := .find id) (G := Option.Rel Message.Alike) trivial ?_)
    fun found found' h => ?_
  · rintro r r' ⟨found, found', rfl, rfl, h⟩
    exact h
  · cases h with
    | some h => exact agree_pure h
    | none => exact agree_throw

theorem retireChecked_agree {check : Message → Action Unit} {target : Status}
    (ht : target = .recalled ∨ target = .deleted)
    (hcheck : ∀ m, (check m).run.Agree Lawful Matches
      (Both fun _ _ => m.status.canBecome target = true) (check m).run)
    (same : ∀ m m', m.Alike m' → check m' = check m) :
    ∀ n m m', m.Alike m' → (retireChecked check target n m).run.Agree Lawful Matches
      (Both fun m m' => m.Alike m' ∧ m.status = target) (retireChecked check target n m').run
  | 0, m, m', h => by
    unfold retireChecked
    rw [h.status]
    exact agree_throw
  | n + 1, m, m', h => by
    unfold retireChecked
    rw [same m m' h, h.id, h.status]
    refine agree_bind (hcheck m) fun _ _ hbecomes => ?_
    refine agree_bind (agree_archive (q := .retire m.id m.status target)
      (G := Retirement.Alike target) ⟨hbecomes, ht⟩ ?_) fun x x' hx => ?_
    · rintro r r' ⟨x, x', rfl, rfl, hx⟩
      exact hx
    · cases hx with
      | applied h hs => exact agree_pure ⟨h, hs⟩
      | stale h => exact retireChecked_agree ht hcheck same n _ _ h
      | missing => exact agree_throw

theorem notify_alike (h : m.Alike m') (actor : UserId) (kind : String) :
    notify m' actor kind = notify m actor kind := by
  unfold notify Message.counterpart
  rw [h.id, h.conversation, h.sender, h.recipient]

theorem notify_agree (m : Message) (actor : UserId) (kind : String) :
    (notify m actor kind).run.Agree Lawful Matches (Both Eq) (notify m actor kind).run :=
  agree_self (notify_obeys fun _ => ⟨trivial, trivial⟩) fun _ _ => rfl

theorem recallCheck_alike (h : m.Alike m') (user : UserId) :
    recallCheck settings user m' = recallCheck settings user m := by
  unfold recallCheck checkRecall checkAge
  rw [h.sender, h.status, h.createdAt]

theorem recallMessage_agree (user : UserId) (id : Int) :
    (recallMessage settings user id).run.Agree Lawful Matches (Both Eq)
      (recallMessage settings user id).run := by
  refine agree_bind (existing_agree id) fun m m' h => ?_
  refine agree_bind (retireChecked_agree (.inl rfl) (fun m => ?_)
    (fun m m' h => recallCheck_alike h user) _ m m' h) fun m m' h => ?_
  · exact agree_self (recallCheck_obeys ⟨trivial, trivial⟩) fun _ hc => hc rfl
  · obtain ⟨h, hs⟩ := h
    rw [h.sender, notify_alike h]
    refine agree_bind (notify_agree _ _ _) fun _ _ _ => agree_pure ?_
    exact (h.masked (by simp [hs])).symm

theorem deleteMessage_agree (user : UserId) (id : Int) :
    (deleteMessage user id).run.Agree Lawful Matches (Both Eq) (deleteMessage user id).run := by
  refine agree_bind (existing_agree id) fun m m' h => ?_
  refine agree_bind (retireChecked_agree (.inr rfl) (fun m => ?_) (fun m m' h => ?_) _ m m' h)
    fun m m' h => ?_
  · exact agree_self (Action.obeys_ofExcept (Q := fun x => x = checkDelete user m) rfl)
      fun _ hc => checkDelete_ok hc.symm
  · unfold checkDelete Message.isParticipant
    rw [h.sender, h.recipient, h.status]
  · rw [notify_alike h.1]
    exact notify_agree _ _ _

theorem historyPage_congr {l l' : List Message} (h : l'.map Message.masked = l.map Message.masked)
    (limit : Int) :
    HistoryPage.mk ((l.take limit.toNat).reverse.map Message.masked) (limit < l.length) =
      ⟨(l'.take limit.toNat).reverse.map Message.masked, limit < l'.length⟩ := by
  have hlength : l'.length = l.length := by simpa using congrArg List.length h
  simp only [List.map_reverse, List.map_take, h, hlength]

theorem history_agree (viewer : UserId) (conversation : String) (before limit : Option Int) :
    (history viewer conversation before limit).run.Agree Lawful Matches (Both Eq)
      (history viewer conversation before limit).run := by
  refine agree_bind (agree_self participating_obeys fun _ _ => rfl) fun _ _ _ => ?_
  refine agree_bind (agree_archive (q := .history _ _ _)
    (G := fun l l' : List Message => l'.map Message.masked = l.map Message.masked) trivial ?_)
    fun l l' h => agree_pure (historyPage_congr h _)
  rintro r r' ⟨l, l', rfl, rfl, h⟩
  exact h

end Messaging

/-- **Every call goes on alike** when it is answered alike. -/
theorem Call.agree (settings : MessageSettings) (c : Call) :
    (c.action settings).run.Agree Lawful Matches (Action.Both Eq) (c.action settings).run := by
  have plain (h : ∀ q, c.MayAsk settings q → Plain q) :
      (c.action settings).run.Agree Lawful Matches (Action.Both Eq) (c.action settings).run :=
    Messaging.agree_self ((Call.obeys (fun _ _ h => h) settings c).mono
      (fun q hq => ⟨h q hq, hq.lawful⟩) (fun _ _ h => h) fun _ h => h) fun _ _ => rfl
  cases c with
  | history viewer conversation before limit => exact Messaging.history_agree _ _ _ _
  | recallMessage user id => exact Messaging.recallMessage_agree user id
  | deleteMessage user id => exact Messaging.deleteMessage_agree user id
  | _ =>
    refine plain fun q hq => ?_
    cases q with
    | archive q => cases q <;> trivial
    | _ => trivial

/-! ## Servers -/

/-- The same server, but for what its retired messages said. -/
structure Server.Alike (s s' : Server Backend.memory) : Prop where
  store : s.store.Alike s'.store
  rest : s' = { s with archive := s'.archive }

/-- What happens at a server: a call, or a change of everything around the
archive. -/
inductive Deed where
  | call (c : Call)
  | meanwhile (hub : Hub → Hub) (directory : Directory) (now recallTime : Instant) (tick : Tick)

/-- What a call came to. -/
def Outcome : Type := (c : Call) × Except Failure c.Answer

namespace Server

variable {s s' : Server Backend.memory}

/-- The server after one deed after another, with what the calls came to. -/
def perform (settings : MessageSettings) :
    List Deed → Server Backend.memory → List Outcome × Server Backend.memory
  | [], s => ([], s)
  | .call c :: deeds, s =>
    let (r, s) := s.run (c.action settings).run
    let (outcomes, s) := perform settings deeds s
    (⟨c, r⟩ :: outcomes, s)
  | .meanwhile hub directory now recallTime tick :: deeds, s =>
    perform settings deeds { s with
      hub := hub s.hub, directory := directory, now := now, recallTime := recallTime, tick := tick }

theorem Alike.hub (h : s.Alike s') : s'.hub = s.hub := by rw [h.rest]

theorem Alike.answer (hs : s.store.Sound) (h : s.Alike s') {q : Surroundings.Ask} (lawful : Lawful q) :
    Matches q (Server.answer q s).1 (Server.answer q s').1 ∧
      (Server.answer q s).2.Alike (Server.answer q s').2 := by
  obtain ⟨archive, rfl⟩ : ∃ archive, s' = { s with archive := archive } := ⟨_, h.rest⟩
  cases q with
  | archive q =>
    obtain ⟨hreply, hstore⟩ := h.store.answer hs lawful s.now
    exact ⟨hreply, hstore, rfl⟩
  | _ => exact ⟨rfl, h.store, rfl⟩

/-- Two servers that stay alike, with archives in order. -/
structure Paired (s s' : Server Backend.memory) : Prop where
  sound : s.store.Sound
  pointed : s.store.Pointed
  alike : s.Alike s'

theorem Paired.answer (h : s.Paired s') {q : Surroundings.Ask} (lawful : Lawful q) :
    Matches q (Server.answer q s).1 (Server.answer q s').1 ∧
      (Server.answer q s).2.Paired (Server.answer q s').2 := by
  obtain ⟨hreply, halike⟩ := h.alike.answer h.sound lawful
  cases q with
  | archive q =>
    have change : Store.Change (fun _ => True) s.store (Store.answer s.now q s.store).2 :=
      Store.answer_change h.sound trivial lawful s.now
    exact ⟨hreply, change.sound h.sound, h.pointed.change h.sound change, halike⟩
  | _ => exact ⟨hreply, h.sound, h.pointed, halike⟩

theorem Paired.run (h : s.Paired s') (settings : MessageSettings) (c : Call) :
    (s'.run (c.action settings).run).1 = (s.run (c.action settings).run).1 ∧
      (s.run (c.action settings).run).2.Paired (s'.run (c.action settings).run).2 := by
  obtain ⟨hboth, hpaired⟩ := Program.run_agree (h := Server.answer) (I := Paired)
    (fun _ _ _ lawful h => h.answer lawful) (Call.agree settings c) h
  refine ⟨?_, hpaired⟩
  unfold Server.run
  revert hboth
  cases ((c.action settings).run.run Server.answer s).1 with
  | ok a =>
    cases ((c.action settings).run.run Server.answer s').1 with
    | ok a' => exact fun h : a = a' => h ▸ rfl
    | error e' => exact False.elim
  | error e =>
    cases ((c.action settings).run.run Server.answer s').1 with
    | ok a' => exact False.elim
    | error e' => exact fun h : e' = e => h ▸ rfl

theorem Paired.perform (h : s.Paired s') (settings : MessageSettings) (deeds : List Deed) :
    (s'.perform settings deeds).1 = (s.perform settings deeds).1 ∧
      (s.perform settings deeds).2.Paired (s'.perform settings deeds).2 := by
  induction deeds generalizing s s' with
  | nil => exact ⟨rfl, h⟩
  | cons deed deeds ih =>
    cases deed with
    | call c =>
      obtain ⟨hr, hpaired⟩ := h.run settings c
      obtain ⟨houtcomes, hafter⟩ := ih hpaired
      refine ⟨?_, hafter⟩
      simp only [Server.perform, hr, houtcomes]
    | meanwhile hub directory now recallTime tick =>
      obtain ⟨archive, rfl⟩ : ∃ archive, s' = { s with archive := archive } := ⟨_, h.alike.rest⟩
      exact ih ⟨h.sound, h.pointed, h.alike.store, rfl⟩

end Server

/-! ## Runs -/

theorem Store.Pointed.content {s : Store} (hp : s.Pointed) {r : Conversation} (hr : r ∈ s.rows)
    {content : String} (hc : r.lastContent = some content) :
    content = Message.recalledContent ∨ ∃ m ∈ s.messages, ¬m.IsRetired ∧ m.content = content := by
  rw [(hp.fields hr).2.2, last] at hc
  cases hm : s.newest? r.conversation with
  | none => simp [hm] at hc
  | some m =>
    obtain ⟨hmem, -, hd⟩ := mem_of_newest? hm
    rw [hm, Option.map_some, Option.map_some, Option.some.injEq] at hc
    by_cases hs : m.status = .recalled
    · exact .inl (by rw [← hc]; simp [Message.asLast, Message.shownContent, hs])
    · refine .inr ⟨m, hmem, fun h => h.elim hs hd, ?_⟩
      rw [← hc]
      simp [Message.asLast, Message.shownContent, hs]

namespace System

variable {settings : MessageSettings} {calls : List Call} {server : Server Backend.memory}
  {t : List Event} {s : System}

/-- **What retired messages said makes no difference.** After any run, let
the contents and extras of recalled and deleted messages be others: all
later calls come to the same, the queues of all sessions hold the same
frames, and the archives go on to differ in nothing else. No row shows what
a retired message said. -/
theorem retired_content_hidden (fresh : server.store = .empty)
    (run : Run Server.StoreKept (System.start settings calls server) t s)
    {other : Server Backend.memory} (alike : s.server.Alike other) (deeds : List Deed) :
    (other.perform settings deeds).1 = (s.server.perform settings deeds).1 ∧
    (other.perform settings deeds).2.hub = (s.server.perform settings deeds).2.hub ∧
    (s.server.perform settings deeds).2.Alike (other.perform settings deeds).2 ∧
    ∀ r ∈ (s.server.perform settings deeds).2.store.rows, ∀ content, r.lastContent = some content →
      content = Message.recalledContent ∨
        ∃ m ∈ (s.server.perform settings deeds).2.store.messages,
          ¬m.IsRetired ∧ m.content = content := by
  have hpointed : s.store.Pointed :=
    run.invariant fresh .empty fun s s' hs hp change => hp.change hs change
  have hpaired : s.server.Paired other := ⟨run.sound fresh, hpointed, alike⟩
  obtain ⟨houtcomes, hafter⟩ := hpaired.perform settings deeds
  exact ⟨houtcomes, hafter.alike.hub, hafter.alike, fun r hr content hc =>
    hafter.pointed.content hr hc⟩

end System

/-- The server, if its retired messages all said the same. -/
def Server.retold (content : String) (s : Server Backend.memory) : Server Backend.memory :=
  { s with
    archive := { s.store with
      messages := s.store.messages.map fun m =>
        if m.status = .recalled ∨ m.status = .deleted then { m with content := content } else m } }

theorem Server.alike_retold (content : String) (s : Server Backend.memory) :
    s.Alike (s.retold content) := by
  refine ⟨⟨?_, rfl, rfl, rfl, rfl⟩, rfl⟩
  refine List.forall₂_map_right_iff.mpr (List.forall₂_same.mpr fun m _ => ?_)
  by_cases hm : m.status = .recalled ∨ m.status = .deleted
  · rw [if_pos hm]
    exact .inr ⟨hm, rfl⟩
  · rw [if_neg hm]
    exact .refl m

namespace System

/-- After a recall and a deletion, two archives that tell them differently
serve calls alike. -/
theorem retired_content_hidden_after_recall : ∃ t s,
    Run Server.StoreKept
      (System.start {} [.send ⟨1, 2, 1, "one", none⟩, .send ⟨2, 1, 1, "two", none⟩,
        .send ⟨1, 2, 1, "three", none⟩, .recallMessage 1 1, .deleteMessage 1 2] (Server.fresh [2])) t s ∧
    s.store.messages.map (·.content) = ["one", "two", "three"] ∧
    (s.server.retold "?").store.messages.map (·.content) = ["?", "?", "three"] ∧
    ((s.server.retold "?").perform {} [.call (.history 2 (Pair.id 1 2) none none),
        .call (.deleteMessage 2 3), .call (.conversations 1 none none), .call (.recallMessage 1 1)]).1 =
      (s.server.perform {} [.call (.history 2 (Pair.id 1 2) none none), .call (.deleteMessage 2 3),
        .call (.conversations 1 none none), .call (.recallMessage 1 1)]).1 := by
  obtain ⟨t, run⟩ := Run.play .nil [0, 0, 1, 1, 2, 2, 4, 3, 3, 3, 4, 4]
  refine ⟨t, _, run, by decide +kernel, by decide +kernel, ?_⟩
  exact (retired_content_hidden rfl run (Server.alike_retold "?" _) _).1

end System
end Parley
