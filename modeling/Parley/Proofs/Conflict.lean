/-
Recalling and deleting give up on retired messages only.

A retirement is asked for a message as it was seen (`Call.asks_seen`). What
was seen is still there, as it was or further on, so a retirement that
misses tells a later status (`Run.advancing`). There are five statuses:
after three misses the message was recalled or deleted by others.
-/
import Parley.Proofs.Lifecycle

namespace Parley

open Surroundings (Ask signature)

/-! ## What a call was shown -/

/-- An answer to a lookup or to a retirement that missed showed the message. -/
def Seen (A : (q : Ask) → signature.Reply q → Prop) (id : Int) (m : Message) : Prop :=
  A (.archive (.find id)) (.ok (some m)) ∨
    ∃ old target, A (.archive (.retire id old target)) (.ok (.stale m))

/-- A retirement is asked for a message as it was seen. -/
def AsksSeen (A : (q : Ask) → signature.Reply q → Prop) : Ask → Prop
  | .archive (.retire id old _) => ∃ m, Seen A id m ∧ m.status = old
  | _ => True

/-- A retirement that missed tells a status further on than the one that was
expected, and the archive does not fail. -/
def Advancing : (q : Ask) → signature.Reply q → Prop
  | .archive (.retire _ old _), .ok (.stale m) => old.canBecome m.status = true
  | .archive (.retire _ _ _), .ok .missing => False
  | .archive (.retire _ _ _), .error _ => False
  | .archive (.find _), .error _ => False
  | _, _ => True

/-- What the failure of recalling or deleting a message tells: a conflict is
with a message that was seen recalled or deleted, and a message is missing
that was not found. -/
def GivesUp (A : (q : Ask) → signature.Reply q → Prop) (id : Int) : Failure → Prop
  | .statusConflict current =>
    Status.recalled.toInt ≤ current.toInt ∧ ∃ m, Seen A id m ∧ m.status = current
  | .notFound => A (.archive (.find id)) (.ok none)
  | _ => True

/-- A failure of the check before a retirement. -/
def Failure.IsRefusal : Failure → Prop
  | .statusConflict _ | .notFound => False
  | _ => True

/-- Recalling and deleting one message. -/
def Call.Retires (id : Int) : Call → Prop
  | .recallMessage _ id' => id' = id
  | .deleteMessage _ id' => id' = id
  | _ => False

/-! ## The rounds of retiring -/

namespace Messaging

open Parley.Action (obeys_ofExcept obeys_bind obeys_query obeys_pure asksAtMost_bind)

variable {A : (q : Ask) → signature.Reply q → Prop} {settings : MessageSettings} {user : UserId}
  {id : Int} {m : Message}

theorem GivesUp.of_refusal {f : Failure} (h : f.IsRefusal) : GivesUp A id f := by
  cases f with
  | statusConflict | notFound => exact h.elim
  | _ => trivial

theorem checkRecall_refuses {window : Milliseconds} {f : Failure}
    (h : checkRecall window user m = .error f) : f.IsRefusal := by
  unfold checkRecall at h
  repeat' split at h
  all_goals cases h
  all_goals trivial

theorem checkAge_refuses {window : Milliseconds} {now : Time.Instant} {f : Failure}
    (h : checkAge window m now = .error f) : f.IsRefusal := by
  unfold checkAge at h
  split at h <;> cases h
  trivial

theorem checkDelete_refuses {f : Failure} (h : checkDelete user m = .error f) : f.IsRefusal := by
  unfold checkDelete at h
  repeat' split at h
  all_goals cases h
  all_goals trivial

theorem recallCheck_refuses :
    (recallCheck settings user m).run.Obeys (AsksSeen A) A fun x => ∀ f, x = .error f → f.IsRefusal := by
  refine obeys_bind (Q := fun x => ∀ f, x = .error f → f.IsRefusal)
    (obeys_ofExcept fun _ => checkRecall_refuses) (fun _ _ => ?_) fun e he => ?_
  · exact obeys_query trivial fun now _ => obeys_ofExcept fun _ => checkAge_refuses
  · rintro f ⟨⟩
    exact he e rfl

/-- A message with so many rounds left ends up recalled or deleted if all of
them miss, since each miss tells a later status. -/
theorem retireChecked_gives_up {check : Message → Action Unit} {target : Status}
    (hA : ∀ q r, A q r → Truthful q r ∧ Advancing q r)
    (hcheck : ∀ m, (check m).run.Obeys (AsksSeen A) A fun x => ∀ f, x = .error f → f.IsRefusal)
    {n : Nat} (hid : m.id = id) (hseen : Seen A id m)
    (hrounds : Status.recalled.toInt ≤ m.status.toInt + n) :
    (retireChecked check target n m).run.Obeys (AsksSeen A) A fun x =>
      ∀ f, x = .error f → GivesUp A id f := by
  refine retireChecked_rule
    (K := fun n m => m.id = id ∧ Seen A id m ∧ Status.recalled.toInt ≤ m.status.toInt + n)
    (C := fun _ => True) ?_ (fun _ _ _ _ _ _ _ => nofun) ?_ ?_ ?_ ?_ n m ⟨hid, hseen, hrounds⟩
  · rintro n m ⟨rfl, hseen, -⟩
    refine (hcheck m).imp fun x hx => ⟨fun _ => ⟨trivial, m, hseen, rfl⟩, ?_⟩
    rintro e he f ⟨⟩
    exact GivesUp.of_refusal (hx e he)
  · rintro n m m' ⟨rfl, -, hrounds⟩ hstale
    have hadv : m.status.canBecome m'.status = true := (hA _ _ hstale).2
    rw [Status.canBecome_iff] at hadv
    refine ⟨(hA _ _ hstale).1.1, .inr ⟨_, _, hstale⟩, ?_⟩
    push_cast at hrounds
    omega
  · intro n m _ hmissing
    exact (hA _ _ hmissing).2.elim
  · intro n m e _ hfailed
    exact (hA _ _ hfailed).2.elim
  · rintro m ⟨-, hseen, hrounds⟩ f ⟨⟩
    refine ⟨?_, m, hseen, rfl⟩
    simpa using hrounds

theorem recalled_le_three (s : Status) : Status.recalled.toInt ≤ s.toInt + lifecycleAttempts := by
  cases s <;> decide

theorem lookup_gives_up (hA : ∀ q r, A q r → Truthful q r ∧ Advancing q r) :
    (existing id).run.Obeys (AsksSeen A) A fun x =>
      (∀ m, x = .ok m → m.id = id ∧ Seen A id m) ∧ ∀ f, x = .error f → GivesUp A id f := by
  refine existing_rule trivial (fun m hm => ⟨?_, fun _ => nofun⟩) (fun hnone => ⟨fun _ => nofun, ?_⟩)
    fun e he => (hA _ _ he).2.elim
  · rintro _ ⟨⟩
    exact ⟨(hA _ _ hm).1, .inl hm⟩
  · rintro _ ⟨⟩
    exact hnone

theorem retirement_gives_up {α : Type} {check : Message → Action Unit} {target : Status}
    {next : Message → Action α} (hA : ∀ q r, A q r → Truthful q r ∧ Advancing q r)
    (hcheck : ∀ m, (check m).run.Obeys (AsksSeen A) A fun x => ∀ f, x = .error f → f.IsRefusal)
    (hnext : ∀ m, (next m).run.Obeys (AsksSeen A) A fun x => ∀ f, x ≠ .error f) :
    (existing id >>= fun m => retireChecked check target lifecycleAttempts m >>= next).run.Obeys
      (AsksSeen A) A fun x => ∀ f, x = .error f → GivesUp A id f := by
  refine obeys_bind (lookup_gives_up hA) (fun m hm => ?_) fun e he => ?_
  · obtain ⟨hid, hseen⟩ := hm.1 m rfl
    refine obeys_bind (retireChecked_gives_up hA hcheck hid hseen (recalled_le_three _))
      (fun m' _ => ?_) fun e he => ?_
    · exact (hnext m').imp fun x hx f hf => absurd hf (hx f)
    · rintro f ⟨⟩
      exact he e rfl
  · rintro f ⟨⟩
    exact he.2 e rfl

theorem recallMessage_gives_up (hA : ∀ q r, A q r → Truthful q r ∧ Advancing q r) :
    (recallMessage settings user id).run.Obeys (AsksSeen A) A fun x =>
      ∀ f, x = .error f → GivesUp A id f :=
  retirement_gives_up hA (fun _ => recallCheck_refuses) fun _ =>
    obeys_bind (notify_obeys fun _ => trivial) (fun _ _ => obeys_pure fun _ => nofun)
      fun _ he => nomatch he

theorem deleteMessage_gives_up (hA : ∀ q r, A q r → Truthful q r ∧ Advancing q r) :
    (deleteMessage user id).run.Obeys (AsksSeen A) A fun x => ∀ f, x = .error f → GivesUp A id f :=
  retirement_gives_up hA (fun _ => obeys_ofExcept fun _ => checkDelete_refuses) fun _ =>
    (notify_obeys fun _ => trivial).imp fun _ hx _ => hx ▸ nofun

/-! ## How often they ask -/

variable {counts : Ask → Bool} {check : Message → Action Unit} {target : Status}

theorem existing_atMost : (existing id).run.AsksAtMost counts 1 := by
  refine .ask fun r => ?_
  cases r with
  | error e => exact .done
  | ok m? => cases m? <;> exact .done

theorem retireChecked_atMost (hcheck : ∀ m, (check m).run.AsksAtMost counts 0) :
    ∀ n m, (retireChecked check target n m).run.AsksAtMost counts n
  | 0, _ => .done
  | n + 1, m => by
    refine (asksAtMost_bind (n := n + 1) (hcheck m) fun _ => .ask fun r => ?_).mono (by omega)
    cases r with
    | error e => exact .done
    | ok retirement =>
      cases retirement with
      | applied m' => exact .done
      | stale m' => exact retireChecked_atMost hcheck n m'
      | missing => exact .done

theorem retirement_atMost {α : Type} {next : Message → Action α} {j k : Nat}
    (hfind : (existing id).run.AsksAtMost counts j)
    (hrounds : ∀ m, (retireChecked check target lifecycleAttempts m).run.AsksAtMost counts k)
    (hnext : ∀ m, (next m).run.AsksAtMost counts 0) :
    (existing id >>= fun m => retireChecked check target lifecycleAttempts m >>= next).run.AsksAtMost
      counts (j + k) :=
  asksAtMost_bind hfind fun m => asksAtMost_bind (n := 0) (hrounds m) hnext

theorem notify_asks_none (hoffer : ∀ u frame, counts (.offer u frame) = false) {actor : UserId}
    {kind : String} : (notify m actor kind).run.AsksAtMost counts 0 :=
  (notify_obeys fun _ => hoffer _ _).asksAtMost

end Messaging

/-! ## The calls -/

open Messaging in
/-- **Recalling and deleting give up as their rounds do.** -/
theorem Call.gives_up {A : (q : Ask) → signature.Reply q → Prop}
    (hA : ∀ q r, A q r → Truthful q r ∧ Advancing q r) (settings : MessageSettings) {c : Call} {id : Int}
    (hc : c.Retires id) : (c.action settings).run.Obeys (AsksSeen A) A fun x =>
      ∀ f, x = .error f → GivesUp A id f := by
  cases c with
  | recallMessage user id' =>
    obtain rfl : id' = id := hc
    exact recallMessage_gives_up hA
  | deleteMessage user id' =>
    obtain rfl : id' = id := hc
    exact deleteMessage_gives_up hA
  | _ => exact hc.elim

theorem Call.asks_seen {A : (q : Ask) → signature.Reply q → Prop}
    (hA : ∀ q r, A q r → Truthful q r ∧ Advancing q r) (settings : MessageSettings) (c : Call) :
    (c.action settings).run.Obeys (AsksSeen A) A fun _ => True := by
  by_cases hc : ∃ id, c.Retires id
  · obtain ⟨id, hc⟩ := hc
    exact (Call.gives_up hA settings hc).imp fun _ _ => trivial
  · refine (Call.obeys (fun q r h => (hA q r h).1) settings c).mono (fun q hq => ?_) (fun _ _ h => h)
      fun _ _ => trivial
    cases q with
    | archive q =>
      cases q with
      | retire id old new =>
        cases c with
        | recallMessage | deleteMessage => exact absurd ⟨_, rfl⟩ hc
        | _ => exact hq.elim
      | _ => trivial
    | _ => trivial

/-- Whether a question is a retirement. -/
def Surroundings.Ask.isRetirement : Ask → Bool
  | .archive (.retire _ _ _) => true
  | _ => false

/-- Whether a question is a lookup. -/
def Surroundings.Ask.isLookup : Ask → Bool
  | .archive (.find _) => true
  | _ => false

theorem Call.asks_atMost (settings : MessageSettings) {c : Call} {id : Int} (hc : c.Retires id)
    {counts : Ask → Bool} {j k : Nat} (htime : counts .time = false)
    (hoffer : ∀ u frame, counts (.offer u frame) = false)
    (hfind : (Messaging.existing id).run.AsksAtMost counts j)
    (hrounds : ∀ check target m,
      (∀ m, (check m).run.Obeys (fun q => counts q = false) (fun _ _ => True) fun _ => True) →
      (Messaging.retireChecked check target Messaging.lifecycleAttempts m).run.AsksAtMost counts k) :
    (c.action settings).run.AsksAtMost counts (j + k) := by
  cases c with
  | recallMessage user id' =>
    obtain rfl : id' = id := hc
    refine Messaging.retirement_atMost hfind (fun m => hrounds _ _ m fun m => ?_) fun m => ?_
    · exact (Messaging.recallCheck_obeys htime).imp fun _ _ => trivial
    · exact Action.asksAtMost_bind (n := 0) (Messaging.notify_asks_none hoffer) fun _ => .done
  | deleteMessage user id' =>
    obtain rfl : id' = id := hc
    refine Messaging.retirement_atMost hfind (fun m => hrounds _ _ m fun m => ?_) fun m => ?_
    · exact Action.obeys_ofExcept trivial
    · exact Messaging.notify_asks_none hoffer
  | _ => exact hc.elim

theorem Call.retirements_atMost (settings : MessageSettings) {c : Call} {id : Int} (hc : c.Retires id) :
    (c.action settings).run.AsksAtMost Ask.isRetirement 3 := by
  have hfind : (Messaging.existing id).run.AsksAtMost Ask.isRetirement 0 :=
    (Messaging.existing_obeys (P := fun q => q.isRetirement = false) rfl).asksAtMost
  exact Call.asks_atMost settings hc rfl (fun _ _ => rfl) hfind fun check target m hcheck =>
    Messaging.retireChecked_atMost (fun m => (hcheck m).asksAtMost) _ m

theorem Call.lookups_atMost (settings : MessageSettings) {c : Call} {id : Int} (hc : c.Retires id) :
    (c.action settings).run.AsksAtMost Ask.isLookup 1 := by
  exact Call.asks_atMost (k := 0) settings hc rfl (fun _ _ => rfl) Messaging.existing_atMost
    fun check target m hcheck =>
      (Messaging.retireChecked_asks (fun _ _ => rfl) hcheck _ m).asksAtMost

/-! ## Runs -/

namespace System

variable {settings : MessageSettings} {calls : List Call} {server : Server Backend.memory}
  {t : List Event} {s s' : System} {e : Option Event} {i : Nat} {id : Int} {m : Message}

theorem Run.seen (run : Run Server.StoreKept (System.start settings calls server) t s)
    (fresh : server.store = .empty) (h : Seen (Told t i) id m) :
    ∃ m', s.store.message? id = some m' ∧ m.Advanced m' := by
  obtain ⟨m', hm', hadv⟩ : ∃ m' ∈ s.store.messages, m.Advanced m' := by
    rcases h with h | ⟨old, target, h⟩
    · exact run.shown fresh _ h.2 .found
    · exact run.shown fresh _ h.2 .stale
  have hid : m.id = id := by
    rcases h with h | ⟨old, target, h⟩
    · exact h.1
    · exact h.1.1
  refine ⟨m', ?_, hadv⟩
  rw [← hid, ← hadv.id]
  exact (run.sound fresh).message?_eq hm'

theorem Run.answer_advancing (run : Run Server.StoreKept (System.start settings calls server) t s)
    (fresh : server.store = .empty) {q : Ask} (hq : AsksSeen (Told t i) q) :
    Advancing q (Server.answer q s.server).1 := by
  cases q with
  | archive q =>
    cases q with
    | retire id old new =>
      obtain ⟨m, hseen, rfl⟩ := hq
      obtain ⟨m', hm', hadv⟩ := run.seen fresh hseen
      change Advancing (.archive (.retire id m.status new))
        (.ok (s.store.retire id m.status new s.server.now).1)
      rcases Store.retire_cases (run.sound fresh) id m.status new s.server.now with
        ⟨hnone, -⟩ | ⟨m'', hm'', rfl, hne, he⟩ | ⟨_, _, _, _, he⟩
      · simp [hnone] at hm'
      · obtain rfl : m'' = m' := by
          rw [(run.sound fresh).message?_eq hm''] at hm'
          exact Option.some.inj hm'
        rw [he]
        exact hadv.status.resolve_left hne
      · rw [he]
        trivial
    | _ => trivial
  | _ => trivial

/-- **Retirements that miss tell a later status**, whoever asks for them. -/
theorem Run.advancing (run : Run Server.StoreKept (System.start settings calls server) t s)
    (fresh : server.store = .empty) : ∀ e ∈ t, Advancing e.question e.reply := by
  induction run with
  | nil => simp
  | @step t s s' e run step ih =>
    cases step with
    | elsewhere h => exact ih
    | @turn callers server' i call q next hi =>
      intro e' he'
      rcases List.mem_cons.mp he' with rfl | he'
      · have hasks := run.obeys hi (Call.asks_seen (fun _ _ h => ⟨h.1, ih _ h.2⟩) settings call) run.told
        exact run.answer_advancing fresh hasks.1
      · exact ih e' he'

/-- **Recalling and deleting give up on retired messages only.** However the
calls take turns, a conflict is answered with `recalled` or `deleted`, and
the message is in that status or a later one. No message is answered to be
missing that was found. At most three retirements are asked for. -/
theorem conflicts_only_when_retired (fresh : server.store = .empty)
    (run : Run Server.StoreKept (System.start settings calls server) t s) {c : Call}
    (hc : c.Retires id) :
    (∀ current, s.callers[i]? = some ⟨c, .done (.error (.statusConflict current))⟩ →
      (current = .recalled ∨ current = .deleted) ∧
      ∃ m, s.store.message? id = some m ∧ (m.status = .recalled ∨ m.status = .deleted) ∧
        (m.status = current ∨ current.canBecome m.status = true)) ∧
    (s.callers[i]? = some ⟨c, .done (.error .notFound)⟩ →
      ∀ m, ⟨i, .archive (.find id), .ok (some m)⟩ ∉ t) ∧
    (∀ rest, s.callers[i]? = some ⟨c, rest⟩ →
      t.countP (fun e => e.caller == i && e.question.isRetirement) ≤ 3) := by
  have gives_up {f : Failure} (hi : s.callers[i]? = some ⟨c, .done (.error f)⟩) :
      GivesUp (Told t i) id f :=
    run.obeys hi (Call.gives_up (fun _ _ h => ⟨h.1, run.advancing fresh _ h.2⟩) settings hc) run.told f rfl
  refine ⟨fun current hi => ?_, fun hi m hfound => ?_, fun rest hi =>
    run.asked_at_most hi (Call.retirements_atMost settings hc)⟩
  · obtain ⟨hle, m, hseen, rfl⟩ := gives_up hi
    obtain ⟨m', hm', hadv⟩ := run.seen fresh hseen
    exact ⟨Status.retired_of_le hle, m', hm',
      Status.retired_of_le (Int.le_trans hle (Status.toInt_le hadv.status)), hadv.status⟩
  · -- The lookup would have been answered twice.
    have hnone : ⟨i, .archive (.find id), .ok none⟩ ∈ t := (gives_up hi).2
    have := run.asked_once hi (Call.lookups_atMost settings hc) hfound hnone rfl rfl rfl rfl
    cases this

/-- A recall that misses three times: the message was delivered, read and
deleted, each time between its look and its retirement. -/
theorem conflicts_only_when_retired_after_three_misses : ∃ t s,
    Run Server.StoreKept
      (System.start {} [.send ⟨1, 2, 1, "hello", none⟩, .recallMessage 1 1,
        .markRead 2 (Pair.id 1 2) none, .deleteMessage 2 1] (Server.fresh [2])) t s ∧
    s.callers[1]? = some ⟨.recallMessage 1 1, .done (.error (.statusConflict .deleted))⟩ ∧
    (∃ m, s.store.message? 1 = some m ∧ m.status = .deleted) ∧
    t.countP (fun e => e.caller == 1 && e.question.isRetirement) ≤ 3 := by
  obtain ⟨t, run⟩ := Run.play .nil [0, 0, 0, 1, 1, 0, 1, 1, 2, 1, 1, 3, 3, 1]
  refine ⟨t, _, run, ?_⟩
  have conflict := run.failed (i := 1) rfl (f := .statusConflict .deleted) (by decide +kernel)
  have hc : (Call.recallMessage 1 1).Retires 1 := rfl
  have given_up := conflicts_only_when_retired (i := 1) rfl run hc
  obtain ⟨-, m, hm, -, hs⟩ := given_up.1 _ conflict
  refine ⟨conflict, ⟨m, hm, ?_⟩, given_up.2.2 _ conflict⟩
  rcases hs with hs | hs
  · exact hs
  · simp [Status.canBecome] at hs

end System
end Parley
