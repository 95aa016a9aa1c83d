/-
Runs in which the archive may fail.

The archive in memory always answers. Another may fail at any question and
then leaves everything as it is, as a conflict of transactions does; the
caller goes on with the failure (`FaultyStep`). What a call asks after a
failure it could have asked without it: it ends, or tries to store again
(`Call.persists`). So whatever happens in a run with failures happens in one
without them, where a caller that failed waits instead (`FaultyRun.shadow`),
and what is shown of the latter holds of the former.
-/
import Parley.Proofs.Turns

namespace Parley

open Surroundings (Ask signature)

/-! ## Programs -/

/-- The archive fails. -/
def Fails : (q : Ask) → signature.Reply q → Prop
  | .archive _, .error _ => True
  | _, _ => False

namespace Program

variable {α β : Type} {E : α → Prop} {E' : β → Prop}

/-- The second program can wait where the archive fails the first, and ask
again whatever that asks later. A program that has ended as `E` says asks
nothing later. -/
inductive Persists (E : α → Prop) : Program signature α → Program signature α → Prop
  | done {a : α} : Persists E (.done a) (.done a)
  | ended {a : α} {p : Program signature α} (h : E a) : Persists E (.done a) p
  | ask {q : Ask} {next next' : signature.Reply q → Program signature α}
    (go : ∀ r, Persists E (next r) (next' r))
    (wait : ∀ r, Fails q r → Persists E (next r) (.ask q next')) :
    Persists E (.ask q next) (.ask q next')

theorem Persists.mono {E' : α → Prop} {p p' : Program signature α} (h : p.Persists E p')
    (hE : ∀ a, E a → E' a) : p.Persists E' p' := by
  induction h with
  | done => exact .done
  | ended h => exact .ended (hE _ h)
  | ask _ _ go wait => exact .ask go wait

theorem Persists.bind {p p' : Program signature α} {f f' : α → Program signature β} (h : p.Persists E p')
    (hf : ∀ a, (f a).Persists E' (f' a)) (hE : ∀ a, E a → ∃ b, f a = .done b ∧ E' b) :
    (p.bind f).Persists E' (p'.bind f') := by
  induction h with
  | done => exact hf _
  | ended h =>
    obtain ⟨b, hdone, hb⟩ := hE _ h
    rw [Program.bind, hdone]
    exact .ended hb
  | ask _ _ go wait => exact .ask go wait

end Program

namespace Action

variable {α β : Type} {E : Except Failure β → Prop}

/-- The action has failed. -/
def HasFailed (r : Except Failure α) : Prop := ∃ e, r = .error e

theorem persists_pure {E : Except Failure α → Prop} {a : α} :
    (pure a : Action α).run.Persists E (pure a : Action α).run := .done

theorem persists_throw {E : Except Failure α → Prop} {e : Failure} :
    (throw e : Action α).run.Persists E (throw e : Action α).run := .done

theorem persists_ofExcept {E : Except Failure α → Prop} {x : Except Failure α} :
    (ofExcept x).run.Persists E (ofExcept x).run := .done

theorem persists_bind {x x' : Action α} {f f' : α → Action β} (h : x.run.Persists HasFailed x'.run)
    (hf : ∀ a, (f a).run.Persists E (f' a).run) (hE : ∀ e, E (.error e)) :
    (x >>= f).run.Persists E (x' >>= f').run := by
  rw [ExceptT.run_bind, ExceptT.run_bind]
  refine h.bind (fun r => ?_) ?_
  · cases r with
    | ok a => exact hf a
    | error e => exact .done
  · rintro _ ⟨e, rfl⟩
    exact ⟨.error e, rfl, hE e⟩

theorem persists_query {q : Ask} {f f' : signature.Reply q → Action β} (hq : ∀ r, ¬Fails q r)
    (hf : ∀ r, (f r).run.Persists E (f' r).run) : (query q >>= f).run.Persists E (query q >>= f').run :=
  .ask hf fun r hr => absurd hr (hq r)

theorem persists_archive (q : Archive.Ask) : (archive q).run.Persists HasFailed (archive q).run := by
  refine .ask (fun r => .done) fun r hr => ?_
  cases r with
  | ok a => exact hr.elim
  | error e => exact .ended ⟨e, rfl⟩

end Action

/-! ## Calls -/

namespace Messaging

open Parley.Action (HasFailed persists_pure persists_throw persists_ofExcept persists_bind persists_query
  persists_archive)

/-- What follows an attempt to store, with so many left. -/
def afterStoring (draft : Draft) : Nat → Except Failure Message → Program signature (Except Failure Message)
  | _, .ok m => .done (.ok m)
  | 0, .error f => .done (.error f)
  | more + 1, .error f => if f.retryable then (storeRetrying draft more).run else .done (.error f)

theorem storeRetrying_run (draft : Draft) (n : Nat) :
    (storeRetrying draft n).run = .ask (.archive (.store draft)) (afterStoring draft n) := by
  cases n with
  | zero => exact congrArg (Program.ask _) (funext fun r => by cases r <;> rfl)
  | succ more =>
    refine congrArg (Program.ask _) (funext fun r => ?_)
    cases r with
    | ok m => rfl
    | error f =>
      change (if f.retryable then storeRetrying draft more else throw f : Action Message).run = _
      simp only [afterStoring]
      split <;> rfl

/-- Where the archive has failed, fewer attempts to store are left. -/
theorem storeRetrying_persists {draft : Draft} {n m : Nat} (h : n ≤ m) :
    (storeRetrying draft n).run.Persists HasFailed (storeRetrying draft m).run := by
  induction n generalizing m with
  | zero =>
    rw [storeRetrying_run, storeRetrying_run]
    refine .ask (fun r => ?_) fun r hr => ?_
    · cases r with
      | ok a => cases m <;> exact .done
      | error f => exact .ended ⟨f, rfl⟩
    · cases r with
      | ok a => exact hr.elim
      | error f => exact .ended ⟨f, rfl⟩
  | succ n ih =>
    obtain ⟨m, rfl⟩ : ∃ m', m = m' + 1 := ⟨m - 1, by omega⟩
    have hwait := ih (Nat.le_of_succ_le h)
    rw [storeRetrying_run draft (m + 1)] at hwait ⊢
    rw [storeRetrying_run draft (n + 1)]
    refine .ask (fun r => ?_) fun r hr => ?_
    · cases r with
      | ok a => exact .done
      | error f =>
        simp only [afterStoring]
        split
        · exact ih (Nat.le_of_succ_le_succ h)
        · exact .done
    · cases r with
      | ok a => exact hr.elim
      | error f =>
        simp only [afterStoring]
        split
        · exact hwait
        · exact .ended ⟨f, rfl⟩

theorem deliver_persists {m : Message} : (deliver m).run.Persists (fun _ => True) (deliver m).run := by
  refine persists_query (fun _ hr => hr.elim) fun taken => ?_
  cases taken with
  | false => exact persists_pure
  | true =>
    refine .ask (fun r => ?_) fun r hr => ?_
    · cases r with
      | error e => exact .done
      | ok moved => cases moved <;> exact .done
    · cases r with
      | error e => exact .ended trivial
      | ok moved => exact hr.elim

theorem send_persists (settings : MessageSettings) (request : SendRequest) :
    (send settings request).run.Persists (fun _ => True) (send settings request).run := by
  refine persists_bind persists_ofExcept (fun draft => ?_) fun _ => trivial
  refine persists_bind (.ask (fun _ => .done) fun _ hr => hr.elim) (fun friends => ?_) fun _ => trivial
  cases friends with
  | false => exact persists_throw
  | true =>
    exact persists_bind (storeRetrying_persists (Nat.le_refl _)) (fun m => deliver_persists)
      fun _ => trivial

theorem existing_persists {id : Int} : (existing id).run.Persists HasFailed (existing id).run := by
  refine persists_bind (persists_archive _) (fun m? => ?_) fun e => ⟨e, rfl⟩
  cases m? with
  | none => exact persists_throw
  | some m => exact persists_pure

theorem notify_persists {m : Message} {actor : UserId} {kind : String} {E : Except Failure Unit → Prop} :
    (notify m actor kind).run.Persists E (notify m actor kind).run :=
  persists_query (fun _ hr => hr.elim) fun _ => persists_pure

theorem retireChecked_persists {check : Message → Action Unit} {target : Status}
    (hcheck : ∀ m, (check m).run.Persists HasFailed (check m).run) : ∀ n m,
    (retireChecked check target n m).run.Persists HasFailed (retireChecked check target n m).run
  | 0, m => persists_throw
  | n + 1, m => by
    refine persists_bind (hcheck m) (fun _ => ?_) fun e => ⟨e, rfl⟩
    refine persists_bind (persists_archive _) (fun retirement => ?_) fun e => ⟨e, rfl⟩
    cases retirement with
    | applied m' => exact persists_pure
    | stale m' => exact retireChecked_persists hcheck n m'
    | missing => exact persists_throw

theorem recallCheck_persists {settings : MessageSettings} {user : UserId} {m : Message} :
    (recallCheck settings user m).run.Persists HasFailed (recallCheck settings user m).run :=
  persists_bind persists_ofExcept (fun _ => persists_query (fun _ hr => hr.elim) fun _ => persists_ofExcept)
    fun e => ⟨e, rfl⟩

theorem participating_persists {conversation : String} {user : UserId} :
    (participating conversation user).run.Persists HasFailed (participating conversation user).run :=
  persists_bind persists_ofExcept (fun _ => persists_pure) fun e => ⟨e, rfl⟩

theorem sharesConversation_persists {user peer : UserId} :
    (sharesConversation user peer).run.Persists HasFailed (sharesConversation user peer).run := by
  unfold sharesConversation
  split
  · exact persists_pure
  · exact persists_bind (persists_archive _) (fun _ => persists_pure) fun e => ⟨e, rfl⟩

end Messaging

open Parley.Action (HasFailed persists_pure persists_throw persists_bind persists_query persists_archive)

theorem Inbox.views_persists : ∀ rows, (Inbox.views rows).run.Persists HasFailed (Inbox.views rows).run
  | [] => persists_pure
  | row :: rows => by
    refine persists_query (fun _ hr => hr.elim) fun profile => ?_
    refine persists_bind (views_persists rows) (fun rest => ?_) fun e => ⟨e, rfl⟩
    cases profile <;> exact persists_pure

/-- **Whatever a call asks behind a failure of the archive, it could ask without it.** -/
theorem Call.persists (settings : MessageSettings) (c : Call) :
    (c.action settings).run.Persists (fun _ => True) (c.action settings).run := by
  cases c with
  | send request => exact Messaging.send_persists settings request
  | history viewer conversation before limit =>
    refine persists_bind Messaging.participating_persists (fun _ => ?_) fun _ => trivial
    exact persists_bind (persists_archive _) (fun _ => persists_pure) fun _ => trivial
  | conversations user page limit =>
    refine persists_bind (persists_archive _) (fun found => ?_) fun _ => trivial
    exact persists_bind (Inbox.views_persists _) (fun _ => persists_pure) fun _ => trivial
  | markRead reader conversation upTo =>
    have hmark := persists_archive (.markRead reader conversation (Messaging.positive? upTo))
    exact persists_bind Messaging.participating_persists (fun _ => hmark.mono fun _ _ => trivial)
      fun _ => trivial
  | recallMessage user id =>
    refine persists_bind Messaging.existing_persists (fun m => ?_) fun _ => trivial
    refine persists_bind (Messaging.retireChecked_persists (fun m => Messaging.recallCheck_persists) _ m)
      (fun m => ?_) fun _ => trivial
    exact persists_bind Messaging.notify_persists (fun _ => persists_pure) fun _ => trivial
  | deleteMessage user id =>
    refine persists_bind Messaging.existing_persists (fun m => ?_) fun _ => trivial
    exact persists_bind (Messaging.retireChecked_persists (fun m => Action.persists_ofExcept) _ m)
      (fun m => Messaging.notify_persists) fun _ => trivial
  | unread user conversation =>
    change (Messaging.unread user conversation).run.Persists _ (Messaging.unread user conversation).run
    have hunread := persists_archive (.unread user (conversation.filter (· ≠ "")))
    unfold Messaging.unread
    simp only
    split
    · exact persists_bind Messaging.participating_persists (fun _ => hunread.mono fun _ _ => trivial)
        fun _ => trivial
    · exact hunread.mono fun _ _ => trivial
  | sharesConversation user peer => exact Messaging.sharesConversation_persists.mono fun _ _ => trivial
  | push request =>
    change (Parley.push request).run.Persists _ (Parley.push request).run
    unfold Parley.push
    split
    · exact persists_throw
    split
    · exact persists_throw
    · exact .ask (fun _ => .done) fun _ hr => hr.elim
  | relay user target event =>
    refine persists_bind Messaging.sharesConversation_persists (fun shared => ?_) fun _ => trivial
    cases shared with
    | false => exact persists_pure
    | true => exact .ask (fun _ => .done) fun _ hr => hr.elim

/-! ## Runs -/

namespace System

variable {around : Server Backend.memory → Server Backend.memory → Prop}
  {settings : MessageSettings} {calls : List Call} {server : Server Backend.memory}
  {t : List Event} {s s' : System} {e : Option Event}

/-- One step where the archive may fail. A failure changes nothing but the
caller, and is no event. -/
inductive FaultyStep (around : Server Backend.memory → Server Backend.memory → Prop) :
    System → Option Event → System → Prop
  | faultless {s s' : System} {e : Option Event} (step : Step around s e s') : FaultyStep around s e s'
  | fault {callers : List Caller} {server : Server Backend.memory} {i : Nat} {call : Call} {q : Archive.Ask}
      {next : signature.Reply (.archive q) → Program signature (Except Failure call.Answer)}
      (h : callers[i]? = some ⟨call, .ask (.archive q) next⟩) (f : Failure) :
      FaultyStep around ⟨callers, server⟩ none ⟨callers.set i ⟨call, next (.error f)⟩, server⟩

/-- A run where the archive may fail, with its events, the latest first. -/
inductive FaultyRun (around : Server Backend.memory → Server Backend.memory → Prop) (start : System) :
    List Event → System → Prop
  | nil : FaultyRun around start [] start
  | step {t : List Event} {s s' : System} {e : Option Event} (run : FaultyRun around start t s)
      (step : FaultyStep around s e s') : FaultyRun around start (e.toList ++ t) s'

/-- The system in which those callers wait that failed in the other. -/
structure Shadows (s shadow : System) : Prop where
  server : shadow.server = s.server
  callers : ∀ (i : Nat) (c : Caller), s.callers[i]? = some c →
    ∃ rest, shadow.callers[i]? = some ⟨c.call, rest⟩ ∧ c.rest.Persists (fun _ => True) rest

theorem Shadows.initial :
    Shadows (System.start settings calls server) (System.start settings calls server) := by
  refine ⟨rfl, fun i c hi => ⟨c.rest, hi, ?_⟩⟩
  obtain ⟨call, -, rfl⟩ := List.mem_map.mp (List.mem_of_getElem? hi)
  exact call.persists settings

theorem eq_of_getElem?_set {callers : List Caller} {i : Nat} {c c' : Caller}
    (h : (callers.set i c')[i]? = some c) : c' = c := by
  have hlt : i < callers.length := by simpa using (List.getElem?_eq_some_iff.mp h).1
  rw [List.getElem?_set_self hlt] at h
  exact Option.some.inj h

theorem Shadows.set {callers callers' : List Caller} {server server' server₁ : Server Backend.memory} {i : Nat}
    {call : Call} {rest rest' : Program signature (Except Failure call.Answer)}
    (h : Shadows ⟨callers, server⟩ ⟨callers', server'⟩) (hi : i < callers'.length)
    (hrest : rest.Persists (fun _ => True) rest') :
    Shadows ⟨callers.set i ⟨call, rest⟩, server₁⟩ ⟨callers'.set i ⟨call, rest'⟩, server₁⟩ := by
  refine ⟨rfl, fun j c hj => ?_⟩
  by_cases hij : i = j
  · subst hij
    obtain rfl := eq_of_getElem?_set hj
    exact ⟨rest', List.getElem?_set_self hi, hrest⟩
  · rw [List.getElem?_set_ne hij]
    exact h.callers j c (by rwa [List.getElem?_set_ne hij] at hj)

/-- **A step without failure is a step of the shadow as well.** -/
theorem Shadows.step {shadow : System} (h : Shadows s shadow) (step : Step around s e s') :
    ∃ shadow', Step around shadow e shadow' ∧ Shadows s' shadow' := by
  obtain ⟨callers', server'⟩ := shadow
  cases step with
  | elsewhere haround =>
    obtain rfl := h.server
    exact ⟨_, .elsewhere haround, rfl, h.callers⟩
  | @turn callers server i call q next hi =>
    obtain rfl := h.server
    obtain ⟨rest, hi', hpersists⟩ := h.callers i _ hi
    have hlt := (List.getElem?_eq_some_iff.mp hi').1
    cases hpersists with
    | ask go _ => exact ⟨_, .turn hi', h.set hlt (go _)⟩

theorem Shadows.wait {shadow : System} (h : Shadows s shadow) (step : FaultyStep around s e s') :
    (∃ shadow', Step around shadow e shadow' ∧ Shadows s' shadow') ∨
      e = none ∧ s'.server = s.server ∧ Shadows s' shadow := by
  cases step with
  | faultless step => exact .inl (h.step step)
  | @fault callers server i call q next hi f =>
    refine .inr ⟨rfl, rfl, h.server, fun j c hj => ?_⟩
    by_cases hij : i = j
    · subst hij
      obtain ⟨rest, hi', hpersists⟩ := h.callers i _ hi
      obtain rfl := eq_of_getElem?_set hj
      cases hpersists with
      | ask _ wait => exact ⟨_, hi', wait _ trivial⟩
    · exact h.callers j c (by rwa [List.getElem?_set_ne hij] at hj)

theorem FaultyRun.shadow (run : FaultyRun around (System.start settings calls server) t s) :
    ∃ shadow, Run around (System.start settings calls server) t shadow ∧ Shadows s shadow := by
  induction run with
  | nil => exact ⟨_, .nil, .initial⟩
  | @step t s s' e run step ih =>
    obtain ⟨shadow, hrun, hshadows⟩ := ih
    rcases hshadows.wait step with ⟨shadow', hstep, hshadows'⟩ | ⟨rfl, -, hshadows'⟩
    · exact ⟨shadow', hrun.step hstep, hshadows'⟩
    · exact ⟨shadow, hrun, hshadows'⟩

theorem FaultyRun.reflects (run : FaultyRun around (System.start settings calls server) t s)
    (step : FaultyStep around s e s') :
    (∃ shadow shadow', Run around (System.start settings calls server) t shadow ∧ Step around shadow e shadow' ∧
      shadow.server = s.server ∧ shadow'.server = s'.server) ∨ e = none ∧ s'.server = s.server := by
  obtain ⟨shadow, hrun, hshadows⟩ := run.shadow
  rcases hshadows.wait step with ⟨shadow', hstep, hshadows'⟩ | ⟨hnone, hserver, -⟩
  · exact .inl ⟨shadow, shadow', hrun, hstep, hshadows.server, hshadows'.server⟩
  · exact .inr ⟨hnone, hserver⟩

variable {first : System}

theorem Run.faultless (run : Run around first t s) : FaultyRun around first t s := by
  induction run with
  | nil => exact .nil
  | step _ step ih => exact ih.step (.faultless step)

theorem FaultyRun.trans (run : FaultyRun around first t s) {t' : List Event} (more : FaultyRun around s t' s') :
    FaultyRun around first (t' ++ t) s' := by
  induction more with
  | nil => exact run
  | step more step ih =>
    rw [List.append_assoc]
    exact ih.step step

theorem FaultyRun.split (run : FaultyRun around first t s) {e : Event} (he : e ∈ t) :
    ∃ t₁ t₂ s₁ s₂, FaultyRun around first t₁ s₁ ∧ FaultyStep around s₁ (some e) s₂ ∧ FaultyRun around s₂ t₂ s ∧
      t = t₂ ++ e :: t₁ := by
  induction run with
  | nil => cases he
  | @step t s s' e' run step ih =>
    rcases List.mem_append.mp he with hnew | hold
    · obtain rfl : e' = some e := by simpa using hnew
      exact ⟨t, [], s, s', run, step, .nil, rfl⟩
    · obtain ⟨t₁, t₂, s₁, s₂, before, turn, behind, rfl⟩ := ih hold
      exact ⟨t₁, e'.toList ++ t₂, s₁, s₂, before, turn, behind.step step, (List.append_assoc _ _ _).symm⟩

/-- The turn of a caller at which the archive fails. -/
def failedTurn (s : System) (i : Nat) (f : Failure) : System :=
  match s.callers[i]? with
  | some ⟨call, .ask (.archive _) next⟩ => ⟨s.callers.set i ⟨call, next (.error f)⟩, s.server⟩
  | _ => s

theorem FaultyRun.failedTurn (run : FaultyRun around first t s) (i : Nat) (f : Failure) :
    FaultyRun around first t (s.failedTurn i f) := by
  unfold System.failedTurn
  split
  · next h => exact run.step (.fault h f)
  · exact run

end System
end Parley
