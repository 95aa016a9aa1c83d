/-
Calls that take turns before one server.

Each turn answers the next question of one caller, so a question is one
atomic step and the steps of different calls stand in any order. Between
two turns the clocks, the hub, the directories and the sockets may change
as `around` says. A call whose turn has not come has not begun, and one
whose turn never comes again was given up by its client.

`Run.caller_rule` is the rule for one caller: it keeps to what its program
obeys (`Run.obeys`) and asks no more often (`Run.asked_at_most`).
`Run.step_cases` says what a step of a run can do to the archive, and
`Run.store_invariant` follows.
`System.play` takes turns by a schedule.
-/
import Mathlib.Data.List.Pairwise
import Parley.Proofs.Calls
import Parley.Proofs.Store.Shape
import Parley.Server

namespace Parley

/-- The archive in memory of a server. -/
def Server.store (s : Server Backend.memory) : Store := s.archive

/-- Everything but the archive may have changed. -/
def Server.StoreKept (s s' : Server Backend.memory) : Prop := s'.store = s.store

/-- A call under way, with what is left of its program. -/
structure Caller where
  call : Call
  rest : Program Surroundings.signature (Except Failure call.Answer)

/-- A call that has asked nothing yet. -/
def Caller.start (settings : MessageSettings) (c : Call) : Caller := ⟨c, (c.action settings).run⟩

/-- The failure that a call has ended with. -/
def Caller.failure? (c : Caller) : Option Failure :=
  match c.rest with
  | .done (.error f) => some f
  | _ => none

theorem Caller.rest_eq_of_failure? {c : Caller} {f : Failure} (h : c.failure? = some f) :
    c.rest = .done (.error f) := by
  unfold failure? at h
  split at h
  · next hrest => rw [hrest, Option.some.inj h]
  · cases h

/-- Whether a call has ended with success. -/
def Caller.succeeded (c : Caller) : Bool :=
  match c.rest with
  | .done (.ok _) => true
  | _ => false

theorem Caller.rest_eq_of_succeeded {c : Caller} (h : c.succeeded = true) :
    ∃ a, c.rest = .done (.ok a) := by
  unfold succeeded at h
  split at h
  · next a hrest => exact ⟨a, hrest⟩
  · cases h

/-- What a caller asked at its turn, and the answer. -/
structure Event where
  caller : Nat
  question : Surroundings.Ask
  reply : Surroundings.signature.Reply question

theorem Event.eq_of_pairwise {t : List Event} {R : Event → Event → Prop} {e e' : Event}
    (h : t.Pairwise fun e e' => ¬R e e') (symm : ∀ e e', R e e' → R e' e) (he : e ∈ t) (he' : e' ∈ t)
    (hR : R e e') : e = e' := by
  have hsymm : Std.Symm fun e e' => ¬R e e' := ⟨fun e e' hnot hrel => hnot (symm e' e hrel)⟩
  by_contra hne
  exact h.forall he he' hne hR

/-- Callers before a server. -/
structure System where
  callers : List Caller
  server : Server Backend.memory

namespace System

def start (settings : MessageSettings) (calls : List Call) (server : Server Backend.memory) : System :=
  ⟨calls.map (Caller.start settings), server⟩

def store (s : System) : Store := s.server.store

/-- One step: a caller has its turn, or something happens around them. -/
inductive Step (around : Server Backend.memory → Server Backend.memory → Prop) :
    System → Option Event → System → Prop
  | turn {callers : List Caller} {server : Server Backend.memory} {i : Nat} {call : Call}
      {q : Surroundings.Ask}
      {next : Surroundings.signature.Reply q →
        Program Surroundings.signature (Except Failure call.Answer)}
      (h : callers[i]? = some ⟨call, .ask q next⟩) :
      Step around ⟨callers, server⟩ (some ⟨i, q, (Server.answer q server).1⟩)
        ⟨callers.set i ⟨call, next (Server.answer q server).1⟩, (Server.answer q server).2⟩
  | elsewhere {callers : List Caller} {server server' : Server Backend.memory}
      (h : around server server') : Step around ⟨callers, server⟩ none ⟨callers, server'⟩

/-- A run with its events, the latest first. -/
inductive Run (around : Server Backend.memory → Server Backend.memory → Prop) (start : System) :
    List Event → System → Prop
  | nil : Run around start [] start
  | step {t : List Event} {s s' : System} {e : Option Event} (run : Run around start t s)
      (step : Step around s e s') : Run around start (e.toList ++ t) s'

end System

/-! ## Answers -/

theorem Server.answer_truthful (q : Surroundings.Ask) (s : Server Backend.memory) :
    Truthful q (Server.answer q s).1 := by
  cases q with
  | archive q =>
    cases q with
    | find id =>
      change Truthful (.archive (.find id)) (.ok (s.store.message? id))
      cases hm : s.store.message? id with
      | none => trivial
      | some m => exact (Store.mem_of_message? hm).2
    | retire id expected target =>
      change Truthful (.archive (.retire id expected target))
        (.ok (s.store.retire id expected target s.now).1)
      unfold Store.retire
      cases hm : s.store.message? id with
      | none => trivial
      | some m =>
        have hid : m.id = id := (Store.mem_of_message? hm).2
        simp only
        split
        · exact ⟨hid, rfl⟩
        · next hne => exact ⟨hid, hne⟩
    | _ => trivial
  | _ => trivial

namespace System

variable {around : Server Backend.memory → Server Backend.memory → Prop}
  {settings : MessageSettings} {calls : List Call} {server : Server Backend.memory}
  {t : List Event} {start s s' : System} {e : Option Event}

theorem Run.events_truthful (run : Run around start t s) :
    ∀ e ∈ t, Truthful e.question e.reply := by
  induction run with
  | nil => simp
  | step run step ih =>
    cases step with
    | turn h =>
      intro e he
      rcases List.mem_cons.mp he with rfl | he
      · exact Server.answer_truthful _ _
      · exact ih e he
    | elsewhere h => exact ih

/-- What a caller was answered in a trace, as the archive in memory answers. -/
def Told (t : List Event) (i : Nat) (q : Surroundings.Ask) (r : Surroundings.signature.Reply q) : Prop :=
  Truthful q r ∧ ⟨i, q, r⟩ ∈ t

theorem Run.told (run : Run around start t s) {i : Nat} :
    ∀ e ∈ t, e.caller = i → Told t i e.question e.reply := by
  rintro e he rfl
  exact ⟨run.events_truthful e he, he⟩

theorem Run.trans (run : Run around start t s) {t' : List Event} (more : Run around s t' s') :
    Run around start (t' ++ t) s' := by
  induction more with
  | nil => exact run
  | step more step ih =>
    rw [List.append_assoc]
    exact ih.step step

theorem Run.split (run : Run around start t s) {e : Event} (he : e ∈ t) :
    ∃ t₁ t₂ s₁ s₂, Run around start t₁ s₁ ∧ Step around s₁ (some e) s₂ ∧ Run around s₂ t₂ s ∧
      t = t₂ ++ e :: t₁ := by
  induction run with
  | nil => cases he
  | @step t s s' e' run step ih =>
    rcases List.mem_append.mp he with hnew | hold
    · obtain rfl : e' = some e := by simpa using hnew
      exact ⟨t, [], s, s', run, step, .nil, rfl⟩
    · obtain ⟨t₁, t₂, s₁, s₂, before, turn, behind, rfl⟩ := ih hold
      exact ⟨t₁, e'.toList ++ t₂, s₁, s₂, before, turn, behind.step step, (List.append_assoc _ _ _).symm⟩

theorem Step.turn_of {e : Event} (step : Step around s (some e) s') :
    ∃ call next, s.callers[e.caller]? = some ⟨call, .ask e.question next⟩ ∧
      e.reply = (Server.answer e.question s.server).1 ∧
        s'.server = (Server.answer e.question s.server).2 := by
  cases step with
  | turn h => exact ⟨_, _, h, rfl, rfl⟩

variable {around' : Server Backend.memory → Server Backend.memory → Prop}

theorem Step.mono (step : Step around s e s') (h : ∀ a b, around a b → around' a b) :
    Step around' s e s' := by
  cases step with
  | turn hi => exact .turn hi
  | elsewhere helse => exact .elsewhere (h _ _ helse)

theorem Run.mono (run : Run around start t s) (h : ∀ a b, around a b → around' a b) :
    Run around' start t s := by
  induction run with
  | nil => exact .nil
  | step _ step ih => exact ih.step (step.mono h)

/-! ## One caller -/

/-- The rule for one caller: what `J` says of the events so far and of what
is left of its program is kept by its own turns and by all other events. -/
theorem Run.caller_rule {i : Nat} {c : Caller}
    {J : List Event → Program Surroundings.signature (Except Failure c.call.Answer) → Prop}
    (run : Run around start t s) (hi : start.callers[i]? = some c) (first : J [] c.rest)
    (own : ∀ t q next r, J t (.ask q next) → J (⟨i, q, r⟩ :: t) (next r))
    (other : ∀ t e rest, e.caller ≠ i → J t rest → J (e :: t) rest) :
    ∃ rest, s.callers[i]? = some ⟨c.call, rest⟩ ∧ J t rest := by
  induction run with
  | nil => exact ⟨c.rest, hi, first⟩
  | step run step ih =>
    obtain ⟨rest, hi, hrest⟩ := ih
    cases step with
    | elsewhere h => exact ⟨rest, hi, hrest⟩
    | @turn callers server j call q next hj =>
      by_cases hij : j = i
      · subst hij
        cases hj.symm.trans hi
        have hlt := (List.getElem?_eq_some_iff.mp hi).1
        exact ⟨_, List.getElem?_set_self hlt, own _ _ _ _ hrest⟩
      · refine ⟨rest, ?_, other _ _ _ hij hrest⟩
        rw [← hi]
        exact List.getElem?_set_ne hij

theorem Run.length_callers (run : Run around start t s) :
    s.callers.length = start.callers.length := by
  induction run with
  | nil => rfl
  | step run step ih =>
    cases step with
    | turn h => simpa using ih
    | elsewhere h => exact ih

theorem Run.lt_calls (run : Run around (System.start settings calls server) t s) {i : Nat} {c : Caller}
    (hi : s.callers[i]? = some c) : i < calls.length := by
  have := (List.getElem?_eq_some_iff.mp hi).1
  rw [run.length_callers] at this
  simpa [System.start] using this

theorem Run.caller (run : Run around (System.start settings calls server) t s) {i : Nat} {call : Call}
    (hi : calls[i]? = some call) : ∃ rest, s.callers[i]? = some ⟨call, rest⟩ := by
  have hstart : (System.start settings calls server).callers[i]? = some (Caller.start settings call) := by
    simp [System.start, hi]
  obtain ⟨rest, hrest, -⟩ := run.caller_rule (J := fun _ _ => True) hstart trivial
    (fun _ _ _ _ _ => trivial) fun _ _ _ _ _ => trivial
  exact ⟨rest, hrest⟩

theorem Run.call (run : Run around (System.start settings calls server) t s) {i : Nat} {c : Caller}
    (hi : s.callers[i]? = some c) : calls[i]? = some c.call := by
  have hcall := List.getElem?_eq_getElem (run.lt_calls hi)
  obtain ⟨rest, hrest⟩ := run.caller hcall
  rw [Option.some.inj (hi.symm.trans hrest)]
  exact hcall

theorem Run.caller_start (run : Run around (System.start settings calls server) t s) {i : Nat}
    {c : Caller} (hi : s.callers[i]? = some c) :
    (System.start settings calls server).callers[i]? = some (Caller.start settings c.call) := by
  simp [System.start, run.call hi]

theorem Run.failed (run : Run around (System.start settings calls server) t s) {i : Nat} {call : Call}
    (hi : calls[i]? = some call) {f : Failure}
    (hf : s.callers[i]?.bind Caller.failure? = some f) :
    s.callers[i]? = some ⟨call, .done (.error f)⟩ := by
  obtain ⟨rest, hrest⟩ := run.caller hi
  rw [hrest, Option.bind_some] at hf
  obtain rfl : rest = .done (.error f) := Caller.rest_eq_of_failure? hf
  exact hrest

theorem Run.succeeded (run : Run around (System.start settings calls server) t s) {i : Nat} {call : Call}
    (hi : calls[i]? = some call) (h : s.callers[i]?.any Caller.succeeded = true) :
    ∃ a, s.callers[i]? = some ⟨call, .done (.ok a)⟩ := by
  obtain ⟨rest, hrest⟩ := run.caller hi
  rw [hrest, Option.any_some] at h
  obtain ⟨a, rfl⟩ : ∃ a, rest = .done (.ok a) := Caller.rest_eq_of_succeeded h
  exact ⟨a, hrest⟩

theorem Run.obeys (run : Run around (System.start settings calls server) t s) {i : Nat} {call : Call}
    {rest : Program Surroundings.signature (Except Failure call.Answer)}
    (hi : s.callers[i]? = some ⟨call, rest⟩) {P : Surroundings.Ask → Prop}
    {A : (q : Surroundings.Ask) → Surroundings.signature.Reply q → Prop}
    {Q : Except Failure call.Answer → Prop} (obeys : (call.action settings).run.Obeys P A Q)
    (told : ∀ e ∈ t, e.caller = i → A e.question e.reply) : rest.Obeys P A Q := by
  obtain ⟨rest', hrest, hobeys⟩ := run.caller_rule (c := Caller.start settings call)
    (J := fun t rest => (∀ e ∈ t, e.caller = i → A e.question e.reply) →
      Program.Obeys (S := Surroundings.signature) P A Q rest)
    (run.caller_start hi) (fun _ => obeys)
    (fun t q next r hJ told =>
      (hJ fun e he => told e (List.mem_cons_of_mem _ he)).2 r (told _ List.mem_cons_self rfl))
    fun t e rest _ hJ told => hJ fun e he => told e (List.mem_cons_of_mem _ he)
  cases hi.symm.trans hrest
  exact hobeys told

/-- What a caller has asked and what is left of its program ask together no
more of what counts than `n`. -/
def Within (counts : Surroundings.Ask → Bool) (n i : Nat) (t : List Event) {α : Type}
    (rest : Program Surroundings.signature α) : Prop :=
  ∃ left, rest.AsksAtMost counts left ∧
    left + t.countP (fun e => e.caller == i && counts e.question) ≤ n

section

variable {counts : Surroundings.Ask → Bool} {n i : Nat} {α : Type} {q : Surroundings.Ask}
  {next : Surroundings.signature.Reply q → Program Surroundings.signature α}

theorem Within.own (h : Within counts n i t (.ask q next)) (r : Surroundings.signature.Reply q) :
    Within counts n i (⟨i, q, r⟩ :: t) (next r) := by
  obtain ⟨left, hleft, hle⟩ := h
  unfold Within
  rw [List.countP_cons]
  cases hleft with
  | @ask left _ _ hnext =>
    refine ⟨left, hnext r, ?_⟩
    split <;> omega
  | free hq hnext =>
    refine ⟨left, hnext r, ?_⟩
    simpa [hq] using hle

theorem Within.other {rest : Program Surroundings.signature α} {e : Event}
    (h : Within counts n i t rest) (he : e.caller ≠ i) : Within counts n i (e :: t) rest := by
  obtain ⟨left, hleft, hle⟩ := h
  refine ⟨left, hleft, ?_⟩
  simpa [List.countP_cons, he] using hle

end

theorem Run.asked_at_most (run : Run around (System.start settings calls server) t s) {i : Nat}
    {c : Caller} (hi : s.callers[i]? = some c) {counts : Surroundings.Ask → Bool} {n : Nat}
    (h : (c.call.action settings).run.AsksAtMost counts n) :
    t.countP (fun e => e.caller == i && counts e.question) ≤ n := by
  obtain ⟨rest, hrest, left, -, hle⟩ := run.caller_rule (J := fun t rest => Within counts n i t rest)
    (run.caller_start hi) ⟨n, h, Nat.le_refl n⟩ (fun _ _ _ r hJ => hJ.own r) fun _ _ _ he hJ => hJ.other he
  omega

theorem Run.asked_once (run : Run around (System.start settings calls server) t s) {i : Nat}
    {c : Caller} (hi : s.callers[i]? = some c) {counts : Surroundings.Ask → Bool}
    (h : (c.call.action settings).run.AsksAtMost counts 1) {e e' : Event} (he : e ∈ t) (he' : e' ∈ t)
    (hei : e.caller = i) (hei' : e'.caller = i) (hcounts : counts e.question = true)
    (hcounts' : counts e'.question = true) : e = e' := by
  have hle := run.asked_at_most hi h
  rw [List.countP_eq_length_filter] at hle
  have hmem {a : Event} (ha : a ∈ t) (hai : a.caller = i) (hac : counts a.question = true) :
      a ∈ t.filter fun e => e.caller == i && counts e.question :=
    List.mem_filter.mpr ⟨ha, by simp [hai, hac]⟩
  generalize t.filter (fun e => e.caller == i && counts e.question) = asked at hle hmem
  obtain _ | ⟨a, _ | ⟨b, asked⟩⟩ := asked
  · exact absurd (hmem he hei hcounts) List.not_mem_nil
  · rw [List.mem_singleton.mp (hmem he hei hcounts), List.mem_singleton.mp (hmem he' hei' hcounts')]
  · simp at hle

theorem Run.asked_first (run : Run around (System.start settings calls server) t s) {i : Nat}
    {call : Call} {q : Surroundings.Ask}
    {next : Surroundings.signature.Reply q →
      Program Surroundings.signature (Except Failure call.Answer)}
    (hi : s.callers[i]? = some ⟨call, .ask q next⟩) {counts : Surroundings.Ask → Bool}
    (h : (call.action settings).run.AsksAtMost counts 1) (hq : counts q = true) :
    ∀ e ∈ t, e.caller = i → counts e.question = false := by
  have hlt := (List.getElem?_eq_some_iff.mp hi).1
  have hmost := (run.step (.turn hi)).asked_at_most (List.getElem?_set_self hlt) h
  have hnone : t.countP (fun e => e.caller == i && counts e.question) = 0 := by
    simpa [List.countP_cons, hq] using hmost
  intro e he hei
  simpa [hei] using List.countP_eq_zero.mp hnone e he

theorem Run.mayAsk (run : Run around (System.start settings calls server) t s) {i : Nat}
    {call : Call} {q : Surroundings.Ask}
    {next : Surroundings.signature.Reply q →
      Program Surroundings.signature (Except Failure call.Answer)}
    (hi : s.callers[i]? = some ⟨call, .ask q next⟩) :
    call ∈ calls ∧ call.MayAsk settings q :=
  ⟨List.mem_of_getElem? (run.call hi),
    (run.obeys hi (Call.obeys (fun _ _ h => h.1) settings _) run.told).1⟩

theorem Run.ended (run : Run around (System.start settings calls server) t s) {i : Nat}
    {call : Call} {r : Except Failure call.Answer} (hi : s.callers[i]? = some ⟨call, .done r⟩) :
    call.Ends (Told t i) r :=
  run.obeys hi (Call.obeys (fun _ _ h => h.1) settings call) run.told

/-! ## The archive -/

/-- What a step of a run does to the archive: it answers a question that
one of the calls may ask, or it leaves the archive as it is. -/
theorem Run.step_cases (run : Run Server.StoreKept (System.start settings calls server) t s)
    (step : Step Server.StoreKept s e s') :
    (∃ i q, ∃ c ∈ calls, c.MayAsk settings (.archive q) ∧
      e = some ⟨i, .archive q, (Store.answer s.server.now q s.store).1⟩ ∧
      s'.store = (Store.answer s.server.now q s.store).2) ∨
    (s'.store = s.store ∧ ∀ i q r, e ≠ some ⟨i, .archive q, r⟩) := by
  cases step with
  | elsewhere h => exact .inr ⟨h, by simp⟩
  | @turn callers server i call q next hi =>
    obtain ⟨hmem, hask⟩ := run.mayAsk hi
    cases q with
    | archive q => exact .inl ⟨i, q, call, hmem, hask, rfl, rfl⟩
    | _ => exact .inr ⟨rfl, by simp⟩

/-- **What every allowed question keeps of the archive holds after a run.** -/
theorem Run.store_invariant {I : Store → Prop}
    (run : Run Server.StoreKept (System.start settings calls server) t s) (hI : I server.store)
    (answers : ∀ c ∈ calls, ∀ q, c.MayAsk settings (.archive q) → ∀ now s, I s →
      I (Store.answer now q s).2) : I s.store := by
  induction run with
  | nil => exact hI
  | step run step ih =>
    rcases run.step_cases step with ⟨i, q, c, hc, hask, -, hstore⟩ | ⟨hstore, -⟩
    · rw [hstore]
      exact answers c hc q hask _ _ ih
    · rw [hstore]
      exact ih

/-! ## Turns by a schedule -/

/-- The turn of a caller. One that has ended or is not there does nothing. -/
def turn (s : System) (i : Nat) : System :=
  match s.callers[i]? with
  | some ⟨call, .ask q next⟩ =>
    let (reply, server) := Server.answer q s.server
    ⟨s.callers.set i ⟨call, next reply⟩, server⟩
  | _ => s

/-- The turns of a schedule, one after another. -/
def play (s : System) (schedule : List Nat) : System := schedule.foldl turn s

theorem turn_cases (s : System) (i : Nat) : s.turn i = s ∨ ∃ e, Step around s (some e) (s.turn i) := by
  unfold System.turn
  split
  · next h => exact .inr ⟨_, .turn h⟩
  · exact .inl rfl

theorem Run.turn (run : Run around start t s) (i : Nat) : ∃ t', Run around start t' (s.turn i) := by
  rcases turn_cases s i with he | ⟨e, step⟩
  · exact ⟨t, by rwa [he]⟩
  · exact ⟨_, run.step step⟩

theorem Run.play (run : Run around start t s) (schedule : List Nat) :
    ∃ t', Run around start t' (s.play schedule) := by
  induction schedule generalizing t s with
  | nil => exact ⟨t, run⟩
  | cons i schedule ih =>
    obtain ⟨t', run⟩ := run.turn i
    exact ih run

end System

/-- A server with nothing in its archive, where all users are friends and
some have a session. -/
def Server.fresh (online : List UserId) : Server Backend.memory :=
  let s := Server.start {} ⟨fun _ _ => .ok true, fun user => .ok ⟨user, "", ""⟩⟩ Store.empty ⟨0, 0⟩
  { s with hub := online.foldl (fun h user => (h.register user 0).2) s.hub }

end Parley
