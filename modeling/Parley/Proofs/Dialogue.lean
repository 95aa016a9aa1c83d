/-
What a program and its surroundings say to each other.

A dialogue of a program lists the questions it asks with the answers it
gets, up to the value it ends with. Dialogues of two programs one after the
other are put together from theirs (`dialogue_bind`), so what a program can
say at all is found part by part and without a state. A run has one dialogue
(`dialogue_run`), in which the surroundings answer each question from the
state that the one before left (`answered_run`).
-/
import Parley.Proofs.Conduct

namespace Parley

namespace Program

variable {S : Signature} {α β σ : Type}

/-- A question and its answer. -/
abbrev Exchange (S : Signature) := (q : S.Ask) × S.Reply q

/-- What is asked and answered until the program ends, and the end. -/
inductive Dialogue : Program S α → List (Exchange S) → α → Prop
  | done {a : α} : Dialogue (.done a) [] a
  | ask {q : S.Ask} {next : S.Reply q → Program S α} {r : S.Reply q} {l : List (Exchange S)} {a : α}
    (rest : Dialogue (next r) l a) : Dialogue (.ask q next) (⟨q, r⟩ :: l) a

variable {p : Program S α} {f : α → Program S β} {l : List (Exchange S)} {a : α} {b : β}

theorem dialogue_bind (h : (p.bind f).Dialogue l b) :
    ∃ a l₁ l₂, p.Dialogue l₁ a ∧ (f a).Dialogue l₂ b ∧ l = l₁ ++ l₂ := by
  induction p generalizing l with
  | done a => exact ⟨a, [], l, .done, h, rfl⟩
  | ask q next ih =>
    cases h with
    | ask rest =>
      obtain ⟨a, l₁, l₂, hp, hf, rfl⟩ := ih _ rest
      exact ⟨a, _, l₂, .ask hp, hf, rfl⟩

theorem dialogue_done {a' : α} (h : (done a : Program S α).Dialogue l a') : l = [] ∧ a' = a := by
  cases h
  exact ⟨rfl, rfl⟩

theorem dialogue_bindExcept {ε : Type} {x : ExceptT ε (Program S) α} {f : α → ExceptT ε (Program S) β}
    {r : Except ε β} (h : (x >>= f).run.Dialogue l r) :
    (∃ e, x.run.Dialogue l (.error e) ∧ r = .error e) ∨
      ∃ a l₁ l₂, x.run.Dialogue l₁ (.ok a) ∧ (f a).run.Dialogue l₂ r ∧ l = l₁ ++ l₂ := by
  rw [ExceptT.run_bind] at h
  obtain ⟨x', l₁, l₂, hx, hf, rfl⟩ := dialogue_bind h
  cases x' with
  | error e =>
    obtain ⟨rfl, rfl⟩ := dialogue_done hf
    exact .inl ⟨e, by simpa using hx, rfl⟩
  | ok a => exact .inr ⟨a, l₁, l₂, hx, hf, rfl⟩

theorem dialogue_ask {q : S.Ask} {next : S.Reply q → Program S α} (h : (ask q next).Dialogue l a) :
    ∃ r l', (next r).Dialogue l' a ∧ l = ⟨q, r⟩ :: l' := by
  cases h with
  | ask rest => exact ⟨_, _, rest, rfl⟩

theorem Obeys.asked {P : S.Ask → Prop} {A : (q : S.Ask) → S.Reply q → Prop} {Q : α → Prop}
    {front behind : List (Exchange S)} {e : Exchange S} (hp : p.Obeys P A Q)
    (hl : p.Dialogue (front ++ e :: behind) a) (hfront : ∀ x ∈ front, A x.1 x.2) : P e.1 := by
  induction front generalizing p with
  | nil =>
    cases hl with
    | ask rest => exact hp.1
  | cons x front ih =>
    cases hl with
    | ask rest =>
      exact ih (hp.2 _ (hfront _ List.mem_cons_self)) rest fun y hy => hfront y (List.mem_cons_of_mem _ hy)

theorem Obeys.ended {P : S.Ask → Prop} {A : (q : S.Ask) → S.Reply q → Prop} {Q : α → Prop}
    (hp : p.Obeys P A Q) (hl : p.Dialogue l a) (hA : ∀ x ∈ l, A x.1 x.2) : Q a := by
  induction hl with
  | done => exact hp
  | ask rest ih =>
    exact ih (hp.2 _ (hA _ List.mem_cons_self)) fun y hy => hA y (List.mem_cons_of_mem _ hy)

/-! ## Runs -/

/-- What a run asks, and how it is answered. -/
def exchanges (h : Handler S σ) : Program S α → σ → List (Exchange S)
  | done _, _ => []
  | ask q next, s => ⟨q, (h q s).1⟩ :: (next (h q s).1).exchanges h (h q s).2

theorem dialogue_run (h : Handler S σ) (p : Program S α) (s : σ) :
    p.Dialogue (p.exchanges h s) (p.run h s).1 := by
  induction p generalizing s with
  | done a => exact .done
  | ask q next ih => exact .ask (ih _ _)

theorem exchanges_bind (h : Handler S σ) (p : Program S α) (f : α → Program S β) (s : σ) :
    (p.bind f).exchanges h s = p.exchanges h s ++ (f (p.run h s).1).exchanges h (p.run h s).2 := by
  induction p generalizing s with
  | done a => rfl
  | ask q next ih => simp only [bind, exchanges, run, ih, List.cons_append]

/-- The handler answers so from one state, and leaves the other behind. -/
inductive Answered (h : Handler S σ) : σ → List (Exchange S) → σ → Prop
  | nil {s : σ} : Answered h s [] s
  | cons {s s' : σ} {q : S.Ask} {l : List (Exchange S)} (rest : Answered h (h q s).2 l s') :
    Answered h s (⟨q, (h q s).1⟩ :: l) s'

variable {h : Handler S σ} {s s' : σ}

theorem answered_run (h : Handler S σ) (p : Program S α) (s : σ) :
    Answered h s (p.exchanges h s) (p.run h s).2 := by
  induction p generalizing s with
  | done a => exact .nil
  | ask q next ih => exact .cons (ih _ _)

theorem Answered.append {l₁ l₂ : List (Exchange S)} (answered : Answered h s (l₁ ++ l₂) s') :
    ∃ between, Answered h s l₁ between ∧ Answered h between l₂ s' := by
  induction l₁ generalizing s with
  | nil => exact ⟨s, .nil, answered⟩
  | cons e l₁ ih =>
    cases answered with
    | cons rest =>
      obtain ⟨between, hfirst, hsecond⟩ := ih rest
      exact ⟨between, .cons hfirst, hsecond⟩

theorem Answered.head {e : Exchange S} {l : List (Exchange S)} (answered : Answered h s (e :: l) s') :
    (h e.1 s).1 = e.2 ∧ Answered h (h e.1 s).2 l s' := by
  cases answered with
  | cons rest => exact ⟨rfl, rest⟩

theorem Answered.eq_of_nil (answered : Answered h s [] s') : s' = s := by
  cases answered
  rfl

end Program

namespace Action

open Surroundings (Ask signature)

variable {α β : Type} {l : List (Program.Exchange signature)}

theorem dialogue_bind {x : Action α} {f : α → Action β} {r : Except Failure β}
    (h : (x >>= f).run.Dialogue l r) :
    (∃ e, x.run.Dialogue l (.error e) ∧ r = .error e) ∨
      ∃ a l₁ l₂, x.run.Dialogue l₁ (.ok a) ∧ (f a).run.Dialogue l₂ r ∧ l = l₁ ++ l₂ :=
  Program.dialogue_bindExcept h

theorem dialogue_query {q : Ask} {f : signature.Reply q → Action β} {r : Except Failure β}
    (h : (query q >>= f).run.Dialogue l r) :
    ∃ reply l', (f reply).run.Dialogue l' r ∧ l = ⟨q, reply⟩ :: l' :=
  Program.dialogue_ask h

theorem dialogue_pure {a : α} {r : Except Failure α} (h : (pure a : Action α).run.Dialogue l r) :
    l = [] ∧ r = .ok a :=
  Program.dialogue_done h

theorem dialogue_throw {f : Failure} {r : Except Failure α} (h : (throw f : Action α).run.Dialogue l r) :
    l = [] ∧ r = .error f :=
  Program.dialogue_done h

end Action
end Parley
