/-
Programs that ask their surroundings.

A `Signature` lists what may be asked and the type of each answer. A
`Program` is a value or a question with a program for every answer, so
nothing is assumed of the surroundings: `run` answers from a state, and
other ways to answer, such as several programs that take turns, can be
given as well.
-/
namespace Parley

/-- Questions with the types of their answers. -/
structure Signature where
  Ask : Type
  Reply : Ask → Type

/-- A program over the questions of a signature. -/
inductive Program (S : Signature) (α : Type) where
  | done (value : α)
  | ask (q : S.Ask) (next : S.Reply q → Program S α)

namespace Program

variable {S T : Signature} {α β σ : Type}

/-- The program that goes on with the value of another. -/
def bind (p : Program S α) (f : α → Program S β) : Program S β :=
  match p with
  | done a => f a
  | ask q next => ask q fun r => (next r).bind f

instance : Monad (Program S) where
  pure := done
  bind := bind

/-- The program that asks one question. -/
def query (q : S.Ask) : Program S (S.Reply q) := ask q done

/-- Ways to answer from a state, and to change it. -/
abbrev Handler (S : Signature) (σ : Type) := (q : S.Ask) → σ → S.Reply q × σ

/-- The value of a program and the state behind it. -/
def run (h : Handler S σ) : Program S α → σ → α × σ
  | done a, s => (a, s)
  | ask q next, s => ((next (h q s).1).run h) (h q s).2

/-- The program that puts a program in place of each question. -/
def interpret (f : (q : S.Ask) → Program T (S.Reply q)) : Program S α → Program T α
  | done a => done a
  | ask q next => (f q).bind fun r => (next r).interpret f

/-! ## Laws -/

@[simp] theorem bind_eq (p : Program S α) (f : α → Program S β) : (p >>= f) = p.bind f := rfl

theorem bind_done (p : Program S α) : p.bind done = p := by
  induction p with
  | done a => rfl
  | ask q next ih => simp only [bind, ih]

theorem bind_bind {γ : Type} (p : Program S α) (f : α → Program S β) (g : β → Program S γ) :
    (p.bind f).bind g = p.bind fun a => (f a).bind g := by
  induction p with
  | done a => rfl
  | ask q next ih => simp only [bind, ih]

theorem run_bind (h : Handler S σ) (p : Program S α) (f : α → Program S β) (s : σ) :
    (p.bind f).run h s = (f (p.run h s).1).run h (p.run h s).2 := by
  induction p generalizing s with
  | done a => rfl
  | ask q next ih => simp only [bind, run, ih]

end Program
end Parley
