/-
How a program conducts itself, whoever answers it.

`p.Obeys P A Q` says that `p` asks only what `P` allows and ends with what
`Q` says, as long as each answer is one that `A` admits. Nothing is said of
a state: what answers keep is added where programs run (`run_obeys`) or
take turns.

`p.AsksAtMost counts n` bounds how many of the questions that count it asks.

`p.Agree P R Q p'` says the same of two programs side by side: they ask the
same questions, and end with what `Q` relates as long as their answers are
as `R` relates. Run from two states, they show no difference (`run_agree`).
-/
import Parley.Surroundings

namespace Parley

namespace Program

variable {S : Signature} {α β σ : Type} {P P' : S.Ask → Prop} {A A' : (q : S.Ask) → S.Reply q → Prop}
  {Q Q' : α → Prop}

/-- The program asks only what `P` allows and ends with what `Q` says, as
long as it is answered as `A` admits. -/
def Obeys (P : S.Ask → Prop) (A : (q : S.Ask) → S.Reply q → Prop) (Q : α → Prop) :
    Program S α → Prop
  | done a => Q a
  | ask q next => P q ∧ ∀ r, A q r → (next r).Obeys P A Q

theorem Obeys.mono {p : Program S α} (h : p.Obeys P A Q) (hP : ∀ q, P q → P' q)
    (hA : ∀ q r, A' q r → A q r) (hQ : ∀ a, Q a → Q' a) : p.Obeys P' A' Q' := by
  induction p with
  | done a => exact hQ a h
  | ask q next ih => exact ⟨hP q h.1, fun r hr => ih r (h.2 r (hA q r hr))⟩

theorem Obeys.imp {p : Program S α} (h : p.Obeys P A Q) (hQ : ∀ a, Q a → Q' a) : p.Obeys P A Q' :=
  h.mono (fun _ h => h) (fun _ _ h => h) hQ

theorem Obeys.bind {p : Program S α} {f : α → Program S β} {R : β → Prop} (h : p.Obeys P A Q)
    (hf : ∀ a, Q a → (f a).Obeys P A R) : (p.bind f).Obeys P A R := by
  induction p with
  | done a => exact hf a h
  | ask q next ih => exact ⟨h.1, fun r hr => ih r (h.2 r hr)⟩

theorem run_obeys {h : Handler S σ} {I : σ → Prop} {p : Program S α} {s : σ}
    (answers : ∀ q s, P q → I s → A q (h q s).1 ∧ I (h q s).2) (hp : p.Obeys P A Q) (hs : I s) :
    Q (p.run h s).1 ∧ I (p.run h s).2 := by
  induction p generalizing s with
  | done a => exact ⟨hp, hs⟩
  | ask q next ih =>
    have ⟨hr, hI⟩ := answers q s hp.1 hs
    exact ih _ (hp.2 _ hr) hI

/-! ## How often -/

/-- The program asks at most so many of the questions that count. -/
inductive AsksAtMost (counts : S.Ask → Bool) : Nat → Program S α → Prop
  | done {n : Nat} {a : α} : AsksAtMost counts n (.done a)
  | ask {n : Nat} {q : S.Ask} {next : S.Reply q → Program S α}
    (h : ∀ r, AsksAtMost counts n (next r)) : AsksAtMost counts (n + 1) (.ask q next)
  | free {n : Nat} {q : S.Ask} {next : S.Reply q → Program S α} (hq : counts q = false)
    (h : ∀ r, AsksAtMost counts n (next r)) : AsksAtMost counts n (.ask q next)

section

variable {counts : S.Ask → Bool} {m n : Nat} {p : Program S α}

theorem AsksAtMost.mono (h : p.AsksAtMost counts m) (hmn : m ≤ n) : p.AsksAtMost counts n := by
  induction h generalizing n with
  | done => exact .done
  | ask _ ih =>
    cases n with
    | zero => omega
    | succ n => exact .ask fun r => ih r (by omega)
  | free hq _ ih => exact .free hq fun r => ih r hmn

theorem AsksAtMost.bind {f : α → Program S β} (h : p.AsksAtMost counts m)
    (hf : ∀ a, (f a).AsksAtMost counts n) : (p.bind f).AsksAtMost counts (m + n) := by
  induction h with
  | done => exact (hf _).mono (Nat.le_add_left _ _)
  | @ask m _ _ _ ih =>
    rw [Nat.add_right_comm]
    exact .ask ih
  | free hq _ ih => exact .free hq ih

theorem Obeys.asksAtMost (h : p.Obeys (fun q => counts q = false) (fun _ _ => True) Q) :
    p.AsksAtMost counts 0 := by
  induction p with
  | done a => exact .done
  | ask q next ih => exact .free h.1 fun r => ih r (h.2 r trivial)

end

/-! ## Two programs side by side -/

/-- The programs ask the same questions, all as `P` allows, and end with what
`Q` relates, as long as they are answered as `R` relates. -/
inductive Agree (P : S.Ask → Prop) (R : (q : S.Ask) → S.Reply q → S.Reply q → Prop)
    (Q : α → β → Prop) : Program S α → Program S β → Prop
  | done {a : α} {b : β} (h : Q a b) : Agree P R Q (.done a) (.done b)
  | ask {q : S.Ask} {next : S.Reply q → Program S α} {next' : S.Reply q → Program S β} (hP : P q)
    (h : ∀ r r', R q r r' → Agree P R Q (next r) (next' r')) :
    Agree P R Q (.ask q next) (.ask q next')

variable {α' β' : Type} {R : (q : S.Ask) → S.Reply q → S.Reply q → Prop} {E E' : α → α' → Prop}
  {F : β → β' → Prop} {p : Program S α} {p' : Program S α'}

theorem Agree.mono (h : p.Agree P R E p') (hE : ∀ a b, E a b → E' a b) : p.Agree P R E' p' := by
  induction h with
  | done h => exact .done (hE _ _ h)
  | ask hP _ ih => exact .ask hP ih

theorem Agree.bind {f : α → Program S β} {f' : α' → Program S β'} (h : p.Agree P R E p')
    (hf : ∀ a a', E a a' → (f a).Agree P R F (f' a')) : (p.bind f).Agree P R F (p'.bind f') := by
  induction h with
  | done h => exact hf _ _ h
  | ask hP _ ih => exact .ask hP ih

theorem Obeys.agree (h : p.Obeys P A Q) (hP : ∀ q, P q → P' q)
    (same : ∀ q r r', P q → R q r r' → A q r ∧ r' = r) :
    p.Agree P' R (fun a b => b = a ∧ Q a) p := by
  induction p with
  | done a => exact .done ⟨rfl, h⟩
  | ask q next ih =>
    refine .ask (hP q h.1) fun r r' hr => ?_
    obtain ⟨hA, rfl⟩ := same q r r' h.1 hr
    exact ih _ (h.2 _ hA)

theorem run_agree {h : Handler S σ} {I : σ → σ → Prop} {s s' : σ}
    (answers : ∀ q s s', P q → I s s' → R q (h q s).1 (h q s').1 ∧ I (h q s).2 (h q s').2)
    (hp : p.Agree P R E p') (hs : I s s') :
    E (p.run h s).1 (p'.run h s').1 ∧ I (p.run h s).2 (p'.run h s').2 := by
  induction hp generalizing s s' with
  | done hE => exact ⟨hE, hs⟩
  | ask hP _ ih =>
    obtain ⟨hr, hI⟩ := answers _ s s' hP hs
    exact ih _ _ hr hI

end Program

/-! ## Programs that may fail -/

namespace Action

open Surroundings (Ask signature)

variable {α β : Type} {P : Ask → Prop} {A : (q : Ask) → signature.Reply q → Prop}
  {Q : Except Failure α → Prop} {R : Except Failure β → Prop}

theorem obeys_pure {a : α} (h : Q (.ok a)) : (pure a : Action α).run.Obeys P A Q := h

theorem obeys_throw {f : Failure} (h : Q (.error f)) : (throw f : Action α).run.Obeys P A Q := h

theorem obeys_ofExcept {x : Except Failure α} (h : Q x) : (ofExcept x).run.Obeys P A Q := h

theorem obeys_bind {x : Action α} {f : α → Action β} (h : x.run.Obeys P A Q)
    (hok : ∀ a, Q (.ok a) → (f a).run.Obeys P A R) (herror : ∀ e, Q (.error e) → R (.error e)) :
    (x >>= f).run.Obeys P A R := by
  rw [ExceptT.run_bind]
  refine h.bind fun r hr => ?_
  cases r with
  | ok a => exact hok a hr
  | error e => exact herror e hr

theorem obeys_query {q : Ask} {f : signature.Reply q → Action β} (hP : P q)
    (hf : ∀ r, A q r → (f r).run.Obeys P A R) : (query q >>= f).run.Obeys P A R :=
  ⟨hP, hf⟩

theorem obeys_archive {q : Archive.Ask} {f : Archive.Found q → Action β} (hP : P (.archive q))
    (hok : ∀ r, A (.archive q) (.ok r) → (f r).run.Obeys P A R) (herror : ∀ e, R (.error e)) :
    (archive q >>= f).run.Obeys P A R := by
  refine ⟨hP, fun r hr => ?_⟩
  cases r with
  | ok a => exact hok a hr
  | error e => exact herror e

theorem asksAtMost_bind {counts : Ask → Bool} {m n : Nat} {x : Action α} {f : α → Action β}
    (h : x.run.AsksAtMost counts m) (hf : ∀ a, (f a).run.AsksAtMost counts n) :
    (x >>= f).run.AsksAtMost counts (m + n) := by
  rw [ExceptT.run_bind]
  refine h.bind fun r => ?_
  cases r with
  | ok a => exact hf a
  | error e => exact .done

/-- Both succeed as `Q` relates, or both fail for one cause. -/
def Both {α' : Type} (Q : α → α' → Prop) : Except Failure α → Except Failure α' → Prop
  | .ok a, .ok a' => Q a a'
  | .error e, .error e' => e' = e
  | _, _ => False

variable {α' β' : Type} {S : (q : Ask) → signature.Reply q → signature.Reply q → Prop}
  {E : α → α' → Prop} {F : β → β' → Prop} {x : Action α} {x' : Action α'} {f : α → Action β}
  {f' : α' → Action β'}

theorem agree_pure {a : α} {a' : α'} (h : E a a') :
    (pure a : Action α).run.Agree P S (Both E) (pure a' : Action α').run := .done h

theorem agree_throw {e : Failure} :
    (throw e : Action α).run.Agree P S (Both E) (throw e : Action α').run := .done rfl

theorem agree_bind (h : x.run.Agree P S (Both E) x'.run)
    (hf : ∀ a a', E a a' → (f a).run.Agree P S (Both F) (f' a').run) :
    (x >>= f).run.Agree P S (Both F) (x' >>= f').run := by
  rw [ExceptT.run_bind, ExceptT.run_bind]
  refine h.bind fun r r' hr => ?_
  cases r with
  | ok a =>
    cases r' with
    | ok a' => exact hf a a' hr
    | error e' => exact hr.elim
  | error e =>
    cases r' with
    | ok a' => exact hr.elim
    | error e' => exact .done hr

theorem agree_archive {q : Archive.Ask} {G : Archive.Found q → Archive.Found q → Prop}
    (hP : P (.archive q)) (h : ∀ r r', S (.archive q) r r' → Both G r r') :
    (archive q).run.Agree P S (Both G) (archive q).run :=
  .ask hP fun r r' hr => .done (h r r' hr)

end Action
end Parley
