/-
Scripts that stop at the first step that fails.

A step of a script is a question to the database with its answer, and `fault?`
says how it fails. A script is steady (`Steady`) if it goes on while no step
fails and otherwise ends with the failure of the first that does; parts of steady
scripts are put together by `Steady.bind`. A transaction of steady work can go in
six ways (`Course`, `course_of_steady`).
-/
import Parley.Database.Archive
import Parley.Proofs.Dialogue

namespace Parley.Database

/-- A step of a script: a question to the database with its answer. -/
abbrev Exchange := Program.Exchange signature

/-! ## Steps that fail -/

/-- Why the rows of a query are refused: there are too few or too many of them,
or there is one that should hold a message and does not. -/
def rowsFault? (least : Nat) : (shape : Shape) → List shape.Row → Option Failure
  | _, [] => if least = 0 then none else some SqlError.rowCount.failure
  | .message, [r] => match r.message with
    | .ok _ => none
    | .error f => some f
  | _, [_] => none
  | _, _ :: _ :: _ => some SqlError.rowCount.failure

/-- The failure of a step, if it fails. -/
def fault? (least : Nat) : Exchange → Option Failure
  | ⟨.connect, .error f⟩ => some f.failure
  | ⟨.start, .error e⟩ => some e.failure
  | ⟨.commit, .error e⟩ => some e.failure
  | ⟨.execute _, .error e⟩ => some e.failure
  | ⟨.query _ _, .error e⟩ => some e.failure
  | ⟨.query _ shape, .ok rows⟩ => rowsFault? least shape rows
  | _ => none

/-- Whether a statement of the service is sent, and not one that begins or ends
a transaction. -/
def Ask.isStatement : Ask → Bool
  | .execute _ | .query _ _ => true
  | _ => false

/-! ## Steady work -/

namespace Script

variable {α β : Type} {least : Nat} {P : Ask → Prop} {l : List Exchange}

theorem dialogue_bind {x : Script α} {f : α → Script β} {r : Except Failure β}
    (h : (x >>= f).run.Dialogue l r) :
    (∃ e, x.run.Dialogue l (.error e) ∧ r = .error e) ∨
      ∃ a l₁ l₂, x.run.Dialogue l₁ (.ok a) ∧ (f a).run.Dialogue l₂ r ∧ l = l₁ ++ l₂ :=
  Program.dialogue_bindExcept h

/-- The steps are as `P` allows, and none of them fails. -/
def Smooth (least : Nat) (P : Ask → Prop) (l : List Exchange) : Prop :=
  ∀ e ∈ l, P e.1 ∧ fault? least e = none

/-- The steps are as `P` allows, and the last of them fails and no other. -/
def Stuck (least : Nat) (P : Ask → Prop) (l : List Exchange) (f : Failure) : Prop :=
  ∃ front e, l = front ++ [e] ∧ Smooth least P front ∧ P e.1 ∧ fault? least e = some f

/-- The script goes on while no step fails, to an end that `Q` relates to its
steps, and fails with the first step that does. -/
def Steady (least : Nat) (P : Ask → Prop) (Q : List Exchange → α → Prop) (x : Script α) : Prop :=
  ∀ l r, x.run.Dialogue l r → match r with
    | .ok a => Smooth least P l ∧ Q l a
    | .error f => Stuck least P l f

variable {Q : List Exchange → α → Prop} {R : α → List Exchange → β → Prop}

theorem smooth_nil : Smooth least P [] := fun _ he => (List.not_mem_nil he).elim

theorem Smooth.append {l₁ l₂ : List Exchange} (h₁ : Smooth least P l₁) (h₂ : Smooth least P l₂) :
    Smooth least P (l₁ ++ l₂) :=
  fun e he => (List.mem_append.mp he).elim (h₁ e) (h₂ e)

theorem Smooth.imp {P' : Ask → Prop} (h : Smooth least P l) (hP : ∀ q, P q → P' q) : Smooth least P' l :=
  fun e he => (h e he).imp_left (hP e.1)

theorem Steady.imp {Q' : List Exchange → α → Prop} {x : Script α} (h : x.Steady least P Q)
    (hQ : ∀ l a, Q l a → Q' l a) : x.Steady least P Q' := by
  intro l r hr
  cases r with
  | ok a => exact (h l _ hr).imp_right (hQ l a)
  | error f => exact h l _ hr

theorem Steady.bind {x : Script α} {f : α → Script β} (hx : x.Steady least P Q)
    (hf : ∀ a, (f a).Steady least P (R a)) :
    (x >>= f).Steady least P fun l b => ∃ a l₁ l₂, l = l₁ ++ l₂ ∧ Q l₁ a ∧ R a l₂ b := by
  intro l r hr
  rcases dialogue_bind hr with ⟨e, he, rfl⟩ | ⟨a, l₁, l₂, h₁, h₂, rfl⟩
  · exact hx l _ he
  obtain ⟨hsmooth, hQ⟩ := hx l₁ _ h₁
  have hrest := hf a l₂ r h₂
  cases r with
  | ok b => exact ⟨hsmooth.append hrest.1, a, l₁, l₂, rfl, hQ, hrest.2⟩
  | error g =>
    obtain ⟨front, e, rfl, hfront, he⟩ := hrest
    exact ⟨l₁ ++ front, e, (List.append_assoc _ _ _).symm, hsmooth.append hfront, he⟩

theorem steady_pure (a : α) : (pure a : Script α).Steady least P fun l a' => l = [] ∧ a' = a := by
  intro l r hr
  obtain ⟨rfl, rfl⟩ := Program.dialogue_done hr
  exact ⟨smooth_nil, rfl, rfl⟩

theorem steady_ask {x : Script α} {q : Ask} {next : Reply q → Program signature (Except Failure α)}
    (hx : x.run = .ask q next) (hq : P q)
    (hnext : ∀ reply,
      (∃ a, next reply = .done (.ok a) ∧ fault? least ⟨q, reply⟩ = none ∧ Q [⟨q, reply⟩] a) ∨
        ∃ f, next reply = .done (.error f) ∧ fault? least ⟨q, reply⟩ = some f) :
    x.Steady least P Q := by
  intro l r hr
  rw [hx] at hr
  obtain ⟨reply, l', hrest, rfl⟩ := Program.dialogue_ask hr
  rcases hnext reply with ⟨a, he, hfault, hQ⟩ | ⟨f, he, hfault⟩ <;> rw [he] at hrest <;>
    obtain ⟨rfl, rfl⟩ := Program.dialogue_done hrest
  · refine ⟨fun e he => ?_, hQ⟩
    rw [List.mem_singleton.mp he]
    exact ⟨hq, hfault⟩
  · exact ⟨[], _, rfl, smooth_nil, hq, hfault⟩

theorem steady_execute {s : Statement} (hs : P (.execute s)) :
    (execute s).Steady least P fun l n => l = [⟨.execute s, .ok n⟩] := by
  refine steady_ask (q := .execute s) rfl hs fun reply => ?_
  cases reply with
  | ok n => exact .inl ⟨n, rfl, rfl, rfl⟩
  | error e => exact .inr ⟨e.failure, rfl, rfl⟩

/-- The message of a query that has one row. -/
def rowMessage (s : Statement) : Script Message := row s .message >>= decode

theorem steady_rowMessage {s : Statement} (hs : P (.query s .message)) :
    (rowMessage s).Steady 1 P fun l m =>
      ∃ r, l = [⟨.query s .message, .ok [r]⟩] ∧ r.message = .ok m := by
  refine steady_ask (q := .query s .message) rfl hs fun reply => ?_
  rcases reply with e | _ | ⟨r, _ | ⟨r₂, rs⟩⟩
  · exact .inr ⟨e.failure, rfl, rfl⟩
  · exact .inr ⟨_, rfl, rfl⟩
  · cases hr : r.message with
    | ok m => exact .inl ⟨m, congrArg Program.done hr, by simp only [fault?, rowsFault?, hr], r, rfl, hr⟩
    | error f => exact .inr ⟨f, congrArg Program.done hr, by simp only [fault?, rowsFault?, hr]⟩
  · exact .inr ⟨_, rfl, rfl⟩

/-- The message of a query that has at most one row. -/
def message? (s : Statement) : Script (Option Message) :=
  row? s .message >>= fun
    | some r => ExceptT.mk (.done (r.message.map some))
    | none => pure none

theorem steady_message? {s : Statement} (hs : P (.query s .message)) :
    (message? s).Steady 0 P fun l o => match o with
      | some m => ∃ r, l = [⟨.query s .message, .ok [r]⟩] ∧ r.message = .ok m
      | none => l = [⟨.query s .message, .ok []⟩] := by
  refine steady_ask (q := .query s .message) rfl hs fun reply => ?_
  rcases reply with e | _ | ⟨r, _ | ⟨r₂, rs⟩⟩
  · exact .inr ⟨e.failure, rfl, rfl⟩
  · exact .inl ⟨none, rfl, rfl, rfl⟩
  · cases hr : r.message with
    | ok m =>
      exact .inl ⟨some m, congrArg (fun x => Program.done (Except.map some x)) hr,
        by simp only [fault?, rowsFault?, hr], r, rfl, hr⟩
    | error f =>
      exact .inr ⟨f, congrArg (fun x => Program.done (Except.map some x)) hr,
        by simp only [fault?, rowsFault?, hr]⟩
  · exact .inr ⟨_, rfl, rfl⟩

theorem steady_latest {s : Statement} (hs : P (.query s .latest)) :
    (row? s .latest).Steady 0 P fun l o => l = [⟨.query s .latest, .ok o.toList⟩] := by
  refine steady_ask (q := .query s .latest) rfl hs fun reply => ?_
  rcases reply with e | _ | ⟨r, _ | ⟨r₂, rs⟩⟩
  · exact .inr ⟨e.failure, rfl, rfl⟩
  · exact .inl ⟨none, rfl, rfl, rfl⟩
  · exact .inl ⟨some r, rfl, rfl, rfl⟩
  · exact .inr ⟨_, rfl, rfl⟩

/-! ## Transactions -/

/-- A connection is taken and a transaction started. -/
def opening : List Exchange := [⟨.connect, .ok ()⟩, ⟨.start, .ok ()⟩]

/-- How a transaction ends behind its work. -/
inductive Closes : Except Failure (Ending α) → Exchange → Except Failure α → Prop
  | failed (f : Failure) : Closes (.error f) ⟨.rollback, ()⟩ (.error f)
  | undone (a : α) : Closes (.ok (.undo a)) ⟨.rollback, ()⟩ (.ok a)
  | kept (a : α) : Closes (.ok (.keep a)) ⟨.commit, .ok ()⟩ (.ok a)
  | lost (a : α) (e : SqlError) : Closes (.ok (.keep a)) ⟨.commit, .error e⟩ (.error e.failure)

theorem finish_dialogue {ending : Except Failure (Ending α)} {r : Except Failure α}
    (h : (finish ending).Dialogue l r) : ∃ last, l = [last] ∧ Closes ending last r := by
  rcases ending with f | a | a
  · obtain ⟨_, _, hundone, rfl⟩ := Program.dialogue_ask h
    obtain ⟨rfl, rfl⟩ := Program.dialogue_done hundone
    exact ⟨_, rfl, .failed f⟩
  · obtain ⟨committed, _, hcommitted, rfl⟩ := Program.dialogue_ask h
    cases committed with
    | error e =>
      obtain ⟨rfl, rfl⟩ := Program.dialogue_done hcommitted
      exact ⟨_, rfl, .lost a e⟩
    | ok =>
      obtain ⟨rfl, rfl⟩ := Program.dialogue_done hcommitted
      exact ⟨_, rfl, .kept a⟩
  · obtain ⟨_, _, hundone, rfl⟩ := Program.dialogue_ask h
    obtain ⟨rfl, rfl⟩ := Program.dialogue_done hundone
    exact ⟨_, rfl, .undone a⟩

theorem transaction_dialogue {work : Script (Ending α)} {r : Except Failure α}
    (h : (connect >>= fun _ => transaction work).run.Dialogue l r) :
    (∃ f : PoolFault, l = [⟨.connect, .error f⟩] ∧ r = .error f.failure) ∨
    (∃ e : SqlError, l = [⟨.connect, .ok ()⟩, ⟨.start, .error e⟩, ⟨.rollback, ()⟩] ∧
      r = .error e.failure) ∨
    ∃ inner ending last, work.run.Dialogue inner ending ∧ Closes ending last r ∧
      l = opening ++ inner ++ [last] := by
  obtain ⟨connected, l, hconnected, rfl⟩ := Program.dialogue_ask h
  cases connected with
  | error f =>
    obtain ⟨rfl, rfl⟩ := Program.dialogue_done hconnected
    exact .inl ⟨f, rfl, rfl⟩
  | ok =>
  obtain ⟨started, l, hstarted, rfl⟩ := Program.dialogue_ask hconnected
  cases started with
  | error e =>
    obtain ⟨_, l, hundone, rfl⟩ := Program.dialogue_ask hstarted
    obtain ⟨rfl, rfl⟩ := Program.dialogue_done hundone
    exact .inr (.inl ⟨e, rfl, rfl⟩)
  | ok =>
  have hwhole : (work.run.bind finish).Dialogue l r := hstarted
  obtain ⟨ending, inner, last, hinner, hlast, rfl⟩ := Program.dialogue_bind hwhole
  obtain ⟨last, rfl, hcloses⟩ := finish_dialogue hlast
  exact .inr (.inr ⟨inner, ending, last, hinner, hcloses, rfl⟩)

/-- How a transaction of steady work can go. -/
inductive Course (least : Nat) (P : Ask → Prop) (Q : List Exchange → Ending α → Prop) :
    List Exchange → Except Failure α → Prop
  | unconnected (f : PoolFault) : Course least P Q [⟨.connect, .error f⟩] (.error f.failure)
  | unstarted (e : SqlError) : Course least P Q
    [⟨.connect, .ok ()⟩, ⟨.start, .error e⟩, ⟨.rollback, ()⟩] (.error e.failure)
  | failed {work : List Exchange} {f : Failure} (h : Stuck least P work f) :
    Course least P Q (opening ++ work ++ [⟨.rollback, ()⟩]) (.error f)
  | undone {work : List Exchange} {a : α} (h : Smooth least P work) (hQ : Q work (.undo a)) :
    Course least P Q (opening ++ work ++ [⟨.rollback, ()⟩]) (.ok a)
  | kept {work : List Exchange} {a : α} (h : Smooth least P work) (hQ : Q work (.keep a)) :
    Course least P Q (opening ++ work ++ [⟨.commit, .ok ()⟩]) (.ok a)
  | lost {work : List Exchange} {a : α} (h : Smooth least P work) (hQ : Q work (.keep a))
    (e : SqlError) : Course least P Q (opening ++ work ++ [⟨.commit, .error e⟩]) (.error e.failure)

variable {E : List Exchange → Ending α → Prop} {r : Except Failure α}

theorem Course.allowed (h : Course least P E l r) : ∀ e ∈ l, e.1.isStatement → P e.1 := by
  have hopened : ∀ {work : List Exchange} {last : Exchange}, (∀ e ∈ work, P e.1) →
      ¬ last.1.isStatement → ∀ e ∈ opening ++ work ++ [last], e.1.isStatement → P e.1 := by
    intro work last hwork hlast e he hq
    simp only [opening, List.mem_append, List.mem_cons, List.not_mem_nil, or_false] at he
    rcases he with ((rfl | rfl) | he) | rfl
    · cases hq
    · cases hq
    · exact hwork e he
    · exact (hlast hq).elim
  cases h with
  | unconnected f => simp [Ask.isStatement]
  | unstarted e => simp [Ask.isStatement]
  | failed h =>
    obtain ⟨front, e, rfl, hfront, he, -⟩ := h
    refine hopened (fun e' he' => ?_) (by simp [Ask.isStatement])
    rcases List.mem_append.mp he' with he' | he'
    · exact (hfront e' he').1
    · exact List.mem_singleton.mp he' ▸ he
  | undone h _ => exact hopened (fun e he => (h e he).1) (by simp [Ask.isStatement])
  | kept h _ => exact hopened (fun e he => (h e he).1) (by simp [Ask.isStatement])
  | lost h _ e => exact hopened (fun e he => (h e he).1) (by simp [Ask.isStatement])

theorem Course.imp {P' : Ask → Prop} {E' : List Exchange → Ending α → Prop} (h : Course least P E l r)
    (hP : ∀ q, P q → P' q) (hE : ∀ work ending, E work ending → E' work ending) :
    Course least P' E' l r := by
  cases h with
  | unconnected f => exact .unconnected f
  | unstarted e => exact .unstarted e
  | failed h =>
    obtain ⟨front, e, rfl, hfront, he, hfault⟩ := h
    exact .failed ⟨front, e, rfl, hfront.imp hP, hP _ he, hfault⟩
  | undone h hQ => exact .undone (h.imp hP) (hE _ _ hQ)
  | kept h hQ => exact .kept (h.imp hP) (hE _ _ hQ)
  | lost h hQ e => exact .lost (h.imp hP) (hE _ _ hQ) e

theorem Course.worked {v : α} (h : Course least P E l (.ok v)) :
    ∃ work, (∀ e ∈ work, e ∈ l) ∧ (E work (.keep v) ∨ E work (.undo v)) := by
  cases h with
  | undone h hE => exact ⟨_, fun e he => by simp [he], .inr hE⟩
  | kept h hE => exact ⟨_, fun e he => by simp [he], .inl hE⟩

theorem course_of_steady {work : Script (Ending α)} (hwork : work.Steady least P E)
    (hr : (connect >>= fun _ => transaction work).run.Dialogue l r) : Course least P E l r := by
  rcases transaction_dialogue hr with ⟨f, rfl, rfl⟩ | ⟨e, rfl, rfl⟩ | ⟨inner, ending, last, hinner, hcloses, rfl⟩
  · exact .unconnected f
  · exact .unstarted e
  have hend := hwork inner ending hinner
  cases hcloses with
  | failed f => exact .failed hend
  | undone a => exact .undone hend.1 hend.2
  | kept a => exact .kept hend.1 hend.2
  | lost a e => exact .lost hend.1 hend.2 e

end Script
end Parley.Database
