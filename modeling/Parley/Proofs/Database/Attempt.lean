/-
One attempt to store a message in the database.

`Storing` lists how the statements of a draft can go, by the one that fails first, and
`Attempt` puts a transaction around them (`attempt_of_dialogue`). Whatever the database
answers, an attempt sends the statements of the draft from the first on, in a
transaction of its own, and ends in a conflict if and only if the step that failed
first was told one of the three states of work that lost against other work
(`Attempt.whole`).
-/
import Parley.Proofs.Database.Transaction

namespace Parley.Database

open Script (Closes Ending opening)

/-! ## Steps -/

/-- The state that the database, or the way to it, gives for a step that fails. -/
def sqlState? : Exchange → Option String
  | ⟨.connect, .error (.backend e)⟩ => e.state
  | ⟨.start, .error e⟩ => e.state
  | ⟨.commit, .error e⟩ => e.state
  | ⟨.execute _, .error e⟩ => e.state
  | ⟨.query _ _, .error e⟩ => e.state
  | _ => none

/-- The first step that fails, when a query has one row. -/
def firstFailed? (l : List Exchange) : Option Exchange := l.find? fun e => (fault? 1 e).isSome

/-- The statement of a question, if it sends one of the service's. -/
def Ask.statement? : Ask → Option Statement
  | .execute s | .query s _ => some s
  | _ => none

/-- The statements that were sent, in their order. -/
def sent (l : List Exchange) : List Statement := l.filterMap fun e => e.1.statement?

/-- The message that a query for one was answered with. -/
def found? : Exchange → Option Message
  | ⟨.query _ .message, .ok [r]⟩ => r.message.toOption
  | _ => none

/-- The message that an insertion was answered with. -/
def inserted? (l : List Exchange) : Option Message := l.findSome? found?

/-- The statements that store a draft: the last one shows the message that was
inserted. -/
def unitOf (d : Draft) : Option Message → List Statement
  | none => [.makeRows d.sender d.recipient, .insertMessage d]
  | some m => [.makeRows d.sender d.recipient, .insertMessage d, .showMessage d m]

theorem SqlError.failure_eq_conflict_iff (e : SqlError) :
    (∃ text, e.failure = .transactionConflict text) ↔
      ∃ state ∈ ["40001", "40P01", "23505"], e.state = some state := by
  unfold failure isConflict
  cases e.state with
  | none => simp
  | some state => by_cases h : conflictStates.contains state <;> simp_all [conflictStates]

theorem MessageRow.error_of_message {r : MessageRow} {f : Failure} (h : r.message = .error f) :
    ∃ text, f = .database text := by
  unfold message at h
  split at h <;> cases h
  · exact ⟨_, rfl⟩
  · exact ⟨_, rfl⟩

theorem rowsFault?_database {least : Nat} {shape : Shape} {rows : List shape.Row} {f : Failure}
    (h : rowsFault? least shape rows = some f) : ∃ text, f = .database text := by
  unfold rowsFault? at h
  split at h
  · split at h <;> cases h
    exact ⟨_, rfl⟩
  · split at h <;> cases h
    next hrow => exact MessageRow.error_of_message hrow
  · cases h
  · cases h
    exact ⟨_, rfl⟩

theorem fault?_eq_conflict_iff {least : Nat} {e : Exchange} :
    (∃ text, fault? least e = some (.transactionConflict text)) ↔
      ∃ state ∈ ["40001", "40P01", "23505"], sqlState? e = some state := by
  obtain ⟨q, reply⟩ := e
  cases q with
  | connect =>
    rcases reply with (stage | _ | _ | e) | _
    · simp [fault?, sqlState?, PoolFault.failure]
    · simp [fault?, sqlState?, PoolFault.failure]
    · simp [fault?, sqlState?, PoolFault.failure]
    · simpa [fault?, sqlState?, PoolFault.failure] using e.failure_eq_conflict_iff
    · simp [fault?, sqlState?]
  | start | commit | execute s =>
    rcases reply with e | _
    · simpa [fault?, sqlState?] using e.failure_eq_conflict_iff
    · simp [fault?, sqlState?]
  | rollback => simp [fault?, sqlState?]
  | query s shape =>
    rcases reply with e | rows
    · simpa [fault?, sqlState?] using e.failure_eq_conflict_iff
    · refine ⟨?_, by simp [sqlState?]⟩
      rintro ⟨text, h⟩
      obtain ⟨_, hf⟩ := rowsFault?_database h
      cases hf

/-! ## How an attempt can go -/

/-- How the statements of a draft can go. -/
inductive Storing (d : Draft) : List Exchange → Except Failure (Ending Message) → Prop
  /-- The rows of the pair could not be made. -/
  | unmade (e : SqlError) :
    Storing d [⟨.execute (.makeRows d.sender d.recipient), .error e⟩] (.error e.failure)
  /-- The insertion failed, or was answered with something that is no message. -/
  | uninserted {made : Nat} {found : Reply (.query (.insertMessage d) .message)} {f : Failure}
    (h : fault? 1 ⟨.query (.insertMessage d) .message, found⟩ = some f) :
    Storing d [⟨.execute (.makeRows d.sender d.recipient), .ok made⟩,
      ⟨.query (.insertMessage d) .message, found⟩] (.error f)
  /-- The rows could not be pointed at the message. -/
  | unshown {made : Nat} {row : MessageRow} {m : Message} (h : row.message = .ok m) (e : SqlError) :
    Storing d [⟨.execute (.makeRows d.sender d.recipient), .ok made⟩,
      ⟨.query (.insertMessage d) .message, .ok [row]⟩, ⟨.execute (.showMessage d m), .error e⟩]
      (.error e.failure)
  | stored {made shown : Nat} {row : MessageRow} {m : Message} (h : row.message = .ok m) :
    Storing d [⟨.execute (.makeRows d.sender d.recipient), .ok made⟩,
      ⟨.query (.insertMessage d) .message, .ok [row]⟩, ⟨.execute (.showMessage d m), .ok shown⟩]
      (.ok (.keep m))

/-- How storing a draft can go. -/
inductive Attempt (d : Draft) : List Exchange → Except Failure Message → Prop
  | unconnected (f : PoolFault) : Attempt d [⟨.connect, .error f⟩] (.error f.failure)
  | unstarted (e : SqlError) :
    Attempt d [⟨.connect, .ok ()⟩, ⟨.start, .error e⟩, ⟨.rollback, ()⟩] (.error e.failure)
  | worked {work : List Exchange} {ending : Except Failure (Ending Message)} {last : Exchange}
    {r : Except Failure Message} (h : Storing d work ending) (closes : Closes ending last r) :
    Attempt d (opening ++ work ++ [last]) r

variable {d : Draft} {l : List Exchange} {r : Except Failure Message}

open Program (dialogue_ask dialogue_done)

theorem execute_dialogue {s : Statement} {r : Except Failure Nat} (h : (Script.execute s).run.Dialogue l r) :
    (∃ e, l = [⟨.execute s, .error e⟩] ∧ r = .error e.failure) ∨ ∃ n, l = [⟨.execute s, .ok n⟩] ∧ r = .ok n := by
  obtain ⟨reply, _, hdone, rfl⟩ := dialogue_ask h
  obtain ⟨rfl, rfl⟩ := dialogue_done hdone
  cases reply with
  | error e => exact .inl ⟨e, rfl, rfl⟩
  | ok n => exact .inr ⟨n, rfl, rfl⟩

theorem rowMessage_dialogue {s : Statement} (h : (Script.rowMessage s).run.Dialogue l r) :
    (∃ (found : Reply (.query s .message)) (f : Failure), l = [⟨.query s .message, found⟩] ∧
      fault? 1 ⟨.query s .message, found⟩ = some f ∧ r = .error f) ∨
    ∃ row m, l = [⟨.query s .message, .ok [row]⟩] ∧ row.message = .ok m ∧ r = .ok m := by
  obtain ⟨found, l, hfound, rfl⟩ := dialogue_ask h
  rcases found with e | _ | ⟨row, _ | ⟨row₂, rows⟩⟩
  · obtain ⟨rfl, rfl⟩ := dialogue_done hfound
    exact .inl ⟨_, _, rfl, rfl, rfl⟩
  · obtain ⟨rfl, rfl⟩ := dialogue_done hfound
    exact .inl ⟨_, _, rfl, rfl, rfl⟩
  · have hread : (Program.done row.message).Dialogue l r := hfound
    obtain ⟨rfl, rfl⟩ := dialogue_done hread
    cases hrow : row.message with
    | error f => exact .inl ⟨_, f, rfl, by simp only [fault?, rowsFault?, hrow], rfl⟩
    | ok m => exact .inr ⟨row, m, rfl, hrow, rfl⟩
  · obtain ⟨rfl, rfl⟩ := dialogue_done hfound
    exact .inl ⟨_, _, rfl, rfl, rfl⟩

theorem storing_of_dialogue {ending : Except Failure (Ending Message)}
    (h : (Script.storing d).run.Dialogue l ending) : Storing d l ending := by
  rcases Script.dialogue_bind h with ⟨_, hmade, rfl⟩ | ⟨_, _, _, hmade, hrest, rfl⟩
  · obtain ⟨e, rfl, he⟩ | ⟨_, -, he⟩ := execute_dialogue hmade <;> cases he
    exact .unmade e
  obtain ⟨_, -, he⟩ | ⟨made, rfl, -⟩ := execute_dialogue hmade
  · cases he
  rcases Script.dialogue_bind hrest with ⟨_, hfound, rfl⟩ | ⟨m, _, _, hfound, hshowing, rfl⟩
  · obtain ⟨found, f, rfl, hfault, he⟩ | ⟨_, _, -, -, he⟩ := rowMessage_dialogue hfound <;> cases he
    exact .uninserted hfault
  obtain ⟨_, _, -, -, he⟩ | ⟨row, _, rfl, hrow, he⟩ := rowMessage_dialogue hfound <;> cases he
  rcases Script.dialogue_bind hshowing with ⟨_, hshown, rfl⟩ | ⟨_, _, _, hshown, hkept, rfl⟩
  · obtain ⟨e, rfl, he⟩ | ⟨_, -, he⟩ := execute_dialogue hshown <;> cases he
    exact .unshown hrow e
  obtain ⟨_, -, he⟩ | ⟨shown, rfl, -⟩ := execute_dialogue hshown
  · cases he
  obtain ⟨rfl, rfl⟩ := dialogue_done hkept
  exact .stored hrow

/-- **Whatever the database answers, an attempt goes in one of these ways.** -/
theorem attempt_of_dialogue (h : (Script.store d).run.Dialogue l r) : Attempt d l r := by
  rw [Script.store_eq] at h
  rcases Script.transaction_dialogue h with ⟨f, rfl, rfl⟩ | ⟨e, rfl, rfl⟩ | ⟨_, _, _, hwork, hcloses, rfl⟩
  · exact .unconnected f
  · exact .unstarted e
  · exact .worked (storing_of_dialogue hwork) hcloses

/-! ## What every attempt keeps to -/

/-- What an attempt to store a draft keeps to, whatever the database answers. -/
structure Whole (d : Draft) (l : List Exchange) (r : Except Failure Message) : Prop where
  /-- The attempt ends in a conflict if and only if the step that failed first was
  told the state of one. -/
  conflict : (∃ text, r = .error (.transactionConflict text)) ↔ ∃ e, firstFailed? l = some e ∧
    ∃ state ∈ ["40001", "40P01", "23505"], sqlState? e = some state
  /-- The attempt fails as the step that failed first. -/
  failed : ∀ f, r = .error f ↔ ∃ e, firstFailed? l = some e ∧ fault? 1 e = some f
  /-- The statements are those of the draft, from the first on. -/
  statements : sent l <+: unitOf d (inserted? l)
  /-- They are sent in a transaction that the attempt has started itself. -/
  inside : sent l ≠ [] → ∃ work last, l = opening ++ work ++ [last] ∧ (∀ e ∈ work, e.1.isStatement) ∧
    (last.1 = .commit ∨ last.1 = .rollback)
  /-- The attempt is committed if and only if it succeeds, and then it was sent whole. -/
  committed : ⟨.commit, .ok ()⟩ ∈ l ↔ ∃ m, r = .ok m
  complete : ∀ m, r = .ok m → sent l = unitOf d (inserted? l)

theorem findSome?_fault?_eq_some_iff {f : Failure} :
    l.findSome? (fault? 1) = some f ↔ ∃ e, firstFailed? l = some e ∧ fault? 1 e = some f := by
  induction l with
  | nil => simp [firstFailed?]
  | cons e l ih => cases h : fault? 1 e <;> simp_all [firstFailed?]

theorem inserted?_of_message {row : MessageRow} {m : Message} (hm : row.message = .ok m) (made : Nat)
    (behind : List Exchange) :
    inserted? (⟨.connect, .ok ()⟩ :: ⟨.start, .ok ()⟩ ::
      ⟨.execute (.makeRows d.sender d.recipient), .ok made⟩ ::
      ⟨.query (.insertMessage d) .message, .ok [row]⟩ :: behind) = some m := by
  simp [inserted?, List.findSome?_cons, found?, hm, Except.toOption]

theorem Attempt.statements (h : Attempt d l r) : sent l <+: unitOf d (inserted? l) := by
  cases h with
  | unconnected _ | unstarted _ => exact List.nil_prefix
  | worked hwork hcloses =>
    cases hwork with
    | unmade _ =>
      cases hcloses
      exact ⟨[.insertMessage d], rfl⟩
    | uninserted hfault =>
      cases hcloses
      generalize inserted? _ = found
      cases found with
      | none => exact List.prefix_rfl
      | some m => exact ⟨[.showMessage d m], rfl⟩
    | unshown hm _ =>
      cases hcloses
      exact inserted?_of_message hm _ _ ▸ List.prefix_rfl
    | stored hm => cases hcloses <;> exact inserted?_of_message hm _ _ ▸ List.prefix_rfl

theorem Attempt.complete {m : Message} (h : Attempt d l (.ok m)) : sent l = unitOf d (inserted? l) := by
  cases h with
  | worked hwork hcloses =>
    cases hcloses with
    | undone _ => nomatch hwork
    | kept _ =>
      cases hwork with
      | stored hm => exact inserted?_of_message hm _ _ ▸ rfl

/-- **Whatever the database answers, an attempt keeps to this.** -/
theorem whole_of_dialogue (h : (Script.store d).run.Dialogue l r) : Whole d l r := by
  have hdisciplined : (Change.store d).Disciplined l r := Change.disciplined h
  have hfailed : ∀ f, r = .error f ↔ ∃ e, firstFailed? l = some e ∧ fault? 1 e = some f := fun f =>
    (hdisciplined.reported f).trans findSome?_fault?_eq_some_iff
  constructor
  case conflict =>
    simp only [hfailed]
    rw [exists_comm]
    exact exists_congr fun e => exists_and_left.trans (and_congr_right fun _ => fault?_eq_conflict_iff)
  case failed => exact hfailed
  case statements => exact (attempt_of_dialogue h).statements
  case inside =>
    intro hsent
    obtain ⟨s, hs⟩ := List.exists_mem_of_ne_nil _ hsent
    obtain ⟨e, he, hes⟩ := List.mem_filterMap.mp hs
    refine hdisciplined.inside ⟨e, he, ?_⟩
    revert hes
    cases e.1 <;> simp [Ask.statement?, Ask.isStatement]
  case committed =>
    refine ⟨fun hc => (hdisciplined.stored.mpr hc).imp fun _ hm => hm.1, ?_⟩
    rintro ⟨m, hm⟩
    exact hdisciplined.stored.mp ⟨m, hm, trivial⟩
  case complete =>
    rintro m rfl
    exact (attempt_of_dialogue h).complete

theorem Whole.not_committed {f : Failure} (h : Whole d l r) (hr : r = .error f) : ⟨.commit, .ok ()⟩ ∉ l := by
  intro hc
  obtain ⟨m, hm⟩ := h.committed.mp hc
  cases hm.symm.trans hr

end Parley.Database
