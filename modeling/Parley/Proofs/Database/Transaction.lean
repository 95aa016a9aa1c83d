/-
The changes of the archive in a database, and how their transactions go.

A change is a script of several statements in one transaction, and its work is
steady, so it goes the course of a transaction (`Change.course`). Whatever the
database answers, it keeps the discipline that `Change.Disciplined` lists
(`Change.disciplined`): it stops at the first failure, commits last and only what
succeeded, and tells of something stored if and only if the commit succeeded. If no
step fails, it sends all that `Change.Sends` lists, and what is stored is committed
(`Change.completed`).
-/
import Parley.Proofs.Database.Steady
import Parley.Proofs.Unread

namespace Parley.Database

/-! ## The changes -/

/-- The changes of the archive that take several statements. -/
inductive Change where
  | store (d : Draft)
  | retire (id : Int) (expected target : Status)
  | markRead (reader : UserId) (conversation : String) (upTo : Option Int)

namespace Change

def ask : Change → Archive.Ask
  | store d => .store d
  | retire id expected target => .retire id expected target
  | markRead reader conversation upTo => .markRead reader conversation upTo

def script (c : Change) : Script (Archive.Found c.ask) := Script.ofAsk c.ask

/-- What repairs the rows of a pair once it is known which message they show. -/
def repairing (m : Message) (last : Option LastMessage) (recounts : Bool) : List Ask :=
  [.query (.latest m.conversation) .latest, .execute (.repoint m.conversation last m.id)] ++
    if recounts then [.execute (.recount m.conversation m.recipient m.sender)] else []

/-- What a change sends in its transaction for a result. -/
def Sends : (c : Change) → Archive.Found c.ask → List Ask → Prop
  | store d, m, sent => sent = [.execute (.makeRows d.sender d.recipient),
      .query (.insertMessage d) .message, .execute (.showMessage d m)]
  | retire id expected target, .applied m, sent => ∃ last, sent =
      .query (.transitionReturning id expected target) .message :: repairing m last expected.isUnread
  | retire id expected target, _, sent => sent =
      [.query (.transitionReturning id expected target) .message, .query (.findMessage id) .message]
  | markRead reader conversation upTo, _, sent => ∃ peer,
      Pair.counterpart? conversation reader = some peer ∧ sent =
        [.execute (.markRead reader conversation upTo), .execute (.recount conversation reader peer)]

end Change

namespace Script

variable {α : Type}

/-! ## The work of each change -/

/-- What storing a message does in its transaction. -/
def storing (d : Draft) : Script (Ending Message) := do
  let _ ← execute (.makeRows d.sender d.recipient)
  let m ← rowMessage (.insertMessage d)
  let _ ← execute (.showMessage d m)
  pure (.keep m)

instance : LawfulMonad (Program signature) :=
  .mk' (Program signature) Program.bind_done (fun _ _ => rfl) Program.bind_bind

theorem store_eq (d : Draft) : store d = connect >>= fun _ => transaction (storing d) := by
  have hrow : ∀ f : Message → Script (Ending Message), (rowMessage (.insertMessage d) >>= f) =
      row (.insertMessage d) .message >>= fun r => decode r >>= f := fun f => bind_assoc ..
  simp only [storing, hrow]
  rfl

theorem steady_storing (d : Draft) :
    (storing d).Steady 1 (·.isStatement) fun l ending => ∃ m r, ending = .keep m ∧
      ⟨.query (.insertMessage d) .message, .ok [r]⟩ ∈ l ∧ r.message = .ok m ∧
      Change.Sends (.store d) m (l.map (·.1)) := by
  refine ((steady_execute (by rfl)).bind fun _ => (steady_rowMessage (by rfl)).bind fun m =>
    (steady_execute (by rfl)).bind fun _ => steady_pure (Ending.keep m)).imp ?_
  rintro l ending ⟨-, l₁, l₂, rfl, rfl, m, l₃, l₄, rfl, ⟨r, rfl, hr⟩, -, l₅, l₆, rfl, rfl, rfl, rfl⟩
  exact ⟨m, r, rfl, by simp, hr, by simp [Change.Sends]⟩

/-- What marking messages as read does in its transaction. -/
def marking (reader peer : UserId) (conversation : String) (upTo : Option Int) :
    Script (Ending Nat) := do
  let count ← execute (.markRead reader conversation upTo)
  let _ ← execute (.recount conversation reader peer)
  pure (.keep count)

theorem markRead_eq (reader : UserId) (conversation : String) (upTo : Option Int) :
    markRead reader conversation upTo = match Pair.counterpart? conversation reader with
      | none => throw .notParticipant
      | some peer => connect >>= fun _ => transaction (marking reader peer conversation upTo) :=
  rfl

theorem steady_marking {reader peer : UserId} {conversation : String} (upTo : Option Int)
    (hpeer : Pair.counterpart? conversation reader = some peer) :
    (marking reader peer conversation upTo).Steady 0 (·.isStatement) fun l ending =>
      ∃ n, ending = .keep n ∧ ⟨.execute (.markRead reader conversation upTo), .ok n⟩ ∈ l ∧
        Change.Sends (.markRead reader conversation upTo) n (l.map (·.1)) := by
  refine ((steady_execute (by rfl)).bind fun n => (steady_execute (by rfl)).bind fun _ =>
    steady_pure (Ending.keep n)).imp ?_
  rintro l ending ⟨n, l₁, l₂, rfl, rfl, -, l₃, l₄, rfl, rfl, rfl, rfl⟩
  exact ⟨n, rfl, by simp, peer, hpeer, by simp⟩

/-- What retiring a message does in its transaction. -/
def retiring (id : Int) (expected target : Status) : Script (Ending Retirement) :=
  message? (.transitionReturning id expected target) >>= fun
    | some m => repairRows m expected.isUnread >>= fun _ => pure (.keep (.applied m))
    | none => message? (.findMessage id) >>= fun
      | some m => pure (.undo (.stale m))
      | none => pure (.undo .missing)

theorem bind_decode (s : Statement) (f : Message → Script α) (g : Script α) :
    (row? s .message >>= fun
      | some r => decode r >>= f
      | none => g) =
    message? s >>= fun
      | some m => f m
      | none => g := by
  refine congrArg (Program.ask (S := signature) (.query s .message)) (funext fun reply => ?_)
  rcases reply with e | _ | ⟨r, _ | ⟨r₂, rs⟩⟩
  · rfl
  · rfl
  · change ExceptT.bindCont f r.message = ExceptT.bindCont _ (r.message.map some)
    cases r.message <;> rfl
  · rfl

theorem retire_eq (id : Int) (expected target : Status) :
    retire id expected target = connect >>= fun _ => transaction (retiring id expected target) := by
  simp only [retiring, ← bind_decode]
  rfl

/-- Whether a statement counts the unread messages of a row again. -/
def IsRecount (q : Ask) : Prop :=
  ∃ conversation owner peer, q = .execute (.recount conversation owner peer)

theorem repoint_ne_recount {conversation conversation' : String} {last : Option LastMessage}
    {retired : Int} {owner peer : UserId} :
    Statement.repoint conversation last retired ≠ .recount conversation' owner peer := by
  intro h
  simpa [Statement.repoint, Statement.recount] using congrArg (·.params.length) h

/-- What a retirement sends. -/
def Retires (expected : Status) (q : Ask) : Prop :=
  q.isStatement ∧ (IsRecount q → expected.isUnread)

theorem retires_query (expected : Status) (s : Statement) (shape : Shape) :
    Retires expected (.query s shape) := by
  refine ⟨rfl, ?_⟩
  rintro ⟨_, _, _, h⟩
  cases h

theorem steady_repairRows (m : Message) (expected : Status) :
    (repairRows m expected.isUnread).Steady 0 (Retires expected) fun l _ =>
      (∃ last, l.map (·.1) = Change.repairing m last expected.isUnread) ∧
      (expected.isUnread → ∃ n, ⟨.execute (.recount m.conversation m.recipient m.sender), .ok n⟩ ∈ l) := by
  have hrepoint : ∀ last, Retires expected (.execute (.repoint m.conversation last m.id)) := by
    refine fun last => ⟨rfl, ?_⟩
    rintro ⟨_, _, _, h⟩
    exact (repoint_ne_recount (Ask.execute.inj h)).elim
  unfold repairRows
  cases hunread : expected.isUnread with
  | true =>
    refine ((steady_latest (retires_query _ _ _)).bind fun last => (steady_execute (hrepoint _)).bind
      fun _ => (steady_execute ⟨rfl, fun _ => hunread⟩).bind fun _ => steady_pure ()).imp ?_
    rintro l - ⟨last, l₁, l₂, rfl, rfl, -, l₃, l₄, rfl, rfl, n, l₅, l₆, rfl, rfl, rfl, -⟩
    exact ⟨⟨last.map LatestRow.shown, by simp [Change.repairing]⟩, fun _ => ⟨n, by simp⟩⟩
  | false =>
    refine ((steady_latest (retires_query _ _ _)).bind fun last => (steady_execute (hrepoint _)).bind
      fun _ => steady_pure ()).imp ?_
    rintro l - ⟨last, l₁, l₂, rfl, rfl, -, l₃, l₄, rfl, rfl, rfl, -⟩
    exact ⟨⟨last.map LatestRow.shown, by simp [Change.repairing]⟩, nofun⟩

/-- What retiring a message does when its status is another one. -/
def missed (id : Int) : Script (Ending Retirement) :=
  message? (.findMessage id) >>= fun
    | some m => pure (.undo (.stale m))
    | none => pure (.undo .missing)

theorem steady_missed (id : Int) (expected : Status) :
    (missed id).Steady 0 (Retires expected) fun l ending =>
      (∃ x, ending = .undo x ∧ ∀ m, x ≠ .applied m) ∧ l.map (·.1) = [.query (.findMessage id) .message] := by
  refine ((steady_message? (retires_query _ _ _)).bind (R := fun o l ending => l = [] ∧
    ending = .undo (match o with | some m => .stale m | none => .missing)) fun o => ?_).imp ?_
  · cases o <;> exact steady_pure _
  · rintro l ending ⟨o, l₁, l₂, rfl, hfound, rfl, rfl⟩
    cases o with
    | some m =>
      obtain ⟨r, rfl, -⟩ := hfound
      exact ⟨⟨.stale m, rfl, by simp⟩, rfl⟩
    | none =>
      subst hfound
      exact ⟨⟨.missing, rfl, by simp⟩, rfl⟩

theorem steady_retiring (id : Int) (expected target : Status) :
    (retiring id expected target).Steady 0 (Retires expected) fun l ending =>
      (∃ m r, ending = .keep (.applied m) ∧
        ⟨.query (.transitionReturning id expected target) .message, .ok [r]⟩ ∈ l ∧ r.message = .ok m ∧
        Change.Sends (.retire id expected target) (.applied m) (l.map (·.1)) ∧
        (expected.isUnread →
          ∃ n, ⟨.execute (.recount m.conversation m.recipient m.sender), .ok n⟩ ∈ l)) ∨
      ∃ x, ending = .undo x ∧ (∀ m, x ≠ .applied m) ∧
        Change.Sends (.retire id expected target) x (l.map (·.1)) := by
  refine ((steady_message? (retires_query _ _ _)).bind (R := fun o l ending => match o with
    | some m => ending = .keep (.applied m) ∧
      (∃ last, l.map (·.1) = Change.repairing m last expected.isUnread) ∧
      (expected.isUnread → ∃ n, ⟨.execute (.recount m.conversation m.recipient m.sender), .ok n⟩ ∈ l)
    | none => (∃ x, ending = .undo x ∧ ∀ m, x ≠ .applied m) ∧
      l.map (·.1) = [.query (.findMessage id) .message]) fun o => ?_).imp ?_
  · cases o with
    | some m =>
      refine ((steady_repairRows m expected).bind fun _ =>
        steady_pure (Ending.keep (Retirement.applied m))).imp ?_
      rintro l ending ⟨-, l₁, l₂, rfl, hrepaired, rfl, rfl⟩
      exact ⟨rfl, by simpa using hrepaired⟩
    | none => exact steady_missed id expected
  · rintro l ending ⟨o, l₁, l₂, rfl, hfound, hending⟩
    cases o with
    | some m =>
      obtain ⟨r, rfl, hr⟩ := hfound
      obtain ⟨rfl, ⟨last, hsent⟩, hrecount⟩ := hending
      refine .inl ⟨m, r, rfl, by simp, hr, ⟨last, ?_⟩, fun h => ?_⟩
      · rw [List.map_append, hsent]
        rfl
      · obtain ⟨n, hn⟩ := hrecount h
        exact ⟨n, List.mem_append_right _ hn⟩
    | none =>
      subst hfound
      obtain ⟨⟨x, rfl, hx⟩, hsent⟩ := hending
      refine .inr ⟨x, rfl, hx, ?_⟩
      rw [List.map_append, hsent]
      cases x with
      | applied m => exact (hx m rfl).elim
      | stale m => rfl
      | missing => rfl

end Script

/-! ## Discipline -/

open Script (opening Smooth Stuck Course Retires)

namespace Change

/-- How many rows a query of the change has at least. Only the message that is
stored has to be there. -/
def least : Change → Nat
  | store _ => 1
  | _ => 0

/-- Why the change is refused before the database is asked. -/
def refusal? : Change → Option Failure
  | markRead reader conversation _ => match Pair.counterpart? conversation reader with
    | none => some .notParticipant
    | some _ => none
  | _ => none

/-- The failure of the first step that fails. -/
def fault? (c : Change) (l : List Exchange) : Option Failure :=
  c.refusal?.or (l.findSome? (Database.fault? c.least))

/-- Whether a result says that something was stored. -/
def Stores : (c : Change) → Archive.Found c.ask → Prop
  | store _, _ => True
  | retire _ _ _, r => ∃ m, r = .applied m
  | markRead _ _ _, _ => True

/-- Whether a result is what the database answered. -/
def Gives : (c : Change) → List Exchange → Archive.Found c.ask → Prop
  | store d, l, m => ∃ r, ⟨.query (.insertMessage d) .message, .ok [r]⟩ ∈ l ∧ r.message = .ok m
  | retire id expected target, l, x => ∃ m r, x = .applied m ∧
      ⟨.query (.transitionReturning id expected target) .message, .ok [r]⟩ ∈ l ∧ r.message = .ok m
  | markRead reader conversation upTo, l, n =>
      ⟨.execute (.markRead reader conversation upTo), .ok n⟩ ∈ l

/-- What the database is told of a change, and how the change ends. -/
structure Disciplined (c : Change) (l : List Exchange) (r : Except Failure (Archive.Found c.ask)) :
    Prop where
  /-- Nothing but a rollback follows a step that fails. -/
  stops : l.Pairwise fun e e' => Database.fault? c.least e ≠ none → e'.1 = .rollback
  /-- Nothing follows a commit or a rollback. -/
  ends : l.Pairwise fun e _ => e.1 ≠ .commit ∧ e.1 ≠ .rollback
  /-- Statements are sent in a transaction that was started, and ends. -/
  inside : (∃ e ∈ l, e.1.isStatement) → ∃ work last, l = opening ++ work ++ [last] ∧
    (∀ e ∈ work, e.1.isStatement) ∧ (last.1 = .commit ∨ last.1 = .rollback)
  /-- A commit is sent behind steps of which none failed, for a result that the
  database gave. -/
  commits : ∀ front committed, l = front ++ [⟨.commit, committed⟩] →
    (∀ e ∈ front, Database.fault? c.least e = none) ∧ ∃ v, c.Gives front v ∧ c.Stores v ∧
      (r = .ok v ∨ ∃ e, committed = .error e ∧ r = .error e.failure)
  /-- The change tells of something stored if and only if the commit succeeded. -/
  stored : (∃ v, r = .ok v ∧ c.Stores v) ↔ ⟨.commit, .ok ()⟩ ∈ l
  /-- No commit succeeds in a change that fails. -/
  failed : ∀ f, r = .error f → ⟨.commit, .ok ()⟩ ∉ l
  /-- No commit is sent by a change that stores nothing. -/
  unchanged : ∀ v, r = .ok v → ¬ c.Stores v → ∀ e ∈ l, e.1 ≠ .commit
  /-- A change fails as the first step that fails. -/
  reported : ∀ f, r = .error f ↔ c.fault? l = some f

variable {c : Change} {l : List Exchange} {r : Except Failure (Archive.Found c.ask)}

theorem Gives.mono {c : Change} {l l' : List Exchange} {v : Archive.Found c.ask} (h : c.Gives l v)
    (hl : ∀ e ∈ l, e ∈ l') : c.Gives l' v := by
  cases c with
  | store d =>
    obtain ⟨r, hr, hm⟩ := h
    exact ⟨r, hl _ hr, hm⟩
  | retire id expected target =>
    obtain ⟨m, r, hv, hr, hm⟩ := h
    exact ⟨m, r, hv, hl _ hr, hm⟩
  | markRead reader conversation upTo => exact hl _ h

/-- The steps do not fail and end no transaction. -/
def Calm (least : Nat) (l : List Exchange) : Prop :=
  ∀ e ∈ l, Database.fault? least e = none ∧ e.1 ≠ .commit ∧ e.1 ≠ .rollback

theorem not_end_of_isStatement {q : Ask} (h : q.isStatement) : q ≠ .commit ∧ q ≠ .rollback := by
  constructor <;> rintro rfl <;> cases h

theorem calm_opening (least : Nat) : Calm least opening := by
  intro e he
  simp only [opening, List.mem_cons, List.not_mem_nil, or_false] at he
  rcases he with rfl | rfl <;> simp [Database.fault?]

theorem calm_of_smooth {least : Nat} {work : List Exchange} (h : Smooth least (·.isStatement) work) :
    Calm least (opening ++ work) := by
  intro e he
  rcases List.mem_append.mp he with he | he
  · exact calm_opening least e he
  · exact ⟨(h e he).2, not_end_of_isStatement (h e he).1⟩

section

variable {front behind : List Exchange} (hfront : Calm c.least front)
include hfront

theorem Calm.pairwise_stops
    (h : behind.Pairwise fun e e' => Database.fault? c.least e ≠ none → e'.1 = .rollback) :
    (front ++ behind).Pairwise fun e e' => Database.fault? c.least e ≠ none → e'.1 = .rollback := by
  have hquiet : ∀ e ∈ front, ∀ e' : Exchange, Database.fault? c.least e ≠ none → e'.1 = .rollback :=
    fun e he _ hfault => (hfault (hfront e he).1).elim
  exact List.pairwise_append.mpr ⟨List.pairwise_of_forall_mem_list fun e he e' _ => hquiet e he e', h,
    fun e he e' _ => hquiet e he e'⟩

theorem Calm.pairwise_ends (h : behind.Pairwise fun e _ => e.1 ≠ .commit ∧ e.1 ≠ .rollback) :
    (front ++ behind).Pairwise fun e _ => e.1 ≠ .commit ∧ e.1 ≠ .rollback :=
  List.pairwise_append.mpr ⟨List.pairwise_of_forall_mem_list fun e he _ _ => (hfront e he).2, h,
    fun e he _ _ => (hfront e he).2⟩

theorem Calm.fault?_append (hrefusal : c.refusal? = none) :
    c.fault? (front ++ behind) = behind.findSome? (Database.fault? c.least) := by
  have hnone : front.findSome? (Database.fault? c.least) = none :=
    List.findSome?_eq_none_iff.mpr fun e he => (hfront e he).1
  simp [fault?, hrefusal, List.findSome?_append, hnone]

theorem Calm.mem_commit {a : Reply .commit} : ⟨.commit, a⟩ ∈ front ++ behind ↔ ⟨.commit, a⟩ ∈ behind := by
  have hnot : (⟨.commit, a⟩ : Exchange) ∉ front := fun h => (hfront _ h).2.1 rfl
  simp [hnot]

theorem Calm.disciplined_of_fault (hrefusal : c.refusal? = none) {e : Exchange} {f : Failure}
    (hfault : Database.fault? c.least e = some f) (he : e.1 ≠ .commit ∧ e.1 ≠ .rollback)
    (hbehind : behind = [] ∨ behind = [⟨.rollback, ()⟩])
    (hinside : (∃ e' ∈ front ++ e :: behind, e'.1.isStatement) → ∃ work last,
      front ++ e :: behind = opening ++ work ++ [last] ∧ (∀ e ∈ work, e.1.isStatement) ∧
        (last.1 = .commit ∨ last.1 = .rollback)) :
    c.Disciplined (front ++ e :: behind) (.error f) := by
  have hbehind_commit : ∀ e' ∈ behind, e'.1 ≠ .commit := by
    rcases hbehind with rfl | rfl <;> simp
  have hnone : ∀ e' ∈ front ++ e :: behind, e'.1 ≠ .commit := by
    intro e' he'
    rcases List.mem_append.mp he' with he' | he'
    · exact (hfront e' he').2.1
    rcases List.mem_cons.mp he' with rfl | he'
    · exact he.1
    · exact hbehind_commit e' he'
  constructor
  case stops =>
    refine hfront.pairwise_stops ?_
    rcases hbehind with rfl | rfl <;> simp
  case ends =>
    refine hfront.pairwise_ends ?_
    rcases hbehind with rfl | rfl <;> simp [he]
  case inside => exact hinside
  case commits =>
    intro front' a hl
    exact (hnone ⟨.commit, a⟩ (by simp [hl]) rfl).elim
  case stored => exact ⟨fun ⟨_, hv, _⟩ => (nomatch hv), fun h => (hnone _ h rfl).elim⟩
  case failed => exact fun _ _ h => hnone _ h rfl
  case unchanged => exact fun _ hv => nomatch hv
  case reported =>
    intro f'
    rw [hfront.fault?_append hrefusal, List.findSome?_cons, hfault]
    simp

end

section

variable {work : List Exchange} {v : Archive.Found c.ask} (hwork : ∀ e ∈ work, e.1.isStatement)
  (hcalm : Calm c.least (opening ++ work)) (hrefusal : c.refusal? = none)
include hwork hcalm hrefusal

theorem disciplined_of_undone (hv : ¬ c.Stores v) :
    c.Disciplined (opening ++ work ++ [⟨.rollback, ()⟩]) (.ok v) := by
  have hnone : ∀ e ∈ opening ++ work ++ [⟨.rollback, ()⟩], e.1 ≠ .commit := by
    intro e he
    rcases List.mem_append.mp he with he | he
    · exact (hcalm e he).2.1
    · rw [List.mem_singleton.mp he]
      simp
  constructor
  case stops => exact hcalm.pairwise_stops (List.pairwise_singleton _ _)
  case ends => exact hcalm.pairwise_ends (List.pairwise_singleton _ _)
  case inside => exact fun _ => ⟨work, _, rfl, hwork, .inr rfl⟩
  case commits =>
    intro front a hl
    exact (hnone ⟨.commit, a⟩ (by simp [hl]) rfl).elim
  case stored =>
    refine ⟨?_, fun h => (hnone _ h rfl).elim⟩
    rintro ⟨v', hv', hstores⟩
    cases hv'
    exact (hv hstores).elim
  case failed => exact fun _ hf => nomatch hf
  case unchanged => exact fun _ _ _ => hnone
  case reported =>
    intro f
    rw [hcalm.fault?_append hrefusal]
    simp [Database.fault?]

theorem disciplined_of_commit (hgives : c.Gives work v) (hv : c.Stores v)
    {committed : Except SqlError Unit} (hr : r = match committed with
      | .ok _ => .ok v
      | .error e => .error e.failure) :
    c.Disciplined (opening ++ work ++ [⟨.commit, committed⟩]) r := by
  have hmem : (⟨.commit, .ok ()⟩ : Exchange) ∈ opening ++ work ++ [⟨.commit, committed⟩] ↔
      committed = .ok () := by
    refine (hcalm.mem_commit.trans List.mem_singleton).trans ⟨fun h => ?_, fun h => by rw [h]⟩
    cases h
    rfl
  constructor
  case stops => exact hcalm.pairwise_stops (List.pairwise_singleton _ _)
  case ends => exact hcalm.pairwise_ends (List.pairwise_singleton _ _)
  case inside => exact fun _ => ⟨work, _, rfl, hwork, .inl rfl⟩
  case commits =>
    intro front a hl
    obtain ⟨rfl, hlast⟩ := List.append_inj' hl rfl
    cases hlast
    refine ⟨fun e he => (hcalm e he).1, v, hgives.mono fun e he => List.mem_append_right _ he, hv, ?_⟩
    cases committed with
    | ok => exact .inl hr
    | error e => exact .inr ⟨e, rfl, hr⟩
  case stored =>
    refine Iff.trans ?_ hmem.symm
    cases committed <;> simp [hr, hv]
  case failed =>
    intro f hf h
    cases hmem.mp h
    cases hr.symm.trans hf
  case unchanged =>
    rintro v' hv' hnot
    cases committed <;> simp [hr] at hv'
    exact (hnot (hv' ▸ hv)).elim
  case reported =>
    intro f
    rw [hcalm.fault?_append hrefusal]
    cases committed <;> simp [hr, Database.fault?]

end

/-! ## The course of a change -/

/-- The work of a change is done: what it gives, and all that it sends. -/
def Done (c : Change) (work : List Exchange) : Script.Ending (Archive.Found c.ask) → Prop
  | .keep v => c.Gives work v ∧ c.Stores v ∧ c.Sends v (work.map (·.1))
  | .undo v => ¬ c.Stores v ∧ c.Sends v (work.map (·.1))

theorem not_stores_of_ne {id : Int} {expected target : Status} {x : Retirement} (hx : ∀ m, x ≠ .applied m) :
    ¬ (retire id expected target).Stores x := by
  rintro ⟨m, hm⟩
  exact hx m hm

/-- **Whatever the database answers**, a change that is not refused goes the course of a
transaction. -/
theorem course (h : c.script.run.Dialogue l r) (hrefusal : c.refusal? = none) :
    Course c.least (·.isStatement) c.Done l r := by
  cases c with
  | store d =>
    have hrun : (Script.store d).run.Dialogue l r := h
    rw [Script.store_eq] at hrun
    refine (Script.course_of_steady (Script.steady_storing d) hrun).imp (fun _ hq => hq) ?_
    rintro work ending ⟨m, row, rfl, hrow, hm, hsent⟩
    exact ⟨⟨row, hrow, hm⟩, trivial, hsent⟩
  | retire id expected target =>
    have hrun : (Script.retire id expected target).run.Dialogue l r := h
    rw [Script.retire_eq] at hrun
    refine (Script.course_of_steady (Script.steady_retiring id expected target) hrun).imp (fun _ hq => hq.1) ?_
    rintro work ending (⟨m, row, rfl, hrow, hm, hsent, -⟩ | ⟨x, rfl, hx, hsent⟩)
    · exact ⟨⟨m, row, rfl, hrow, hm⟩, ⟨m, rfl⟩, hsent⟩
    · exact ⟨not_stores_of_ne hx, hsent⟩
  | markRead reader conversation upTo =>
    have hrun : (Script.markRead reader conversation upTo).run.Dialogue l r := h
    rw [Script.markRead_eq] at hrun
    cases hpeer : Pair.counterpart? conversation reader with
    | none => simp [refusal?, hpeer] at hrefusal
    | some peer =>
      rw [hpeer] at hrun
      refine (Script.course_of_steady (Script.steady_marking upTo hpeer) hrun).imp (fun _ hq => hq) ?_
      rintro work ending ⟨n, rfl, hn, hsent⟩
      exact ⟨hn, trivial, hsent⟩

/-- A change that is refused asks the database nothing. -/
theorem refused {f : Failure} (h : c.script.run.Dialogue l r) (hrefusal : c.refusal? = some f) :
    l = [] ∧ r = .error f := by
  cases c with
  | store d => cases hrefusal
  | retire id expected target => cases hrefusal
  | markRead reader conversation upTo =>
    have hrun : (Script.markRead reader conversation upTo).run.Dialogue l r := h
    rw [Script.markRead_eq] at hrun
    cases hpeer : Pair.counterpart? conversation reader with
    | none =>
      rw [hpeer] at hrun
      simp only [refusal?, hpeer, Option.some.injEq] at hrefusal
      exact hrefusal ▸ Program.dialogue_done hrun
    | some peer => simp [refusal?, hpeer] at hrefusal

theorem disciplined_of_course (h : Course c.least (·.isStatement) c.Done l r) (hrefusal : c.refusal? = none) :
    c.Disciplined l r := by
  have hstatements : ∀ {work : List Exchange}, Smooth c.least (·.isStatement) work →
      ∀ e ∈ work, e.1.isStatement := fun hwork e he => (hwork e he).1
  cases h with
  | unconnected f =>
    have hempty : Calm c.least [] := fun _ he => (List.not_mem_nil he).elim
    exact hempty.disciplined_of_fault hrefusal rfl (by simp) (.inl rfl) (by simp [Ask.isStatement])
  | unstarted e =>
    have hconnected : Calm c.least [⟨.connect, .ok ()⟩] := by simp [Calm, Database.fault?]
    exact hconnected.disciplined_of_fault hrefusal rfl (by simp) (.inr rfl) (by simp [Ask.isStatement])
  | failed h =>
    obtain ⟨front, e, rfl, hfront, he, hfault⟩ := h
    have hl : opening ++ (front ++ [e]) ++ [⟨.rollback, ()⟩] =
        (opening ++ front) ++ e :: [⟨.rollback, ()⟩] := by simp
    rw [hl]
    refine (calm_of_smooth hfront).disciplined_of_fault hrefusal hfault (not_end_of_isStatement he) (.inr rfl)
      fun _ => ⟨front ++ [e], _, hl.symm, ?_, .inr rfl⟩
    intro e' he'
    rcases List.mem_append.mp he' with he' | he'
    · exact hstatements hfront e' he'
    · rw [List.mem_singleton.mp he']
      exact he
  | undone h hdone =>
    exact disciplined_of_undone (hstatements h) (calm_of_smooth h) hrefusal hdone.1
  | kept h hdone =>
    obtain ⟨hgives, hv, -⟩ := hdone
    exact disciplined_of_commit (hstatements h) (calm_of_smooth h) hrefusal hgives hv rfl
  | lost h hdone e =>
    obtain ⟨hgives, hv, -⟩ := hdone
    exact disciplined_of_commit (hstatements h) (calm_of_smooth h) hrefusal hgives hv rfl

/-- **Whatever the database answers**, a change keeps the discipline of its
transaction. -/
theorem disciplined {r : Except Failure (Archive.Found c.ask)} (h : c.script.run.Dialogue l r) :
    c.Disciplined l r := by
  cases hrefusal : c.refusal? with
  | none => exact disciplined_of_course (course h hrefusal) hrefusal
  | some f =>
    obtain ⟨rfl, rfl⟩ := refused h hrefusal
    constructor
    case reported =>
      intro f'
      rw [fault?, hrefusal, Option.some_or, Except.error.injEq, Option.some.injEq]
    all_goals simp

/-- **A change that is not refused, and of which no step fails, sends all its statements** in one
transaction. It commits if its result says that something was stored, and undoes its work
otherwise. -/
theorem completed (h : c.script.run.Dialogue l r) (hrefusal : c.refusal? = none)
    (answered : ∀ e ∈ l, Database.fault? c.least e = none) :
    ∃ v work last, r = .ok v ∧ l = opening ++ work ++ [last] ∧ c.Sends v (work.map (·.1)) ∧
      (c.Stores v ∧ last = ⟨.commit, .ok ()⟩ ∨ ¬ c.Stores v ∧ last = ⟨.rollback, ()⟩) := by
  have hcourse := course h hrefusal
  clear h
  cases hcourse with
  | unconnected f => cases answered ⟨.connect, .error f⟩ (by simp)
  | unstarted e => cases answered ⟨.start, .error e⟩ (by simp)
  | failed h =>
    obtain ⟨front, e, rfl, -, -, hfault⟩ := h
    cases hfault.symm.trans (answered e (by simp))
  | undone h hdone =>
    obtain ⟨hv, hsent⟩ := hdone
    exact ⟨_, _, _, rfl, rfl, hsent, .inr ⟨hv, rfl⟩⟩
  | kept h hdone =>
    obtain ⟨-, hv, hsent⟩ := hdone
    exact ⟨_, _, _, rfl, rfl, hsent, .inl ⟨hv, rfl⟩⟩
  | lost h hdone e => cases answered ⟨.commit, .error e⟩ (by simp)

end Change

/-! ## Counting again -/

/-- A retirement counts the unread messages of the recipient again if the
message was unread, and counts none otherwise. -/
def CountsAgain (expected : Status) (l : List Exchange) (r : Except Failure Retirement) : Prop :=
  (∀ e ∈ l, Script.IsRecount e.1 → expected = .sent ∨ expected = .delivered) ∧
    ∀ m, r = .ok (.applied m) → expected = .sent ∨ expected = .delivered →
      ∃ n, ⟨.execute (.recount m.conversation m.recipient m.sender), .ok n⟩ ∈ l

theorem retire_counts_again {id : Int} {expected target : Status} {l : List Exchange}
    {r : Except Failure Retirement} (h : (Script.retire id expected target).run.Dialogue l r) :
    CountsAgain expected l r := by
  rw [Script.retire_eq] at h
  have hcourse := Script.course_of_steady (Script.steady_retiring id expected target) h
  constructor
  · rintro e he ⟨conversation, owner, peer, hq⟩
    have hretires := hcourse.allowed e he (by rw [hq]; rfl)
    exact Status.isUnread_iff.mp (hretires.2 ⟨_, _, _, hq⟩)
  · rintro m rfl hunread
    obtain ⟨work, hwork, hE | hE⟩ := hcourse.worked
    · obtain ⟨m', r, ⟨⟩, -, -, -, hrecount⟩ | ⟨x, ⟨⟩, -⟩ := hE
      obtain ⟨n, hn⟩ := hrecount (Status.isUnread_iff.mpr hunread)
      exact ⟨n, hwork _ hn⟩
    · obtain ⟨m', r, ⟨⟩, -⟩ | ⟨x, ⟨⟩, hx, -⟩ := hE
      exact (hx m rfl).elim

end Parley.Database

namespace Parley.Store

theorem map_repointRows {α : Type} {f : Conversation → α} (hf : ∀ r last, f (r.pointAt last) = f r)
    (s : Store) (conversation : String) (retired : Int) :
    (s.repointRows conversation retired).rows.map f = s.rows.map f := by
  unfold repointRows
  rw [List.map_map]
  refine List.map_congr_left fun r _ => ?_
  simp only [Function.comp]
  split
  · exact hf r _
  · rfl

theorem unread_recountUnread (s : Store) (conversation : String) (owner peer : UserId) :
    (s.recountUnread conversation owner peer).rows.map (·.unread) = s.rows.map fun r =>
      if r.ownerKey = Pair.ownerKey owner peer then wrapCount (s.unreadOf conversation owner).length
      else r.unread := by
  unfold recountUnread updateRow
  rw [List.map_map]
  refine List.map_congr_left fun r _ => ?_
  by_cases hr : r.ownerKey = Pair.ownerKey owner peer <;> simp [hr]

/-- The unread counts behind a retirement in memory: the recipient's row is
counted again if the message was unread, and every other row keeps its count. -/
def CountsAgain (s : Store) (expected : Status) : Retirement × Store → Prop
  | (.applied m, after) => after.rows.map (·.unread) = s.rows.map fun r =>
      if (expected = .sent ∨ expected = .delivered) ∧
          r.ownerKey = Pair.ownerKey m.recipient m.sender then
        wrapCount (after.unreadOf m.conversation m.recipient).length
      else r.unread
  | (_, after) => after = s

theorem retire_counts_again (s : Store) (id : Int) (expected target : Status) (now : Time.Instant) :
    s.CountsAgain expected (s.retire id expected target now) := by
  unfold retire
  cases s.message? id with
  | none => rfl
  | some m =>
  simp only
  split
  · have hiff := Status.isUnread_iff (s := expected)
    cases hunread : expected.isUnread with
    | true =>
      have hexpected := hiff.mp hunread
      simp only [CountsAgain, hexpected, true_and, if_true]
      rw [unread_recountUnread, map_repointRows fun _ _ => rfl]
      rfl
    | false =>
      have hexpected : ¬ (expected = .sent ∨ expected = .delivered) := fun h => by
        simp [hiff.mpr h] at hunread
      simp only [CountsAgain, hexpected, false_and, if_false]
      rw [if_neg Bool.false_ne_true, map_repointRows fun _ _ => rfl]
      rfl
  · rfl

end Parley.Store

namespace Parley.Database

/-- **Transactions are disciplined.** Whatever the database answers, storing and
retiring a message and marking messages as read send nothing but a rollback behind a
step that fails, commit once and last and only what succeeded, send no statement
outside the transaction, tell of something stored if and only if the commit
succeeded, and fail as the first step that failed. Retiring counts the unread
messages again if and only if the message was unread, in the database and in
memory. -/
theorem transactions_disciplined :
    (∀ {σ : Type} (h : Program.Handler signature σ) (s : σ) (c : Change),
      c.Disciplined (c.script.run.exchanges h s) (c.script.run.run h s).1) ∧
    (∀ {σ : Type} (h : Program.Handler signature σ) (s : σ) (id : Int) (expected target : Status),
      CountsAgain expected ((Script.retire id expected target).run.exchanges h s)
        ((Script.retire id expected target).run.run h s).1) ∧
    ∀ (s : Store) (id : Int) (expected target : Status) (now : Time.Instant),
      s.CountsAgain expected (s.retire id expected target now) :=
  ⟨fun h s _ => Change.disciplined (Program.dialogue_run h _ s),
    fun h s _ _ _ => retire_counts_again (Program.dialogue_run h _ s), Store.retire_counts_again⟩

end Parley.Database
