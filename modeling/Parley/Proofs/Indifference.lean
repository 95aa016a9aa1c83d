/-
Programs to which the causes of failures make no difference.

`SameBut F` compares two outcomes that may be failures: both are the same success,
or their failures are related by `F`. A program is indifferent (`Indifferent`) if,
answered alike but for such failures, it asks the same and ends alike but for them;
what programs are made of is indifferent (`Indifferent.bind`). The scripts of an
archive are (`Script.ofAsk_indifferent`), and so is what the service does for a request,
given that it may tell its own failures and tries again for either of two that are
related (`Kindred`).
-/
import Parley.Proofs.Database.Transaction
import Parley.Server

namespace Parley

/-- The same, but for the cause of a failure. -/
inductive SameBut (F : Failure → Failure → Prop) {α : Type} : Except Failure α → Except Failure α → Prop
  | ok (a : α) : SameBut F (.ok a) (.ok a)
  | error {f f' : Failure} (h : F f f') : SameBut F (.error f) (.error f')

theorem SameBut.refl {F : Failure → Failure → Prop} {α : Type} (hF : ∀ f, F f f) (x : Except Failure α) :
    SameBut F x x := by
  cases x with
  | ok a => exact .ok a
  | error f => exact .error (hF f)

namespace Program

variable {S : Signature} {α β : Type} {R : (q : S.Ask) → S.Reply q → S.Reply q → Prop}
  {F : Failure → Failure → Prop}

/-- Answered as `R` relates, the program asks the same, and ends the same but for the
cause of a failure. -/
def Indifferent (R : (q : S.Ask) → S.Reply q → S.Reply q → Prop) (F : Failure → Failure → Prop)
    (x : ExceptT Failure (Program S) α) : Prop :=
  x.run.Agree (fun _ => True) R (SameBut F) x.run

theorem Indifferent.pure (a : α) : Indifferent R F (Pure.pure a : ExceptT Failure (Program S) α) :=
  .done (.ok a)

theorem Indifferent.throw {f : Failure} (h : F f f) :
    Indifferent R F (MonadExcept.throw f : ExceptT Failure (Program S) α) :=
  .done (.error h)

theorem Indifferent.bind {x : ExceptT Failure (Program S) α} {f : α → ExceptT Failure (Program S) β}
    (hx : Indifferent R F x) (hf : ∀ a, Indifferent R F (f a)) : Indifferent R F (x >>= f) := by
  unfold Indifferent
  rw [ExceptT.run_bind]
  refine Agree.bind hx fun r r' h => ?_
  cases h with
  | ok a => exact hf a
  | error h => exact .done (.error h)

theorem Indifferent.ofExcept {x : Except Failure α} (h : ∀ f, x = .error f → F f f) :
    Indifferent R F (ExceptT.mk (.done x) : ExceptT Failure (Program S) α) := by
  cases x with
  | ok a => exact .done (.ok a)
  | error f => exact .done (.error (h f rfl))

theorem Agree.obeys {P : S.Ask → Prop} {E : α → α → Prop} {p : Program S α} (h : p.Agree P R E p) :
    p.Obeys P (fun q r => R q r r) fun a => E a a := by
  induction p with
  | done a =>
    cases h with
    | done h => exact h
  | ask q next ih =>
    cases h with
    | ask hP h => exact ⟨hP, fun r hr => ih r (h r r hr)⟩

end Program

/-- Failures that are told alike: what the service tells of its own accord is one of
them, and whether the work may be done again is the same. -/
structure Kindred (F : Failure → Failure → Prop) : Prop where
  own : ∀ f, f.currentStatus = none → F f f
  retryable : ∀ f f', F f f' → f'.retryable = f.retryable

open Program (Agree Indifferent)

variable {F : Failure → Failure → Prop} {α β : Type}

/-! ## Scripts -/

namespace Database

/-- Answers of a database that are the same, but for the cause of a failure. -/
def SameAnswers (F : Failure → Failure → Prop) : (q : Ask) → Reply q → Reply q → Prop
  | .connect, r, r' => SameBut F (r.mapError PoolFault.failure) (r'.mapError PoolFault.failure)
  | .start, r, r' => SameBut F (r.mapError SqlError.failure) (r'.mapError SqlError.failure)
  | .commit, r, r' => SameBut F (r.mapError SqlError.failure) (r'.mapError SqlError.failure)
  | .rollback, _, _ => True
  | .execute _, r, r' => SameBut F (r.mapError SqlError.failure) (r'.mapError SqlError.failure)
  | .query _ _, r, r' => SameBut F (r.mapError SqlError.failure) (r'.mapError SqlError.failure)

theorem sameBut_mapError {ε : Type} {g : ε → Failure} {r r' : Except ε α}
    (h : SameBut F (r.mapError g) (r'.mapError g)) :
    (∃ a, r = .ok a ∧ r' = .ok a) ∨ ∃ e e', r = .error e ∧ r' = .error e' ∧ F (g e) (g e') := by
  cases r with
  | ok a =>
    cases r' with
    | ok a' => cases h with | ok => exact .inl ⟨a, rfl, rfl⟩
    | error e' => nomatch h
  | error e =>
    cases r' with
    | ok a' => nomatch h
    | error e' => cases h with | error h => exact .inr ⟨e, e', rfl, rfl, h⟩

namespace Script

theorem connect_indifferent : Indifferent (SameAnswers F) F connect :=
  Agree.ask trivial fun _ _ h => .done h

theorem execute_indifferent (s : Statement) : Indifferent (SameAnswers F) F (execute s) :=
  Agree.ask trivial fun _ _ h => .done h

theorem query_indifferent (s : Statement) (shape : Shape) :
    Indifferent (SameAnswers F) F (query s shape) :=
  Agree.ask trivial fun _ _ h => .done h

theorem finish_agree {x x' : Except Failure (Ending α)} (h : SameBut F x x') :
    (finish x).Agree (fun _ => True) (SameAnswers F) (SameBut F) (finish x') := by
  cases h with
  | ok ending =>
    cases ending with
    | keep value =>
      refine .ask trivial fun r r' hr => ?_
      rcases sameBut_mapError hr with ⟨a, rfl, rfl⟩ | ⟨e, e', rfl, rfl, he⟩
      · exact .done (.ok value)
      · exact .done (.error he)
    | undo value => exact .ask trivial fun _ _ _ => .done (.ok value)
  | error h => exact .ask trivial fun _ _ _ => .done (.error h)

theorem transaction_indifferent {work : Script (Ending α)} (h : Indifferent (SameAnswers F) F work) :
    Indifferent (SameAnswers F) F (transaction work) := by
  refine Agree.ask trivial fun r r' hr => ?_
  rcases sameBut_mapError hr with ⟨a, rfl, rfl⟩ | ⟨e, e', rfl, rfl, he⟩
  · change (work.run.bind finish).Agree _ _ _ (work.run.bind finish)
    exact Agree.bind h fun x x' hx => finish_agree hx
  · exact .ask trivial fun _ _ _ => .done (.error he)

variable (hF : ∀ f, f.currentStatus = none → F f f)

include hF

theorem row_indifferent (s : Statement) (shape : Shape) : Indifferent (SameAnswers F) F (row s shape) := by
  refine (query_indifferent s shape).bind fun rows => ?_
  rcases rows with _ | ⟨r, _ | ⟨r₂, rs⟩⟩
  · exact .throw (hF _ rfl)
  · exact .pure r
  · exact .throw (hF _ rfl)

theorem row?_indifferent (s : Statement) (shape : Shape) : Indifferent (SameAnswers F) F (row? s shape) := by
  refine (query_indifferent s shape).bind fun rows => ?_
  rcases rows with _ | ⟨r, _ | ⟨r₂, rs⟩⟩
  · exact .pure none
  · exact .pure (some r)
  · exact .throw (hF _ rfl)

theorem decode_indifferent (r : MessageRow) : Indifferent (SameAnswers F) F (decode r) := by
  refine .ofExcept fun f hf => hF f ?_
  unfold MessageRow.message at hf
  split at hf <;> cases hf <;> rfl

theorem store_indifferent (d : Draft) : Indifferent (SameAnswers F) F (store d) := by
  refine connect_indifferent.bind fun _ => transaction_indifferent ?_
  refine (execute_indifferent _).bind fun _ => ?_
  refine (row_indifferent hF _ _).bind fun r => ?_
  refine (decode_indifferent hF r).bind fun m => ?_
  exact (execute_indifferent _).bind fun _ => .pure _

theorem find_indifferent (id : Int) : Indifferent (SameAnswers F) F (find id) := by
  refine connect_indifferent.bind fun _ => (row?_indifferent hF _ _).bind fun r => ?_
  cases r with
  | none => exact .pure none
  | some r => exact (decode_indifferent hF r).bind fun m => .pure (some m)

theorem repairRows_indifferent (m : Message) (recounts : Bool) :
    Indifferent (SameAnswers F) F (repairRows m recounts) := by
  refine (row?_indifferent hF _ _).bind fun last => (execute_indifferent _).bind fun _ => ?_
  split
  · exact (execute_indifferent _).bind fun _ => .pure ()
  · exact .pure ()

theorem retire_indifferent (id : Int) (expected target : Status) :
    Indifferent (SameAnswers F) F (retire id expected target) := by
  refine connect_indifferent.bind fun _ => transaction_indifferent ?_
  refine (row?_indifferent hF _ _).bind fun r => ?_
  cases r with
  | some r =>
    refine (decode_indifferent hF r).bind fun m => ?_
    exact (repairRows_indifferent hF m _).bind fun _ => .pure _
  | none =>
    refine (row?_indifferent hF _ _).bind fun r => ?_
    cases r with
    | some r => exact (decode_indifferent hF r).bind fun m => .pure _
    | none => exact .pure _

theorem markRead_indifferent (reader : UserId) (conversation : String) (upTo : Option Int) :
    Indifferent (SameAnswers F) F (markRead reader conversation upTo) := by
  unfold markRead
  split
  · exact .throw (hF _ rfl)
  · refine connect_indifferent.bind fun _ => transaction_indifferent ?_
    exact (execute_indifferent _).bind fun _ => (execute_indifferent _).bind fun _ => .pure _

theorem decodeAll_indifferent : ∀ rows : List MessageRow, Indifferent (SameAnswers F) F (rows.mapM decode)
  | [] => .pure []
  | r :: rows => by
    rw [List.mapM_cons]
    exact (decode_indifferent hF r).bind fun m => (decodeAll_indifferent rows).bind fun ms => .pure _

theorem history_indifferent (conversation : String) (before : Option Int) (limit : Int) :
    Indifferent (SameAnswers F) F (history conversation before limit) :=
  connect_indifferent.bind fun _ => (query_indifferent _ _).bind fun rows => decodeAll_indifferent hF rows

/-- **No script of the archive minds why the database fails.** -/
theorem ofAsk_indifferent (q : Archive.Ask) : Indifferent (SameAnswers F) F (ofAsk q) := by
  cases q with
  | store d => exact store_indifferent hF d
  | find id => exact find_indifferent hF id
  | transition id old new =>
    exact connect_indifferent.bind fun _ => (execute_indifferent _).bind fun _ => .pure _
  | retire id expected target => exact retire_indifferent hF id expected target
  | markRead reader conversation upTo => exact markRead_indifferent hF reader conversation upTo
  | history conversation before limit => exact history_indifferent hF conversation before limit
  | rows user offset limit =>
    refine connect_indifferent.bind fun _ => (row_indifferent hF _ _).bind fun total => ?_
    exact (query_indifferent _ _).bind fun page => .pure _
  | row owner peer => exact connect_indifferent.bind fun _ => row?_indifferent hF _ _
  | unread user conversation => exact connect_indifferent.bind fun _ => row_indifferent hF _ _

end Script

end Database

/-! ## The service -/

namespace Surroundings

/-- Answers of the surroundings that are the same, but for the cause of a failure. Why
there is no profile is no matter at all. -/
def SameAnswers (F : Failure → Failure → Prop) : (q : Ask) → signature.Reply q → signature.Reply q → Prop
  | .archive _, r, r' => SameBut F r r'
  | .areFriends _ _, r, r' => SameBut F r r'
  | .profile _, r, r' => SameBut (fun _ _ => True) r r'
  | .openSession _, r, r' => SameBut F r r'
  | _, r, r' => r' = r

end Surroundings

open Surroundings (Ask SameAnswers signature)

namespace Action

theorem archive_indifferent (q : Archive.Ask) : Indifferent (SameAnswers F) F (archive q) :=
  Agree.ask trivial fun _ _ h => .done h

theorem areFriends_indifferent (user target : UserId) :
    Indifferent (SameAnswers F) F (areFriends user target) :=
  Agree.ask trivial fun _ _ h => .done h

theorem query_indifferent {q : Ask} {f : signature.Reply q → Action β}
    (hq : ∀ r r', SameAnswers F q r r' → r' = r) (hf : ∀ r, Indifferent (SameAnswers F) F (f r)) :
    Indifferent (SameAnswers F) F (query q >>= f) := by
  refine Agree.ask trivial fun r r' h => ?_
  rw [hq r r' h]
  exact hf r

theorem lone_query_indifferent {q : Ask} (hq : ∀ r r', SameAnswers F q r r' → r' = r) :
    Indifferent (SameAnswers F) F (query q) := by
  refine Agree.ask trivial fun r r' h => ?_
  rw [hq r r' h]
  exact .done (.ok r)

end Action

namespace Messaging

open Parley.Action (archive_indifferent areFriends_indifferent query_indifferent)

theorem storeRetrying_indifferent (kindred : Kindred F) (draft : Draft) :
    ∀ n, Indifferent (SameAnswers F) F (storeRetrying draft n)
  | 0 => archive_indifferent _
  | n + 1 => by
    refine Agree.ask trivial fun r r' h => ?_
    cases h with
    | ok m => exact .done (.ok m)
    | @error f f' h =>
      change Agree _ _ _ (if f.retryable then storeRetrying draft n else throw f).run
        (if f'.retryable then storeRetrying draft n else throw f').run
      -- Both failures are tried again, or neither is.
      rw [kindred.retryable f f' h]
      split
      · exact storeRetrying_indifferent kindred draft n
      · exact .done (.error h)

theorem deliver_indifferent (m : Message) : Indifferent (SameAnswers F) F (deliver m) := by
  refine query_indifferent (fun _ _ h => h) fun taken => ?_
  cases taken with
  | false => exact .pure m
  | true =>
    -- The message is stored by now, so that a failure here is not told.
    refine Agree.ask trivial fun r r' h => ?_
    cases h with
    | ok moved => cases moved <;> exact .done (.ok _)
    | error h => exact .done (.ok m)

theorem check_own {settings : MessageSettings} {request : SendRequest} {f : Failure}
    (h : request.check settings = .error f) : f.currentStatus = none := by
  unfold SendRequest.check at h
  split at h
  · cases h; rfl
  split at h
  · cases h; rfl
  split at h
  · cases h; rfl
  split at h
  · cases h; rfl
  split at h
  · cases h; rfl
  · cases h

theorem send_indifferent (kindred : Kindred F) (settings : MessageSettings) (request : SendRequest) :
    Indifferent (SameAnswers F) F (send settings request) := by
  refine (Indifferent.ofExcept fun f h => kindred.own f (check_own h)).bind fun draft => ?_
  refine (areFriends_indifferent _ _).bind fun friends => ?_
  cases friends with
  | false => exact .throw (kindred.own _ rfl)
  | true => exact (storeRetrying_indifferent kindred draft _).bind deliver_indifferent

theorem participating_indifferent (kindred : Kindred F) (conversation : String) (user : UserId) :
    Indifferent (SameAnswers F) F (participating conversation user) := by
  refine (Indifferent.ofExcept fun f h => kindred.own f ?_).bind fun _ => .pure ()
  unfold counterpart at h
  split at h
  · cases h; rfl
  · split at h <;> cases h
    rfl

theorem history_indifferent (kindred : Kindred F) (viewer : UserId) (conversation : String)
    (before limit : Option Int) :
    Indifferent (SameAnswers F) F (history viewer conversation before limit) :=
  (participating_indifferent kindred _ _).bind fun _ => (archive_indifferent _).bind fun _ => .pure _

theorem markRead_indifferent (kindred : Kindred F) (reader : UserId) (conversation : String)
    (upTo : Option Int) : Indifferent (SameAnswers F) F (markRead reader conversation upTo) :=
  (participating_indifferent kindred _ _).bind fun _ => archive_indifferent _

theorem unread_indifferent (kindred : Kindred F) (user : UserId) (conversation : Option String) :
    Indifferent (SameAnswers F) F (unread user conversation) := by
  unfold unread
  simp only
  split
  · exact (participating_indifferent kindred _ _).bind fun _ => archive_indifferent _
  · exact archive_indifferent _

section

variable (hF : ∀ f, F f f)

include hF

theorem existing_indifferent (id : Int) : Indifferent (SameAnswers F) F (existing id) := by
  refine (archive_indifferent (.find id)).bind fun found => ?_
  cases found with
  | none => exact .throw (hF _)
  | some m => exact .pure m

theorem retireChecked_indifferent {check : Message → Action Unit}
    (hcheck : ∀ m, Indifferent (SameAnswers F) F (check m)) (target : Status) :
    ∀ n m, Indifferent (SameAnswers F) F (retireChecked check target n m)
  | 0, m => .throw (hF _)
  | n + 1, m => by
    refine (hcheck m).bind fun _ => (archive_indifferent (.retire m.id m.status target)).bind fun r => ?_
    cases r with
    | applied m' => exact .pure m'
    | stale m' => exact retireChecked_indifferent hcheck target n m'
    | missing => exact .throw (hF _)

theorem recallMessage_indifferent (settings : MessageSettings) (user : UserId) (id : Int) :
    Indifferent (SameAnswers F) F (recallMessage settings user id) := by
  have hcheck : ∀ m, Indifferent (SameAnswers F) F (recallCheck settings user m) := fun m =>
    (Indifferent.ofExcept fun f _ => hF f).bind fun _ =>
      query_indifferent (fun _ _ h => h) fun _ => .ofExcept fun f _ => hF f
  refine (existing_indifferent hF id).bind fun m => (retireChecked_indifferent hF hcheck _ _ m).bind fun m => ?_
  exact query_indifferent (fun _ _ h => h) fun _ => .pure _

theorem deleteMessage_indifferent (user : UserId) (id : Int) :
    Indifferent (SameAnswers F) F (deleteMessage user id) := by
  have hcheck : ∀ m, Indifferent (SameAnswers F) F (Action.ofExcept (checkDelete user m)) := fun m =>
    .ofExcept fun f _ => hF f
  refine (existing_indifferent hF id).bind fun m => (retireChecked_indifferent hF hcheck _ _ m).bind fun m => ?_
  exact query_indifferent (fun _ _ h => h) fun _ => .pure _

end

end Messaging

open Parley.Action (archive_indifferent lone_query_indifferent)

theorem Inbox.views_indifferent : ∀ rows, Indifferent (SameAnswers F) F (Inbox.views rows)
  | [] => .pure []
  | row :: rows => by
    refine Agree.ask trivial fun r r' h => ?_
    have hrest := views_indifferent rows
    cases h with
    | ok profile => exact hrest.bind fun rest => .pure _
    | error h => exact hrest.bind fun rest => .pure rest

theorem Inbox.conversations_indifferent (user : UserId) (page limit : Option Int) :
    Indifferent (SameAnswers F) F (Inbox.conversations user page limit) :=
  (archive_indifferent (.rows _ _ _)).bind fun _ => (Inbox.views_indifferent _).bind fun _ => .pure _

theorem push_indifferent (kindred : Kindred F) (request : PushRequest) :
    Indifferent (SameAnswers F) F (push request) := by
  unfold push
  split
  · exact .throw (kindred.own _ rfl)
  split
  · exact .throw (kindred.own _ rfl)
  · exact lone_query_indifferent fun _ _ h => h

theorem Http.isOnline_indifferent (kindred : Kindred F) (user : UserId) :
    Indifferent (SameAnswers F) F (Http.isOnline user) := by
  by_cases hid : user ≤ 0
  · rw [show isOnline user = throw (.invalidUserId user) from if_pos hid]
    exact .throw (kindred.own _ rfl)
  · rw [show isOnline user = Action.query (.isOnline user) from if_neg hid]
    exact Action.lone_query_indifferent fun _ _ h => h

end Parley
