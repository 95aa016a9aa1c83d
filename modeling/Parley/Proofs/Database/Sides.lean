/-
The rows of a pair, whichever of its users writes.

The two sides of a pair have their rows made by one statement for both directions
(`inserted?_makeRows`), shown the message by the keys that were inserted, and counted
again by the recipient's. Run on the rows of an archive, these statements change the
rows that the archive in memory changes, and as it does (`storing_alike`,
`run?_recount`).
-/
import Parley.Proofs.Database.Attempt
import Parley.Proofs.Database.Sql

namespace Parley

open Time (Instant)

/-- The two users of a pair, each as the owner of a row, the lowest first. -/
def Pair.sides (a b : UserId) : List (UserId × UserId) :=
  if a = b then [(a, a)] else [(min a b, max a b), (max a b, min a b)]

theorem Pair.mem_sides {a b : Int} {key : String} :
    (∃ side ∈ sides a b, ownerKey side.1 side.2 = key) ↔
      key = ownerKey a b ∨ key = ownerKey b a := by
  unfold sides
  by_cases h : a = b
  · simp [h, eq_comm]
  rcases le_total a b with hle | hle
  · simp [h, min_eq_left hle, max_eq_right hle, eq_comm]
  · simp [h, min_eq_right hle, max_eq_left hle, eq_comm, or_comm]

namespace Store

variable {s s' : Store} {owner peer : UserId} {conversation key : String} {now : Instant}

/-! ## Rows by their keys -/

/-- A row, whatever its number. -/
def unnumbered (r : Conversation) : Conversation := { r with id := 0 }

/-- The row of a key, whatever its number. -/
def rowAt (s : Store) (key : String) : Option Conversation := (s.row? key).map unnumbered

/-- A row that was just made. -/
def fresh (owner peer : UserId) (conversation : String) (now : Instant) : Conversation :=
  unnumbered (Store.empty.newRow owner peer conversation now)

theorem rowAt_congr (h : s.rows = s'.rows) (key : String) : s.rowAt key = s'.rowAt key := by
  unfold rowAt row?
  rw [h]

theorem rowAt_mapRows {f : Conversation → Conversation} (hkey : ∀ r, (f r).ownerKey = r.ownerKey)
    (hid : ∀ r, unnumbered (f r) = f (unnumbered r)) (key : String) :
    rowAt { s with rows := s.rows.map f } key = (s.rowAt key).map f := by
  unfold rowAt row?
  simp only [List.find?_map, Function.comp_def, hkey, Option.map_map, hid]

theorem rowAt_ensureRow (s : Store) (owner peer : UserId) (conversation : String) (now : Instant)
    (key : String) : (s.ensureRow owner peer conversation now).rowAt key =
      if key = Pair.ownerKey owner peer then some ((s.rowAt key).getD (fresh owner peer conversation now))
      else s.rowAt key := by
  rcases ensureRow_cases s owner peer conversation now with ⟨hmem, he⟩ | ⟨hmem, he⟩ <;> rw [he]
  · split
    · next hkey =>
      subst hkey
      cases hrow : s.row? (Pair.ownerKey owner peer) with
      | none => exact (row?_eq_none.mp hrow hmem).elim
      | some r => simp [rowAt, hrow]
    · rfl
  · unfold rowAt row?
    simp only [List.find?_append, List.find?_singleton, newRow, beq_iff_eq]
    split
    · next hkey =>
      subst hkey
      rw [show s.rows.find? (fun r => r.ownerKey == Pair.ownerKey owner peer) = none from
        row?_eq_none.mpr hmem]
      simp [fresh, newRow, unnumbered]
    · next hkey => simp [Ne.symm hkey]

theorem rowAt_withRows (s : Store) (d : Draft) (now : Instant) (key : String) :
    (s.withRows d now).rowAt key =
      (((Pair.sides d.sender d.recipient).foldl
        (fun s side => s.ensureRow side.1 side.2 d.conversation now) s).rowAt key) := by
  unfold withRows Pair.sides
  by_cases hself : d.sender = d.recipient
  · simp only [hself, if_true, List.foldl_cons, List.foldl_nil, rowAt_ensureRow]
    split <;> simp
  have hother : Pair.ownerKey d.sender d.recipient ≠ Pair.ownerKey d.recipient d.sender := fun h =>
    hself (Pair.ownerKey_eq_iff.mp h).1
  rw [if_neg hself]
  rcases le_total d.sender d.recipient with hle | hle
  · rw [min_eq_left hle, max_eq_right hle]
    rfl
  · rw [min_eq_right hle, max_eq_left hle]
    simp only [List.foldl_cons, List.foldl_nil, rowAt_ensureRow]
    by_cases hs : key = Pair.ownerKey d.sender d.recipient
    · simp [hs, hother]
    · simp [hs]

end Store

namespace Database

variable {s : Store} {now : Instant} {d : Draft} {m : Message}

/-! ## The statement that makes the rows -/

/-- The values of a new row. -/
def newValues (conversation : String) (side : UserId × UserId) : List (Column × Option Value) :=
  [(.ownerKey, some (.text (Pair.ownerKey side.1 side.2))), (.owner, some (.int side.1)),
    (.peer, some (.int side.2)), (.conversation, some (.text conversation))]

namespace Statement

theorem makeRows_comm (a b : UserId) : makeRows a b = makeRows b a := by
  unfold makeRows
  rw [min_comm, max_comm, Pair.id_comm]

theorem inserted?_makeRows (a b : Int) :
    (makeRows a b).inserted? = some ((Pair.sides a b).map (newValues (Pair.id a b))) := by
  have hlow : min a b = max a b ↔ a = b := by omega
  simp only [inserted?, command?_makeRows, Option.map_some, Pair.sides]
  by_cases h : a = b
  · subst h
    simp [makeRows, makeOne, Command.inserted?, param?, newValues]
  · simp [makeRows, hlow, h, makeTwo, Command.inserted?, param?, newValues]

theorem keys?_makeRows (a b : Int) : (makeRows a b).keys? =
    some ((Pair.sides a b).map fun side => some (.text (Pair.ownerKey side.1 side.2))) := by
  have hlow : min a b = max a b ↔ a = b := by omega
  simp only [keys?, command?_makeRows, Option.map_some, Pair.sides]
  by_cases h : a = b
  · subst h
    simp [makeRows, makeOne, Command.keys?, param?]
  · simp [makeRows, hlow, h, makeTwo, Command.keys?, param?]

theorem rowAt_put (s : Store) (owner peer : UserId) (conversation : String) (now : Instant) (key : String) :
    (Command.put s (s.newRow owner peer conversation now)).rowAt key =
      (s.ensureRow owner peer conversation now).rowAt key := by
  refine Store.rowAt_congr ?_ key
  unfold Command.put
  rcases Store.ensureRow_cases s owner peer conversation now with ⟨hmem, he⟩ | ⟨hmem, he⟩ <;> rw [he]
  · exact if_pos hmem
  · exact if_neg hmem

theorem run?_makeRows (a b : Int) (now : Instant) (s : Store) :
    (makeRows a b).run? now s = some ((Pair.sides a b).foldl
      (fun s side => Command.put s (s.newRow side.1 side.2 (Pair.id a b) now)) s) := by
  have hrun : (makeRows a b).run? now s = ((Pair.sides a b).map (newValues (Pair.id a b))).foldlM
      (fun s values => (Command.setAll? values (Command.blank (s.lastRow + 1) now)).map (Command.put s)) s := by
    have hinserted := inserted?_makeRows a b
    simp only [inserted?, run?, command?_makeRows, Option.map_some, Option.some.injEq,
      Option.bind_some] at hinserted ⊢
    rw [← hinserted]
    by_cases h : a = b
    · simp only [if_pos h]
      rfl
    · simp only [if_neg h]
      rfl
  rw [hrun]
  clear hrun
  generalize Pair.sides a b = sides
  induction sides generalizing s with
  | nil => rfl
  | cons side sides ih => exact ih _

theorem rowAt_made (d : Draft) (now : Instant) (s : Store) (key : String) :
    ((Pair.sides d.sender d.recipient).foldl
      (fun s side => Command.put s (s.newRow side.1 side.2 d.conversation now)) s).rowAt key =
      (s.withRows d now).rowAt key := by
  rw [Store.rowAt_withRows]
  have hfold : ∀ (sides : List (UserId × UserId)) (s s' : Store), (∀ key, s.rowAt key = s'.rowAt key) →
      (sides.foldl (fun s side => Command.put s (s.newRow side.1 side.2 d.conversation now)) s).rowAt key =
        (sides.foldl (fun s side => s.ensureRow side.1 side.2 d.conversation now) s').rowAt key := by
    intro sides
    induction sides with
    | nil => exact fun s s' h => h key
    | cons side sides ih =>
      refine fun s s' h => ih _ _ fun key => ?_
      rw [rowAt_put, Store.rowAt_ensureRow, Store.rowAt_ensureRow, h]
  exact hfold _ s s fun _ => rfl

/-! ## The statement that shows a message -/

theorem keys?_showMessage (d : Draft) (m : Message) : (showMessage d m).keys? =
    some [some (.text (Pair.ownerKey d.sender d.recipient)),
      some (.text (Pair.ownerKey d.recipient d.sender))] := by
  rw [keys?, command?_showMessage]
  rfl

/-- The row behind the statement that shows a message. -/
def shown? (d : Draft) (m : Message) (now : Instant) (r : Conversation) : Option Conversation :=
  let counted := { Store.showing m r with
    updatedAt := now
    unread := r.unread + if r.ownerKey = Pair.ownerKey d.recipient d.sender then 1 else 0 }
  if r.ownerKey = Pair.ownerKey d.sender d.recipient ∨ r.ownerKey = Pair.ownerKey d.recipient d.sender then
    if 0 ≤ counted.unread ∧ counted.unread ≤ Text.IntRange.int32.greatest then some counted else none
  else some r

theorem run?_showMessage (d : Draft) (m : Message) (now : Instant) (s : Store) :
    (showMessage d m).run? now s =
      (s.rows.mapM (shown? d m now)).map fun rows => { s with rows := rows } := by
  have hrow : Command.updated? (showMessage d m).params now s
      [(.lastId, .param 1), (.lastContent, .param 2), (.lastTime, .param 3), (.updatedAt, .now),
        (.unread, .unreadPlus (.byKey 5 (.number 1) (.number 0)))] [4, 5] = shown? d m now := by
    funext r
    unfold Command.updated? shown?
    simp only [showMessage, param?, List.map_cons, List.map_nil, List.mem_cons, List.not_mem_nil, or_false,
      List.getElem?_cons_succ, List.getElem?_cons_zero, Option.some.injEq, Value.text.injEq]
    refine if_congr Iff.rfl ?_ rfl
    by_cases hkey : r.ownerKey = Pair.ownerKey d.recipient d.sender
    · simp [Command.setAll?, Expr.value?, param?, Column.set?, hkey, Store.showing]
    · simp [Command.setAll?, Expr.value?, param?, Column.set?, hkey, Ne.symm hkey, Store.showing]
  rw [run?, command?_showMessage, Option.bind_some, showing, Command.run?, hrow]

end Statement

/-- The counts of the rows fit their column, and so does one more in the row of a key. -/
def Fits (key : String) (s : Store) : Prop :=
  ∀ r ∈ s.rows, 0 ≤ r.unread ∧
    r.unread + (if r.ownerKey = key then 1 else 0) ≤ Text.IntRange.int32.greatest

theorem wrapCount_of_fits {n : Int} (h : 0 ≤ n) (h' : n ≤ Text.IntRange.int32.greatest) :
    Store.wrapCount n = n := by
  obtain ⟨n, rfl⟩ := Int.eq_ofNat_of_zero_le h
  simp only [Text.IntRange.int32] at h'
  exact Store.wrapCount_of_lt (by omega)

theorem shown?_eq (hsender : m.sender = d.sender) (hrecipient : m.recipient = d.recipient)
    (htime : m.createdAt = now) {r : Conversation} (hleast : 0 ≤ r.unread)
    (hmost : r.unread + (if r.ownerKey = Pair.ownerKey d.recipient d.sender then 1 else 0) ≤
      Text.IntRange.int32.greatest) :
    Statement.shown? d m now r = some (Store.afterStoring m r) := by
  unfold Statement.shown? Store.afterStoring
  simp only [← htime, ← hsender, ← hrecipient] at hmost ⊢
  by_cases hkey : r.ownerKey = Pair.ownerKey m.recipient m.sender
  · simp only [hkey, if_true] at hmost
    have hcount : 0 ≤ r.unread + 1 := by omega
    simp [hkey, hmost, hcount, wrapCount_of_fits, Store.showing]
  · simp only [hkey, if_false, or_false, Int.add_zero] at hmost ⊢
    split
    · simp [hleast, hmost, Store.showing]
    · rfl

theorem run?_showMessage_of_fits (hsender : m.sender = d.sender) (hrecipient : m.recipient = d.recipient)
    (htime : m.createdAt = now) (hfits : Fits (Pair.ownerKey d.recipient d.sender) s) :
    (Statement.showMessage d m).run? now s = some { s with rows := s.rows.map (Store.afterStoring m) } := by
  rw [Statement.run?_showMessage, mapM_eq_some_map fun r hr =>
    shown?_eq hsender hrecipient htime (hfits r hr).1 (hfits r hr).2]
  rfl

theorem fits_put {key : String} (h : Fits key s) (owner peer : UserId) (conversation : String) :
    Fits key (Command.put s (s.newRow owner peer conversation now)) := by
  intro r hr
  unfold Command.put at hr
  simp only at hr
  split at hr
  · exact h r hr
  rcases List.mem_append.mp hr with hr | hr
  · exact h r hr
  · rw [List.mem_singleton.mp hr]
    by_cases hkey : Pair.ownerKey owner peer = key <;> simp [Store.newRow, Text.IntRange.int32, hkey]

theorem fits_made {key : String} (h : Fits key s) (sides : List (UserId × UserId)) (conversation : String) :
    Fits key (sides.foldl (fun s side => Command.put s (s.newRow side.1 side.2 conversation now)) s) := by
  induction sides generalizing s with
  | nil => exact h
  | cons side sides ih => exact ih (fits_put h _ _ _)

theorem afterStoring_unnumbered (m : Message) (r : Conversation) :
    Store.unnumbered (Store.afterStoring m r) = Store.afterStoring m (Store.unnumbered r) := by
  have hkey : (Store.unnumbered r).ownerKey = r.ownerKey := rfl
  unfold Store.afterStoring
  rw [hkey]
  split
  · rfl
  · split <;> rfl

theorem rowAt_add (s : Store) (d : Draft) (now : Instant) (key : String) :
    (s.add d now).2.rowAt key =
      ((s.withRows d now).rowAt key).map (Store.afterStoring (s.messageOf d now)) := by
  rw [Store.add_eq, ← Store.rowAt_mapRows (Store.afterStoring_keepsOwner _).key (afterStoring_unnumbered _)]
  exact Store.rowAt_congr rfl key

/-- **The two statements of a draft change the rows as memory does.** -/
theorem storing_alike (d : Draft) (now : Instant) (hfits : Fits (Pair.ownerKey d.recipient d.sender) s) :
    ∃ made shown, (Statement.makeRows d.sender d.recipient).run? now s = some made ∧
      (Statement.showMessage d (s.messageOf d now)).run? now made = some shown ∧
      ∀ key, shown.rowAt key = (s.add d now).2.rowAt key := by
  refine ⟨_, _, Statement.run?_makeRows _ _ _ _,
    run?_showMessage_of_fits rfl rfl rfl (fits_made hfits _ _), fun key => ?_⟩
  rw [rowAt_add, Store.rowAt_mapRows (Store.afterStoring_keepsOwner _).key (afterStoring_unnumbered _)]
  exact congrArg _ (Statement.rowAt_made d now s key)

theorem rowAt_add_of_ne {key : String} (hsender : key ≠ Pair.ownerKey d.sender d.recipient)
    (hrecipient : key ≠ Pair.ownerKey d.recipient d.sender) :
    (s.add d now).2.rowAt key = s.rowAt key := by
  rw [rowAt_add, Store.withRows, Store.rowAt_ensureRow, if_neg hrecipient, Store.rowAt_ensureRow, if_neg hsender]
  unfold Store.rowAt
  cases hrow : s.row? key with
  | none => rfl
  | some r =>
    have hkey : (Store.unnumbered r).ownerKey = key := (Store.mem_of_row? hrow).2
    simp only [Option.map_some, Store.afterStoring, hkey]
    exact congrArg some ((if_neg hrecipient).trans (if_neg hsender))

/-- What a message from one user to another makes of a row: it is counted once in the
row of its recipient, and leaves the rows of other pairs as they are. -/
def CountedOnce (sender recipient : UserId) (r r' : Conversation) : Prop :=
  r'.ownerKey = r.ownerKey ∧
    r'.unread = r.unread + (if r.ownerKey = Pair.ownerKey recipient sender then 1 else 0) ∧
    (r.ownerKey ≠ Pair.ownerKey sender recipient → r.ownerKey ≠ Pair.ownerKey recipient sender → r' = r)

theorem countedOnce_of_showMessage {s' : Store} (h : (Statement.showMessage d m).run? now s = some s') :
    List.Forall₂ (CountedOnce d.sender d.recipient) s.rows s'.rows := by
  rw [Statement.run?_showMessage, Option.map_eq_some_iff] at h
  obtain ⟨rows, hrows, rfl⟩ := h
  refine (mapM_eq_some_iff.mp hrows).imp fun r r' hr => ?_
  unfold Statement.shown? at hr
  simp only at hr
  unfold CountedOnce
  split at hr
  · next hkey =>
    rw [Option.ite_none_right_eq_some] at hr
    obtain ⟨-, ⟨⟩⟩ := hr
    exact ⟨rfl, rfl, fun hsender hrecipient => (hkey.elim hsender hrecipient).elim⟩
  · next hkey =>
    obtain ⟨⟩ := hr
    rw [if_neg fun h => hkey (.inr h)]
    exact ⟨rfl, (Int.add_zero _).symm, fun _ _ => rfl⟩

/-! ## The statement that counts again -/

theorem keys?_recount (conversation : String) (owner peer : UserId) :
    (Statement.recount conversation owner peer).keys? = some [some (.text (Pair.ownerKey owner peer))] := by
  rw [Statement.keys?, Statement.command?_recount]
  rfl

theorem run?_recount {conversation : String} {owner : UserId}
    (hfits : ((s.unreadOf conversation owner).length : Int) ≤ Text.IntRange.int32.greatest) (peer : UserId) :
    (Statement.recount conversation owner peer).run? now s = some (s.recountUnread conversation owner peer) := by
  rw [Statement.run?, Statement.command?_recount, Option.bind_some, recounting, Command.run?,
    mapM_eq_some_map (g := fun r => if r.ownerKey == Pair.ownerKey owner peer then
      { r with unread := Store.wrapCount (s.unreadOf conversation owner).length } else r)]
  · rfl
  · intro r _
    rw [wrapCount_of_fits (by omega) hfits]
    unfold Command.updated?
    by_cases hkey : r.ownerKey = Pair.ownerKey owner peer
    · simp [Statement.recount, param?, Command.setAll?, Expr.value?, Column.set?, hkey, hfits]
    · simp [Statement.recount, param?, hkey]

/-! ## Who is counted again -/

theorem mem_sent {l : List Exchange} {st : Statement} : st ∈ sent l ↔ ∃ e ∈ l, e.1.statement? = some st :=
  List.mem_filterMap

theorem Script.Steady.allowed {α : Type} {least : Nat} {P : Ask → Prop} {Q : List Exchange → α → Prop}
    {x : Script α} {l : List Exchange} {r : Except Failure α} (hx : x.Steady least P Q)
    (h : x.run.Dialogue l r) : ∀ e ∈ l, P e.1 := by
  intro e he
  have := hx l r h
  cases r with
  | ok v => exact (this.1 e he).1
  | error f =>
    obtain ⟨front, last, rfl, hfront, hlast, -⟩ := this
    rcases List.mem_append.mp he with he | he
    · exact (hfront e he).1
    · exact List.mem_singleton.mp he ▸ hlast

/-- Whether a question, if it counts a row again, counts the row of an owner. -/
def CountsOnly (conversation : String) (owner peer : UserId) (q : Ask) : Prop :=
  ∀ st, q.statement? = some st → st.command? = some recounting → st = .recount conversation owner peer

theorem Statement.text_of_command? {st : Statement} {c : Command} (h : st.command? = some c) :
    c.text = st.text := by
  simpa using List.find?_some h

theorem countsOnly_of_text {conversation : String} {owner peer : UserId} {q : Ask}
    (h : ∀ st, q.statement? = some st → recounting.text ≠ st.text) : CountsOnly conversation owner peer q :=
  fun st hst hc => (h st hst (Statement.text_of_command? hc)).elim

theorem countsOnly_recount (conversation : String) (owner peer : UserId) :
    CountsOnly conversation owner peer (.execute (.recount conversation owner peer)) := by
  rintro st ⟨⟩ -
  rfl

open Script (Ending Closes Course marking retiring steady_execute steady_latest steady_message? steady_pure)

theorem countsOnly_of_not_statement {conversation : String} {owner peer : UserId} {q : Ask}
    (h : ¬ q.isStatement) : CountsOnly conversation owner peer q := by
  refine countsOnly_of_text fun st hst => ?_
  cases q <;> simp_all [Ask.statement?, Ask.isStatement]

section Marking

variable {reader peer : UserId} {conversation : String} {upTo : Option Int} {l : List Exchange}
  {r : Except Failure Nat}

theorem counts_of_markRead (hpeer : Pair.counterpart? conversation reader = some peer)
    (h : (Script.markRead reader conversation upTo).run.Dialogue l r) :
    (∀ e ∈ l, CountsOnly conversation reader peer e.1) ∧
      ∀ n, r = .ok n → .recount conversation reader peer ∈ sent l := by
  have hmark : CountsOnly conversation reader peer (.execute (.markRead reader conversation upTo)) := by
    refine countsOnly_of_text ?_
    rintro st ⟨⟩
    simp only [Statement.markRead]
    decide +kernel
  have hsteady : (marking reader peer conversation upTo).Steady 0 (CountsOnly conversation reader peer)
      fun l _ => ∃ e ∈ l, e.1 = .execute (.recount conversation reader peer) := by
    refine ((steady_execute hmark).bind fun n => (steady_execute (countsOnly_recount _ _ _)).bind fun _ =>
      steady_pure (Ending.keep n)).imp ?_
    rintro l ending ⟨n, l₁, l₂, rfl, rfl, counted, l₃, l₄, rfl, rfl, rfl, rfl⟩
    exact ⟨⟨.execute (.recount conversation reader peer), .ok counted⟩, by simp, rfl⟩
  rw [Script.markRead_eq, hpeer] at h
  have hcourse := Script.course_of_steady hsteady h
  refine ⟨fun e he => ?_, ?_⟩
  · by_cases hstatement : e.1.isStatement
    · exact hcourse.allowed e he hstatement
    · exact countsOnly_of_not_statement hstatement
  · rintro n rfl
    obtain ⟨work, hwork, ⟨e, he, hq⟩ | ⟨e, he, hq⟩⟩ := hcourse.worked <;>
      exact mem_sent.mpr ⟨e, hwork e he, by rw [hq]; rfl⟩

end Marking

section Retiring

variable {id : Int} {expected target : Status} {l : List Exchange} {r : Except Failure Retirement}

theorem countsOnly_repairRows (m : Message) (counts : Bool) : (Script.repairRows m counts).Steady 0
    (CountsOnly m.conversation m.recipient m.sender) fun _ _ => True := by
  have hlatest : CountsOnly m.conversation m.recipient m.sender (.query (.latest m.conversation) .latest) := by
    refine countsOnly_of_text ?_
    rintro st ⟨⟩
    simp only [Statement.latest]
    decide +kernel
  have hrepoint : ∀ last, CountsOnly m.conversation m.recipient m.sender
      (.execute (.repoint m.conversation last m.id)) := by
    refine fun last => countsOnly_of_text ?_
    rintro st ⟨⟩
    simp only [Statement.repoint]
    decide +kernel
  unfold Script.repairRows
  cases counts with
  | true => exact ((steady_latest hlatest).bind fun last => (steady_execute (hrepoint _)).bind fun _ =>
      (steady_execute (countsOnly_recount _ _ _)).bind fun _ => steady_pure ()).imp fun _ _ _ => trivial
  | false => exact ((steady_latest hlatest).bind fun last => (steady_execute (hrepoint _)).bind fun _ =>
      steady_pure ()).imp fun _ _ _ => trivial

theorem recounting_ne_query {st : Statement}
    (h : st = .findMessage id ∨ st = .transitionReturning id expected target) :
    recounting.text ≠ st.text := by
  rcases h with rfl | rfl
  · simp only [Statement.findMessage]
    decide +kernel
  · simp only [Statement.transitionReturning, Statement.transition]
    decide +kernel

theorem counts_of_retiring {ending : Except Failure (Ending Retirement)}
    (h : (retiring id expected target).run.Dialogue l ending) :
    ∀ e ∈ l, ∀ st, e.1.statement? = some st → st.command? = some recounting →
      ∃ row m, ⟨.query (.transitionReturning id expected target) .message, .ok [row]⟩ ∈ l ∧
        row.message = .ok m ∧ st = .recount m.conversation m.recipient m.sender := by
  have hquery : ∀ {st : Statement} {l : List Exchange} {r : Except Failure (Option Message)},
      (st = .findMessage id ∨ st = .transitionReturning id expected target) →
      (Script.message? st).run.Dialogue l r → ∀ e ∈ l, ∀ st', e.1.statement? = some st' →
        st'.command? ≠ some recounting := by
    intro st l r hst hl e he st' hst' hc
    have hsteady := steady_message? (P := fun q => q = .query st .message) (s := st) rfl
    rw [hsteady.allowed hl e he] at hst'
    cases hst'
    exact recounting_ne_query hst (Statement.text_of_command? hc)
  intro e he st hst hc
  rcases Script.dialogue_bind h with ⟨f, hl, rfl⟩ | ⟨o, l₁, l₂, hl₁, hl₂, rfl⟩
  · exact (hquery (.inr rfl) hl e he st hst hc).elim
  rcases List.mem_append.mp he with he₁ | he₂
  · exact (hquery (.inr rfl) hl₁ e he₁ st hst hc).elim
  cases o with
  | none =>
    rcases Script.dialogue_bind hl₂ with ⟨f, hl, rfl⟩ | ⟨o, l₃, l₄, hl₃, hl₄, rfl⟩
    · exact (hquery (.inl rfl) hl e he₂ st hst hc).elim
    rcases List.mem_append.mp he₂ with he₃ | he₄
    · exact (hquery (.inl rfl) hl₃ e he₃ st hst hc).elim
    · have hpure (ending : Ending Retirement) : (pure ending : Script (Ending Retirement)).Steady 0
          (fun _ => False) fun l ending' => l = [] ∧ ending' = ending := steady_pure ending
      cases o <;> exact ((hpure _).allowed hl₄ e he₄).elim
  | some m =>
    have hsteady := steady_message? (P := fun _ => True) (s := .transitionReturning id expected target) trivial
    obtain ⟨row, rfl, hrow⟩ := (hsteady l₁ _ hl₁).2
    have hrepair := (countsOnly_repairRows m expected.isUnread).bind fun _ =>
      steady_pure (P := CountsOnly m.conversation m.recipient m.sender) (Ending.keep (Retirement.applied m))
    exact ⟨row, m, by simp, hrow, hrepair.allowed hl₂ e he₂ st hst hc⟩

theorem counts_of_retire (h : (Script.retire id expected target).run.Dialogue l r) {st : Statement}
    (hst : st ∈ sent l) (hc : st.command? = some recounting) :
    ∃ row m, ⟨.query (.transitionReturning id expected target) .message, .ok [row]⟩ ∈ l ∧
      row.message = .ok m ∧ st = .recount m.conversation m.recipient m.sender := by
  obtain ⟨e, he, hq⟩ := mem_sent.mp hst
  rw [Script.retire_eq] at h
  rcases Script.transaction_dialogue h with ⟨f, rfl, rfl⟩ | ⟨f, rfl, rfl⟩ | ⟨work, ending, last, hwork, hcloses, rfl⟩
  · simp_all [Ask.statement?]
  · simp only [List.mem_cons, List.not_mem_nil, or_false] at he
    rcases he with rfl | rfl | rfl <;> cases hq
  have he : e ∈ work := by
    simp only [Script.opening, List.mem_append, List.mem_cons, List.not_mem_nil, or_false] at he
    rcases he with ((rfl | rfl) | he) | rfl
    · cases hq
    · cases hq
    · exact he
    · cases hcloses <;> cases hq
  obtain ⟨row, m, hrow, hm⟩ := counts_of_retiring hwork e he st hq hc
  exact ⟨row, m, by simp [hrow], hm⟩

end Retiring

/-! ## The main result -/

theorem unitOf_eq (d : Draft) (o : Option Message) : unitOf d o =
    .makeRows d.sender d.recipient :: .insertMessage d :: o.toList.map (Statement.showMessage d) := by
  cases o <;> rfl

/-- How the rows of a pair are taken when one of its users writes to the other. -/
structure TakenAlike (a b : UserId) : Prop where
  /-- The first statement of a message in either direction is the same one. -/
  made : ∀ (d : Draft) (l : List Exchange) (r : Except Failure Message),
    (d.sender = a ∧ d.recipient = b) ∨ (d.sender = b ∧ d.recipient = a) →
    (Script.store d).run.Dialogue l r → sent l <+: .makeRows a b :: .insertMessage d ::
      (inserted? l).toList.map (Statement.showMessage d)
  /-- It inserts the rows of the two sides, the lowest owner first. -/
  inserted : (Statement.makeRows a b).inserted? = some ((Pair.sides a b).map (newValues (Pair.id a b)))
  /-- A message is shown in the rows of the keys that are inserted. -/
  shown : ∀ (d : Draft) (m : Message), d.sender = a → d.recipient = b → ∃ updated made,
    (Statement.showMessage d m).keys? = some updated ∧ (Statement.makeRows a b).keys? = some made ∧
      ∀ key, key ∈ updated ↔ key ∈ made
  /-- It is counted once, in the row of the recipient. -/
  counted : ∀ (d : Draft) (m : Message) (now : Instant) (s s' : Store), d.sender = a → d.recipient = b →
    (Statement.showMessage d m).run? now s = some s' →
      List.Forall₂ (CountedOnce a b) s.rows s'.rows
  /-- The two statements change the rows that memory changes, and as it does. -/
  stored : ∀ (d : Draft) (now : Instant) (s : Store), d.sender = a → d.recipient = b →
    Fits (Pair.ownerKey b a) s → ∃ made shown,
      (Statement.makeRows a b).run? now s = some made ∧
      (Statement.showMessage d (s.messageOf d now)).run? now made = some shown ∧
      (∀ key, shown.rowAt key = (s.add d now).2.rowAt key) ∧
      ∀ key, key ≠ Pair.ownerKey a b → key ≠ Pair.ownerKey b a → shown.rowAt key = s.rowAt key
  /-- What is counted again is the row of the recipient. -/
  recounted : ∀ conversation,
    (Statement.recount conversation b a).keys? = some [some (.text (Pair.ownerKey b a))]
  /-- The recipient who reads the messages has this row counted again, and no other. -/
  marked : ∀ (upTo : Option Int) (l : List Exchange) (r : Except Failure Nat),
    (Script.markRead b (Pair.id a b) upTo).run.Dialogue l r →
      (∀ st ∈ sent l, st.command? = some recounting → st = .recount (Pair.id a b) b a) ∧
      ∀ n, r = .ok n → .recount (Pair.id a b) b a ∈ sent l
  /-- So does memory. -/
  markedInMemory : ∀ (s : Store) (upTo : Option Int) (now : Instant),
    let moved := s.moveWhere (Store.reachedBy b (Pair.id a b) upTo) .read now
    (moved.unreadOf (Pair.id a b) b).length ≤ Text.IntRange.int32.greatest →
      (Statement.recount (Pair.id a b) b a).run? now moved = some (s.markRead b (Pair.id a b) upTo now).2
  /-- Retiring a message has the row of its recipient counted again, and no other. -/
  retired : ∀ (id : Int) (expected target : Status) (l : List Exchange) (r : Except Failure Retirement),
    (Script.retire id expected target).run.Dialogue l r →
      (∀ st ∈ sent l, st.command? = some recounting → ∃ row m,
        ⟨.query (.transitionReturning id expected target) .message, .ok [row]⟩ ∈ l ∧
          row.message = .ok m ∧ st = .recount m.conversation m.recipient m.sender) ∧
      ∀ m, r = .ok (.applied m) → expected.isUnread → m.sender = a → m.recipient = b →
        .recount m.conversation b a ∈ sent l
  /-- So does memory. -/
  retiredInMemory : ∀ (s : Store) (m : Message) (target : Status) (now : Instant),
    s.message? m.id = some m → m.sender = a → m.recipient = b → m.status.isUnread →
    let moved := (s.updateMessage m.id fun _ => m.move target now).repointRows m.conversation m.id
    (moved.unreadOf m.conversation b).length ≤ Text.IntRange.int32.greatest →
      (Statement.recount m.conversation b a).run? now moved = some (s.retire m.id m.status target now).2

/-- **Both directions of a pair take its rows in the same way**, and the rows that the
database is told to change are those that memory changes. -/
theorem pair_taken_alike {a b : UserId} (ha : 0 < a) (ha' : a ≤ Text.IntRange.int64.greatest)
    (hb : 0 < b) (hb' : b ≤ Text.IntRange.int64.greatest) : TakenAlike a b := by
  have hpeer : Pair.counterpart? (Pair.id a b) b = some a := by
    rw [Pair.id_comm]
    exact Pair.counterpart?_id hb hb' ha ha'
  constructor
  case made =>
    intro d l r hd h
    have hmade : Statement.makeRows a b = .makeRows d.sender d.recipient := by
      rcases hd with ⟨rfl, rfl⟩ | ⟨rfl, rfl⟩
      · rfl
      · exact Statement.makeRows_comm _ _
    rw [hmade, ← unitOf_eq]
    exact (whole_of_dialogue h).statements
  case inserted => exact Statement.inserted?_makeRows a b
  case shown =>
    rintro d m rfl rfl
    refine ⟨_, _, Statement.keys?_showMessage d m, Statement.keys?_makeRows _ _, fun key => ?_⟩
    have hsides := @Pair.mem_sides d.sender d.recipient
    cases key with
    | none => simp
    | some v => cases v <;> simp_all [eq_comm]
  case counted =>
    rintro d m now s s' rfl rfl h
    exact countedOnce_of_showMessage h
  case stored =>
    rintro d now s rfl rfl hfits
    obtain ⟨made, shown, hmade, hshown, hrows⟩ := storing_alike d now hfits
    exact ⟨made, shown, hmade, hshown, hrows, fun key h h' => (hrows key).trans (rowAt_add_of_ne h h')⟩
  case recounted => exact fun conversation => keys?_recount conversation b a
  case marked =>
    intro upTo l r h
    obtain ⟨honly, hsent⟩ := counts_of_markRead hpeer h
    refine ⟨fun st hst hc => ?_, hsent⟩
    obtain ⟨e, he, hq⟩ := mem_sent.mp hst
    exact honly e he st hq hc
  case markedInMemory =>
    intro s upTo now moved hfits
    rw [Store.markRead_eq hpeer]
    exact run?_recount hfits a
  case retired =>
    refine fun id expected target l r h => ⟨fun st hst hc => counts_of_retire h hst hc, ?_⟩
    rintro m hr hunread rfl rfl
    obtain ⟨n, hn⟩ := (retire_counts_again h).2 m hr (Status.isUnread_iff.mp hunread)
    exact mem_sent.mpr ⟨_, hn, rfl⟩
  case retiredInMemory =>
    rintro s m target now hm rfl rfl hunread moved hfits
    rw [run?_recount hfits]
    simp only [Store.retire, hm, if_true, hunread]
    rfl

theorem pair_of_two_and_one_taken_alike :
    ((0 : Int) < 2 ∧ (2 : Int) ≤ Text.IntRange.int64.greatest ∧ (0 : Int) < 1 ∧
      (1 : Int) ≤ Text.IntRange.int64.greatest) ∧
    (Statement.makeRows 2 1).params =
      [.text "1:2", .text "2:1", .int 1, .int 2, .text "1_2"] ∧ TakenAlike 2 1 :=
  ⟨by decide, by decide +kernel, pair_taken_alike (by decide) (by decide) (by decide) (by decide)⟩

end Database
end Parley
