/-
What the statements on rows of conversations tell a database to do.

A `Command` is such a statement by its parts: columns, the values that they get, and
the keys of the rows. It is written out as SQL (`Command.text`) and run on the rows of
an archive (`Command.run?`), as a database does it: a proposed row takes a number even
if it is there already, what columns are set to is found in the row as it was, and a
count that does not fit its column is refused. The statements that make rows, point
them at a message and count them again are four commands (`Statement.command?`).
-/
import Parley.Database.Archive
import Parley.Proofs.Store.Change

namespace Parley

open Time (Instant)

namespace Database

/-! ## Commands -/

/-- The columns of a row that the statements name. -/
inductive Column where
  | ownerKey
  | owner
  | peer
  | conversation
  | lastId
  | lastContent
  | lastTime
  | updatedAt
  | unread
deriving DecidableEq, Repr

namespace Column

def name : Column → String
  | ownerKey => "owner_key"
  | owner => "user_id"
  | peer => "peer_id"
  | conversation => "conversation_id"
  | lastId => "last_message_id"
  | lastContent => "last_message_content"
  | lastTime => "last_message_time"
  | updatedAt => "updated_at"
  | unread => "unread_count"

/-- The row with another value in a column, if the column can hold it. -/
def set? (c : Column) (v : Value) (r : Conversation) : Option Conversation :=
  match c, v with
  | ownerKey, .text s => some { r with ownerKey := s }
  | owner, .int n => some { r with owner := n }
  | peer, .int n => some { r with peer := n }
  | conversation, .text s => some { r with conversation := s }
  | lastId, .int n => some { r with lastId := some n }
  | lastId, .null => some { r with lastId := none }
  | lastContent, .text s => some { r with lastContent := some s }
  | lastContent, .null => some { r with lastContent := none }
  | lastTime, .time t => some { r with lastTime := some t }
  | lastTime, .null => some { r with lastTime := none }
  | updatedAt, .time t => some { r with updatedAt := t }
  | unread, .int n => if 0 ≤ n ∧ n ≤ Text.IntRange.int32.greatest then some { r with unread := n } else none
  | _, _ => none

end Column

/-- What a column is set to. A number names a parameter. -/
inductive Expr where
  | param (n : Nat)
  | number (n : Nat)
  | now
  /-- The unread count of the row and something more. -/
  | unreadPlus (more : Expr)
  /-- One value in the row of a key, and another in every other row. -/
  | byKey (key : Nat) (yes no : Expr)
  /-- The number of unread messages of a conversation to a user. -/
  | unreadOf (conversation user : Nat)
deriving DecidableEq, Repr

/-- A statement on rows by its parts. A number names a parameter. -/
inductive Command where
  /-- Puts rows into the table whose keys are not there. -/
  | insert (columns : List Column) (rows : List (List Nat))
  /-- Sets columns of the rows of some keys. -/
  | update (sets : List (Column × Expr)) (keys : List Nat)
deriving DecidableEq, Repr

/-! ## As SQL -/

/-- A parameter as it is written. -/
def placeholder (n : Nat) : String := "$" ++ toString n

def commas (parts : List String) : String := ", ".intercalate parts

/-- Parts in brackets. -/
def tuple (parts : List String) : String := "(" ++ commas parts ++ ")"

def Expr.text : Expr → String
  | param n => placeholder n
  | number n => toString n
  | now => "NOW()"
  | unreadPlus more => lines ["unread_count +", more.text]
  | byKey key yes no => lines ["CASE WHEN owner_key =", placeholder key, "THEN", yes.text, "ELSE", no.text, "END"]
  | unreadOf conversation user => lines ["( SELECT COUNT(*)::INTEGER FROM messages",
      "WHERE conversation_id =", placeholder conversation, "AND to_user_id =", placeholder user,
      "AND status IN (1, 2) )"]

def Command.text : Command → String
  | insert columns rows => lines ["INSERT INTO conversations", tuple (columns.map (·.name)),
      "VALUES", commas (rows.map fun row => tuple (row.map placeholder)),
      "ON CONFLICT (owner_key) DO NOTHING"]
  | update sets keys => lines ["UPDATE conversations",
      "SET", commas (sets.map fun s => lines [s.1.name, "=", s.2.text]),
      "WHERE owner_key", match keys with
        | [key] => lines ["=", placeholder key]
        | _ => lines ["IN", tuple (keys.map placeholder)]]

/-! ## On rows -/

/-- The value of a parameter. -/
def param? (params : List Value) : Nat → Option Value
  | 0 => none
  | n + 1 => params[n]?

/-- A value in a row of an archive, at the time of the transaction. -/
def Expr.value? (params : List Value) (now : Instant) (s : Store) (r : Conversation) : Expr → Option Value
  | param n => param? params n
  | number n => some (.int n)
  | .now => some (.time now)
  | unreadPlus more => match more.value? params now s r with
    | some (.int n) => some (.int (r.unread + n))
    | _ => none
  | byKey key yes no =>
    if param? params key = some (.text r.ownerKey) then yes.value? params now s r
    else no.value? params now s r
  | unreadOf conversation user => match param? params conversation, param? params user with
    | some (.text c), some (.int u) => some (.int (s.unreadOf c u).length)
    | _, _ => none

namespace Command

/-- The keys of the rows that a command is about. -/
def keys? (params : List Value) : Command → List (Option Value)
  | insert columns rows => rows.map fun row => ((columns.zip row).lookup .ownerKey).bind (param? params)
  | update _ keys => keys.map (param? params)

/-- The rows that a command inserts, each as the values of its columns. -/
def inserted? (params : List Value) : Command → List (List (Column × Option Value))
  | insert columns rows => rows.map fun row => (columns.zip row).map fun p => (p.1, param? params p.2)
  | update _ _ => []

/-- A row as the table makes it. The columns without a default are set by the command. -/
def blank (id : Int) (now : Instant) : Conversation :=
  { id := id, ownerKey := "", owner := 0, peer := 0, conversation := "", lastId := none,
    lastContent := none, lastTime := none, unread := 0, isTop := false, isMute := false,
    createdAt := now, updatedAt := now }

/-- Sets columns one after another. -/
def setAll? (values : List (Column × Option Value)) (r : Conversation) : Option Conversation :=
  values.foldlM (fun r p => p.2.bind fun v => p.1.set? v r) r

/-- Puts a row into the table, if its key is not there. It takes a number in any case. -/
def put (s : Store) (r : Conversation) : Store :=
  { s with rows := if r.ownerKey ∈ s.keys then s.rows else s.rows ++ [r], lastRow := s.lastRow + 1 }

/-- The row behind an update. -/
def updated? (params : List Value) (now : Instant) (s : Store) (sets : List (Column × Expr))
    (keys : List Nat) (r : Conversation) : Option Conversation :=
  if some (.text r.ownerKey) ∈ keys.map (param? params) then
    setAll? (sets.map fun p => (p.1, p.2.value? params now s r)) r
  else some r

/-- The archive behind a command, if the database accepts it. -/
def run? (params : List Value) (now : Instant) (c : Command) (s : Store) : Option Store :=
  match c with
  | insert _ _ => (c.inserted? params).foldlM
      (fun s values => (setAll? values (blank (s.lastRow + 1) now)).map (put s)) s
  | update sets keys => (s.rows.mapM (updated? params now s sets keys)).map fun rows => { s with rows := rows }

end Command

/-! ## The commands of the service -/

/-- Makes the row of a user with itself. -/
def makeOne : Command := .insert [.ownerKey, .owner, .peer, .conversation] [[1, 2, 2, 3]]

/-- Makes both rows of a pair. -/
def makeTwo : Command :=
  .insert [.ownerKey, .owner, .peer, .conversation] [[1, 3, 4, 5], [2, 4, 3, 5]]

/-- Points rows at a message, and counts it in the row of one key. -/
def showing : Command :=
  .update [(.lastId, .param 1), (.lastContent, .param 2), (.lastTime, .param 3), (.updatedAt, .now),
    (.unread, .unreadPlus (.byKey 5 (.number 1) (.number 0)))] [4, 5]

/-- Counts the unread messages of a row again. -/
def recounting : Command := .update [(.unread, .unreadOf 1 2)] [3]

/-- The statements on rows. -/
def commands : List Command := [makeOne, makeTwo, showing, recounting]

theorem texts_distinct : (commands.map (·.text)).Nodup := by decide +kernel

namespace Statement

/-- What a statement says, if it is one of those on rows. -/
def command? (s : Statement) : Option Command := commands.find? fun c => c.text == s.text

/-- The archive behind a statement on rows, if the database accepts it. -/
def run? (s : Statement) (now : Instant) (st : Store) : Option Store :=
  s.command?.bind fun c => c.run? s.params now st

/-- The rows that a statement inserts. -/
def inserted? (s : Statement) : Option (List (List (Column × Option Value))) :=
  s.command?.map (·.inserted? s.params)

/-- The keys of the rows that a statement is about. -/
def keys? (s : Statement) : Option (List (Option Value)) := s.command?.map (·.keys? s.params)

theorem command?_of_text {s : Statement} {c : Command} (hc : c ∈ commands) (h : s.text = c.text) :
    s.command? = some c := by
  unfold command?
  cases hf : commands.find? fun c => c.text == s.text with
  | none =>
    have := List.find?_eq_none.mp hf c hc
    simp [h] at this
  | some c' =>
    have htext : c'.text = s.text := by simpa using List.find?_some hf
    rw [List.inj_on_of_nodup_map texts_distinct (List.mem_of_find?_eq_some hf) hc (htext.trans h)]

theorem command?_showMessage (d : Draft) (m : Message) : (showMessage d m).command? = some showing :=
  command?_of_text (by simp [commands]) (by simp only [showMessage]; decide +kernel)

theorem command?_recount (conversation : String) (owner peer : UserId) :
    (recount conversation owner peer).command? = some recounting :=
  command?_of_text (by simp [commands]) (by simp only [recount]; decide +kernel)

theorem text_makeRows (a b : Int) : (makeRows a b).text = (if a = b then makeOne else makeTwo).text := by
  have hlow : min a b = max a b ↔ a = b := by omega
  unfold makeRows
  simp only [hlow]
  by_cases h : a = b
  · simp only [if_pos h]
    decide +kernel
  · simp only [if_neg h]
    decide +kernel

theorem command?_makeRows (a b : Int) :
    (makeRows a b).command? = some (if a = b then makeOne else makeTwo) := by
  refine command?_of_text ?_ (text_makeRows a b)
  split <;> simp [commands]

end Statement

/-! ## Running them -/

theorem mapM_eq_some_iff {α β : Type} {f : α → Option β} {l : List α} {l' : List β} :
    l.mapM f = some l' ↔ List.Forall₂ (fun a b => f a = some b) l l' := by
  induction l generalizing l' with
  | nil => simp [eq_comm]
  | cons a l ih =>
    simp only [List.mapM_cons, Option.pure_def, Option.bind_eq_bind, Option.bind_eq_some_iff,
      Option.some.injEq, List.forall₂_cons_left_iff, ih]
    constructor
    · rintro ⟨b, hb, l', hl, rfl⟩
      exact ⟨b, l', hb, hl, rfl⟩
    · rintro ⟨b, l', hb, hl, rfl⟩
      exact ⟨b, hb, l', hl, rfl⟩

theorem mapM_eq_some_map {α β : Type} {f : α → Option β} {g : α → β} {l : List α}
    (h : ∀ a ∈ l, f a = some (g a)) : l.mapM f = some (l.map g) :=
  mapM_eq_some_iff.mpr (List.forall₂_map_right_iff.mpr (List.forall₂_same.mpr h))

end Database
end Parley
