/-
Work on a database, as a program that asks for statements.

A `Script` takes a connection, runs statements and may fail. A query names
the shape of its rows, which fixes the type of its answer. `transaction`
puts work between a start and an end: the work is kept when it succeeds
and asks for it, and undone otherwise.
-/
import Parley.Conversation
import Parley.Database.Fault
import Parley.Program

namespace Parley.Database

open Time (Instant)

/-- A parameter of a statement. -/
inductive Value where
  | null
  | int (n : Int)
  | text (s : String)
  | time (t : Instant)
deriving DecidableEq, Repr

namespace Value

def ofInt? (n : Option Int) : Value := n.elim null int

def ofText? (s : Option String) : Value := s.elim null text

def ofTime? (t : Option Instant) : Value := t.elim null time

end Value

/-- A statement with the values of `$1`, `$2`, … -/
structure Statement where
  text : String
  params : List Value
deriving DecidableEq, Repr

/-! ## Rows -/

/-- A stored message, with its kind and status as numbers. -/
structure MessageRow where
  id : Int
  sender : UserId
  recipient : UserId
  conversation : String
  kind : Int
  content : String
  extra : Option String
  status : Int
  seq : Int
  createdAt : Instant
  updatedAt : Instant
deriving DecidableEq, Repr

namespace MessageRow

/-- The message of a row. The kind is looked at before the status. -/
def message (r : MessageRow) : Except Failure Message :=
  match MessageKind.ofInt? r.kind, Status.ofInt? r.status with
  | none, _ => .error (.database (MessageKind.unknown r.kind))
  | _, none => .error (.database (Status.unknown r.status))
  | some kind, some status =>
    .ok { id := r.id, sender := r.sender, recipient := r.recipient,
          conversation := r.conversation, kind := kind, content := r.content, extra := r.extra,
          status := status, seq := r.seq, createdAt := r.createdAt, updatedAt := r.updatedAt }

end MessageRow

/-- What a row of a conversation is told of a message. -/
structure LatestRow where
  id : Int
  content : String
  status : Int
  createdAt : Instant
deriving DecidableEq, Repr

/-- What the message shows in a row of a conversation. -/
def LatestRow.shown (r : LatestRow) : LastMessage :=
  ⟨r.id, if r.status = Status.recalled.toInt then Message.recalledContent else r.content,
    r.createdAt⟩

/-- The columns of a query. -/
inductive Shape where
  | message
  | latest
  | conversation
  | number
deriving DecidableEq, Repr

/-- The type of a row. -/
def Shape.Row : Shape → Type
  | message => MessageRow
  | latest => LatestRow
  | conversation => Conversation
  | number => Int

/-! ## Asking -/

inductive Ask where
  /-- Takes a connection from the pool. -/
  | connect
  | start
  | commit
  | rollback
  /-- Runs a statement for the number of rows that it touches. -/
  | execute (s : Statement)
  /-- Runs a statement for its rows. -/
  | query (s : Statement) (shape : Shape)
deriving DecidableEq, Repr

/-- The type of each answer. Nobody waits for the outcome of a rollback. -/
def Reply : Ask → Type
  | .connect => Except PoolFault Unit
  | .start => Except SqlError Unit
  | .commit => Except SqlError Unit
  | .rollback => Unit
  | .execute _ => Except SqlError Nat
  | .query _ shape => Except SqlError (List shape.Row)

abbrev signature : Signature := ⟨Ask, Reply⟩

/-- Work on a database, which may fail. -/
abbrev Script (α : Type) := ExceptT Failure (Program signature) α

namespace Script

variable {α : Type}

/-- A result that is known already. -/
def ofExcept (x : Except Failure α) : Script α := ExceptT.mk (Program.done x)

/-- A result that a database gives, with its error as a failure. -/
def ofSql (p : Program signature (Except SqlError α)) : Script α :=
  ExceptT.mk do return (← p).mapError SqlError.failure

def connect : Script Unit :=
  ExceptT.mk do return (← Program.query (S := signature) .connect).mapError PoolFault.failure

def execute (s : Statement) : Script Nat := ofSql (Program.query (S := signature) (.execute s))

def query (s : Statement) (shape : Shape) : Script (List shape.Row) :=
  ofSql (Program.query (S := signature) (.query s shape))

/-- The row of a query that has one. -/
def row (s : Statement) (shape : Shape) : Script shape.Row := do
  match ← query s shape with
  | [r] => pure r
  | _ => throw SqlError.rowCount.failure

/-- The row of a query that has at most one. -/
def row? (s : Statement) (shape : Shape) : Script (Option shape.Row) := do
  match ← query s shape with
  | [] => pure none
  | [r] => pure (some r)
  | _ => throw SqlError.rowCount.failure

/-! ## Transactions -/

/-- How work in a transaction ends when it does not fail. -/
inductive Ending (α : Type) where
  /-- What was done is kept. -/
  | keep (value : α)
  /-- What was done is undone. -/
  | undo (value : α)

/-- Undoes what was done. -/
def rollback : Program signature Unit := Program.query (S := signature) .rollback

/-- The end of a transaction. A failed commit has ended it. -/
def finish : Except Failure (Ending α) → Program signature (Except Failure α)
  | .ok (.keep value) => do
    match ← Program.query (S := signature) .commit with
    | .ok () => pure (.ok value)
    | .error e => pure (.error e.failure)
  | .ok (.undo value) => do
    rollback
    pure (.ok value)
  | .error f => do
    rollback
    pure (.error f)

/-- Does work in a transaction. A start that fails is undone as well. -/
def transaction (work : Script (Ending α)) : Script α :=
  ExceptT.mk do
    match ← Program.query (S := signature) .start with
    | .ok () => finish (← work.run)
    | .error e =>
      rollback
      pure (.error e.failure)

end Script
end Parley.Database
