/-
What keeps messages and conversation rows, as questions.

Each question is answered as one step. Storing makes the missing rows of
the pair, gives the message its place, points the rows at it and counts it
as unread; retiring moves a message from the status that the caller saw to
`recalled` or `deleted`, and repairs the rows.
-/
import Parley.Failure
import Parley.Program

namespace Parley

/-- The outcome of retiring a message. -/
inductive Retirement where
  /-- The message as it is now stored. -/
  | applied (m : Message)
  /-- The message had another status than expected. -/
  | stale (m : Message)
  | missing
deriving DecidableEq, Repr

namespace Archive

inductive Ask where
  | store (draft : Draft)
  | find (id : Int)
  /-- Moves a message from one status to another, if it has the first. -/
  | transition (id : Int) (old new : Status)
  | retire (id : Int) (expected target : Status)
  /-- Marks the unread messages to a reader, up to a message or all. -/
  | markRead (reader : UserId) (conversation : String) (upTo : Option Int)
  /-- The latest messages that are not deleted, before a message or all. -/
  | history (conversation : String) (before : Option Int) (limit : Int)
  /-- Rows of a user, the latest first, and their number. -/
  | rows (user : UserId) (offset limit : Int)
  | row (owner peer : UserId)
  /-- The unread messages of one conversation or of all. -/
  | unread (user : UserId) (conversation : Option String)
deriving DecidableEq, Repr

/-- What a question is answered with when it succeeds. -/
def Found : Ask → Type
  | .store _ => Message
  | .find _ => Option Message
  | .transition _ _ _ => Bool
  | .retire _ _ _ => Retirement
  | .markRead _ _ _ => Nat
  | .history _ _ _ => List Message
  | .rows _ _ _ => List Conversation × Int
  | .row _ _ => Option Conversation
  | .unread _ _ => Int

/-- Every question may fail. -/
abbrev signature : Signature := ⟨Ask, fun q => Except Failure (Found q)⟩

end Archive
end Parley
