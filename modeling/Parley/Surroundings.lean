/-
What the service asks of its surroundings: the archive, the friend and
profile directories, the time, and the hub of live sessions.
-/
import Parley.Archive
import Parley.Envelope

namespace Parley

open Time (Instant)

/-- The number of users with a session and of sessions. -/
structure HubStats where
  onlineUsers : Nat
  sessions : Nat
deriving DecidableEq, Repr

/-- The number that stands for a live session. -/
abbrev SessionId := Nat

namespace Surroundings

inductive Ask where
  | archive (q : Archive.Ask)
  /-- Whether a user may write to another. -/
  | areFriends (user target : UserId)
  | profile (user : UserId)
  /-- The time that decides about recalling. -/
  | time
  /-- Offers a frame to the sessions of a user: whether one of them took it. -/
  | offer (user : UserId) (frame : String)
  | isOnline (user : UserId)
  | stats
  /-- Opens a session for a user. -/
  | openSession (user : UserId)
  | closeSession (id : SessionId)
  /-- Notes that a session was active. -/
  | touch (id : SessionId)

/-- The type of each answer. -/
def Reply : Ask → Type
  | .archive q => Archive.signature.Reply q
  | .areFriends _ _ => Except Failure Bool
  | .profile _ => Except Failure Profile
  | .time => Instant
  | .offer _ _ => Bool
  | .isOnline _ => Bool
  | .stats => HubStats
  | .openSession _ => Except Failure SessionId
  | .closeSession _ => Unit
  | .touch _ => Unit

abbrev signature : Signature := ⟨Ask, Reply⟩

end Surroundings

/-- A program of the service, which may fail. -/
abbrev Action (α : Type) := ExceptT Failure (Program Surroundings.signature) α

namespace Action

open Surroundings (Ask signature)

/-- A question that cannot fail. -/
def query (q : Ask) : Action (signature.Reply q) := ExceptT.lift (Program.query (S := signature) q)

/-- A result that is known already. -/
def ofExcept {α : Type} (x : Except Failure α) : Action α := ExceptT.mk (Program.done x)

/-- A question to the archive. -/
def archive (q : Archive.Ask) : Action (Archive.Found q) :=
  ExceptT.mk (Program.query (S := signature) (.archive q))

/-- The outcome of a question to the archive, be it a failure. -/
def tryArchive (q : Archive.Ask) : Action (Except Failure (Archive.Found q)) :=
  query (.archive q)

def areFriends (user target : UserId) : Action Bool :=
  ExceptT.mk (Program.query (S := signature) (.areFriends user target))

/-- The profile of a user, or why there is none. -/
def tryProfile (user : UserId) : Action (Except Failure Profile) := query (.profile user)

def time : Action Time.Instant := query .time

def openSession (user : UserId) : Action SessionId :=
  ExceptT.mk (Program.query (S := signature) (.openSession user))

/-- Offers an event to the sessions of a user. -/
def offer (user : UserId) (event : Envelope) : Action Bool := query (.offer user event.frame)

end Action
end Parley
