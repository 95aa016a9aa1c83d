/-
What can go wrong between the service and its database.

A statement fails with the state that the database gives. A pool fails to
hand out a connection. Starting the pool fails in one of several steps.
Each of them is a `Failure` of the service: work that lost against other
work may be done again, and everything else ends it.
-/
import Parley.Failure

namespace Parley.Database

open Text (showNat)

/-- An error of the database, or of the way to it. -/
structure SqlError where
  /-- The state that the database gives: five characters. -/
  state : Option String
  text : String
deriving DecidableEq, Repr

namespace SqlError

/-- The states of work that lost against other work: it could not be put in
an order, it waited in a circle, or a key was taken first. -/
def conflictStates : List String := ["40001", "40P01", "23505"]

def isConflict (e : SqlError) : Bool := e.state.any fun s => conflictStates.contains s

/-- The error of a statement that the database answers with a state. -/
def answered (state : String) : SqlError := ⟨some state, "db error"⟩

/-- The error of a query with too few or too many rows. -/
def rowCount : SqlError := ⟨none, "query returned an unexpected number of rows"⟩

def failure (e : SqlError) : Failure :=
  if e.isConflict then .transactionConflict e.text else .database e.text

end SqlError

/-- What a pool was doing when its time was up. -/
inductive PoolStage where
  | wait
  | create
  | recycle
deriving DecidableEq, Repr

namespace PoolStage

def name : PoolStage → String
  | wait => "Wait"
  | create => "Create"
  | recycle => "Recycle"

def activity : PoolStage → String
  | wait => "waiting for a slot to become available"
  | create => "creating a new object"
  | recycle => "recycling an object"

end PoolStage

/-- Why a pool hands out no connection. -/
inductive PoolFault where
  | timeout (stage : PoolStage)
  | closed
  /-- There is no clock to wait with. -/
  | noRuntime
  | backend (e : SqlError)
deriving DecidableEq, Repr

namespace PoolFault

def message : PoolFault → String
  | timeout stage => "Timeout occurred while " ++ stage.activity
  | closed => "Pool has been closed"
  | noRuntime => "No runtime specified"
  | backend e => "Error occurred while creating a new object: " ++ e.text

def failure : PoolFault → Failure
  | timeout stage => .unavailable ("database pool timeout: " ++ stage.name)
  | backend e => e.failure
  | f => .database f.message

end PoolFault

/-- Why there is no pool, or no tables in the database. -/
inductive SetupFailure where
  | configuration (text : String)
  | build (text : String)
  | connect (fault : PoolFault)
  | query (e : SqlError)
  /-- The pool did not come up in time. -/
  | timeout (seconds : Nat)
  | migrationConnect (text : String)
  | migration (text : String)
deriving DecidableEq, Repr

namespace SetupFailure

def message : SetupFailure → String
  | configuration text => "Invalid database configuration: " ++ text
  | build text => "Failed to build pool: " ++ text
  | connect fault => "Database connection failed: " ++ fault.message
  | query e => "Database query failed: " ++ e.text
  | timeout seconds =>
    "Database connection verification timed out after " ++ showNat seconds ++ "s"
  | migrationConnect text => "Migration connection failed: " ++ text
  | migration text => "Migration failed: " ++ text

/-- The service does not start without its database. -/
def failure (f : SetupFailure) : Failure := .startup ("db: " ++ f.message)

end SetupFailure
end Parley.Database
