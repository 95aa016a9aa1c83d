/-
The pool of database connections, and how it comes up.

A pool is started by taking the connections that it is to have ready, all
at the same time, and by trying the first of them. Then the tables are
brought up to date on a connection of their own.
-/
import Parley.Database.ConnectionText
import Parley.Database.Fault
import Parley.Environment
import Parley.Program

namespace Parley.Database

open Environment (natural text)

/-- The settings of a pool. Times are in seconds. -/
structure PoolSettings where
  service : String
  databaseUrl : String
  /-- The greatest number of connections. -/
  greatest : Nat := 20
  /-- The number of connections to have ready. -/
  ready : Nat := 2
  connectTimeout : Nat := 5
  /-- How long to wait for a connection that another one uses. -/
  acquireTimeout : Nat := 10
  recycleTimeout : Nat := 5
deriving DecidableEq, Repr

namespace PoolSettings

/-- The settings of an environment, for a database that is known. -/
def withUrl (env : Environment) (service databaseUrl : String) : PoolSettings :=
  let defaults : PoolSettings := { service := service, databaseUrl := databaseUrl }
  let count (name : String) (absent : Nat) := env.withDefault (natural .word32) name absent
  let seconds (name : String) (absent : Nat) := env.withDefault (natural .word64) name absent
  { defaults with
    greatest := count "DB_MAX_CONNECTIONS" defaults.greatest
    ready := count "DB_MIN_CONNECTIONS" defaults.ready
    connectTimeout := seconds "DB_CONNECT_TIMEOUT_SECS" defaults.connectTimeout
    acquireTimeout := seconds "DB_ACQUIRE_TIMEOUT_SECS" defaults.acquireTimeout
    recycleTimeout := seconds "DB_RECYCLE_TIMEOUT_SECS" defaults.recycleTimeout }

/-- The settings of an environment, which has to name the database. -/
def ofEnvironment (env : Environment) (service : String) : Except SetupFailure PoolSettings :=
  match env.required text "DATABASE_URL" with
  | .ok url => .ok (withUrl env service url)
  | .error reason => .error (.configuration reason)

/-- What becomes of waiting for a connection when all of them are held by
the one who waits: the shorter time is up. Who may not wait is told at
once. -/
def starved (p : PoolSettings) : SetupFailure :=
  if p.acquireTimeout = 0 ∨ p.acquireTimeout < p.connectTimeout then .connect (.timeout .wait)
  else .timeout p.connectTimeout

end PoolSettings

/-- A text that tells nothing about a connection. -/
def invalidText : String := "invalid connection string"

/-! ## Starting -/

namespace Startup

inductive Ask where
  /-- Opens a connection. -/
  | dial
  /-- Runs `SELECT 1`. -/
  | probe
  /-- Brings the tables up to date. -/
  | migrate
deriving DecidableEq, Repr

def Reply : Ask → Type
  | .dial => Except SqlError Unit
  | .probe => Except SqlError Unit
  | .migrate => Except SetupFailure Unit

abbrev signature : Signature := ⟨Ask, Reply⟩

/-- A step of the start, which may fail. -/
abbrev Step (α : Type) := ExceptT SetupFailure (Program signature) α

def dial : Step Unit :=
  ExceptT.mk do
    return (← Program.query (S := signature) .dial).mapError fun e => .connect (.backend e)

def probe : Step Unit :=
  ExceptT.mk do return (← Program.query (S := signature) .probe).mapError .query

def migrate : Step Unit := ExceptT.mk (Program.query (S := signature) .migrate)

end Startup

/-- What a pool shows of itself. -/
structure PoolStatus where
  greatest : Nat
  /-- The number of connections that are open. -/
  size : Nat
  /-- The number of open connections that nobody holds. -/
  available : Nat
deriving DecidableEq, Repr

namespace PoolSettings

open Startup (Step)

/-- Takes connections while some are held, and holds them all: how many
that makes. -/
def warmUp (p : PoolSettings) : (wanted held : Nat) → Step Nat
  | 0, held => pure held
  | more + 1, held => do
    if p.greatest ≤ held then throw p.starved
    else if p.connectTimeout = 0 then throw (.connect (.timeout .create))
    else
      Startup.dial
      warmUp p more (held + 1)

/-- Starts a pool. -/
def start (p : PoolSettings) : Step PoolStatus := do
  match ConnectionText.read? p.databaseUrl with
  | none => throw (.configuration invalidText)
  | some _ =>
    let held ← p.warmUp (max p.ready 1) 0
    Startup.probe
    pure ⟨p.greatest, held, held⟩

end PoolSettings

/-- Starts the pool of the service, and brings the tables up to date. -/
def startWithTables (env : Environment) (databaseUrl : String) : Startup.Step PoolStatus := do
  let pool ← (PoolSettings.withUrl env "im-message-service" databaseUrl).start
  Startup.migrate
  pure pool

/-! ## Tables -/

/-- A step that brings the tables up to date. -/
structure Migration where
  version : Nat
  description : String
deriving DecidableEq, Repr

/-- The steps in their order. -/
def migrations : List Migration := [⟨1, "create messages"⟩, ⟨2, "create conversations"⟩]

end Parley.Database
