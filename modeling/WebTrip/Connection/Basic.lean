import WebTrip.Connection.Cell
import WebTrip.Connection.Credentials

/-!
# Connections

A connection to the interpreter is opened when it is first used. The handle to it, a *pool*, is kept
for later programs; before each of these it is probed with the cheapest program there is, and
replaced once if the probe fails.

* `Wire` is what a connection does to the network: connect, run, query and close.
* `Connection.acquire` gives a pool that is fit for use.
* `Connection.execute` runs a program on it and decodes the rows.
-/

namespace WebTrip

/-! ## §1 The wire -/

/-- Why something on the wire failed. -/
inductive WireFault where
  /-- The connection was lost, or could not be had. -/
  | lost (message : String)
  /-- The interpreter answered with an error, or with something that cannot be understood. -/
  | refused (message : String)
  deriving DecidableEq

/-- The message of a fault. -/
def WireFault.message : WireFault → String
  | .lost message => message
  | .refused message => message

/-- What can be done on the wire; pools are told apart by numbers. -/
structure Wire (m : Type → Type) where
  /-- Opens a pool for a user on a database. -/
  connect : (user database : String) → m (Except WireFault Nat)
  /-- Runs a program on a pool and drops its rows. -/
  run : Nat → String → m (Except WireFault Unit)
  /-- Sends a program to a pool and collects its rows. -/
  query : Nat → String → m (Except WireFault (List (List Cell)))
  /-- Closes a pool. -/
  close : Nat → m Unit

/-! ## §2 Connections -/

/-- The host of the interpreter. -/
def lsdHost : String := "lsd.so"

/-- The cheapest program that the interpreter accepts. -/
def probeProgram : String := "FROM https://lsd.so |> SELECT title"

/-- Where a connection leads, and who connects. -/
structure Connection where
  host : String := lsdHost
  credentials : Credentials
  deriving DecidableEq

namespace Connection

/-- The database is named after the user. -/
def database (c : Connection) : String :=
  c.credentials.user

/-- The error for a connection that is not to be had. -/
def unreachable (c : Connection) (fault : WireFault) : Error :=
  .connectivity c.host fault.message

/-- The error for a program that failed. -/
def failure (c : Connection) : WireFault → Error
  | .lost message => .connectivity c.host message
  | .refused message => .execution message

/-! ## §3 Acquiring a pool -/

variable {m : Type → Type} [Monad m]

/-- Opens a pool and keeps it; if that fails, none is kept. -/
def openPool (c : Connection) (wire : Wire m) : m (Except Error Nat × Option Nat) := do
  match ← wire.connect c.credentials.user c.database with
  | .ok pool => return (.ok pool, some pool)
  | .error fault => return (.error (c.unreachable fault), none)

/-- **Acquiring a pool.** A pool that is held is probed, and closed and replaced if the probe fails;
without one a pool is opened. The second part of the result is the pool that is held afterwards. -/
def acquire (c : Connection) (wire : Wire m) (held : Option Nat) :
    m (Except Error Nat × Option Nat) := do
  match held with
  | none => c.openPool wire
  | some pool =>
    match ← wire.run pool probeProgram with
    | .ok () => return (.ok pool, some pool)
    | .error _ =>
      wire.close pool
      c.openPool wire

/-! ## §4 Running programs -/

/-- The rows of an answer, or the error it stands for. -/
def readAnswer (c : Connection) (answer : Except WireFault (List (List Cell))) :
    Except Error (List Row) :=
  match answer with
  | .error fault => .error (c.failure fault)
  | .ok rows =>
    match decodeRows Cell.decode rows with
    | .ok rows => .ok rows
    | .error (index, fault) => .error (.execution (columnMessage index fault))

/-- **Running a program.** The program is sent once, on a pool that has just been probed or opened.
A program that fails leaves the pool in place. -/
def execute (c : Connection) (wire : Wire m) (program : String) (held : Option Nat) :
    m (Except Error (List Row) × Option Nat) := do
  match ← c.acquire wire held with
  | (.error e, held) => return (.error e, held)
  | (.ok pool, held) => return (c.readAnswer (← wire.query pool program), held)

/-- The connection as an executor; the pool that is held is its state. -/
def executor (c : Connection) (wire : Wire m) : Executor (StateT (Option Nat) m) :=
  ⟨fun program held => c.execute wire program held⟩

end Connection

/-! ## §5 No network -/

/-- The wire of a place without a network: nothing can be reached. -/
def Wire.unplugged {m : Type → Type} [Monad m] : Wire m where
  connect _ _ := return .error (.lost "network is unreachable")
  run _ _ := return .error (.lost "network is unreachable")
  query _ _ := return .error (.lost "network is unreachable")
  close _ := return ()

end WebTrip
