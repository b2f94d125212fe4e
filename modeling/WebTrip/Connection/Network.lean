import WebTrip.Connection.Basic

/-!
# Networks with a record

A wire on which anything may succeed or fail at any time, and which keeps a record of what happens
on it. What comes next may depend on all that has happened before, and on nothing else. Pools are
handles: each one that is opened is a new one, and it is open until it is closed.

* `WireEvent` is what happens on a wire, and `IsOpenAfter` which pools are open then.
* `Network` is how everything turns out, and `Network.wire` the wire with the record.
* `Connection.calls` runs programs one after the other on a connection that nobody has used yet.
-/

namespace WebTrip

/-! ## §1 Events -/

/-- What happens on a wire. -/
inductive WireEvent where
  /-- A pool has been opened. -/
  | opened (pool : Nat)
  /-- No pool could be opened. -/
  | refused (fault : WireFault)
  /-- A program has been run on a pool, and its rows dropped. -/
  | ran (pool : Nat) (program : String) (answer : Except WireFault Unit)
  /-- A program has been sent to a pool, and its rows collected. -/
  | queried (pool : Nat) (program : String) (answer : Except WireFault (List (List Cell)))
  /-- A pool has been closed. -/
  | closed (pool : Nat)

/-- Whether a pool has been opened. -/
def WireEvent.isOpening : WireEvent → Bool
  | .opened _ => true
  | _ => false

/-- The next pool. All pools that were opened before have smaller numbers. -/
def newPool (history : List WireEvent) : Nat :=
  history.countP WireEvent.isOpening

/-- A pool is open after it has been opened, until it is closed. -/
def IsOpenAfter (history : List WireEvent) (pool : Nat) : Prop :=
  .opened pool ∈ history ∧ .closed pool ∉ history

/-! ## §2 Networks -/

/-- How everything turns out on a wire, by what has happened before. -/
structure Network where
  /-- Whether a pool can be opened for a user on a database. -/
  connect : List WireEvent → (user database : String) → Except WireFault Unit
  /-- What comes of a program that is run on a pool. -/
  run : List WireEvent → Nat → String → Except WireFault Unit
  /-- The answer of a pool to a program. -/
  query : List WireEvent → Nat → String → Except WireFault (List (List Cell))

/-- What comes of an attempt to open a pool. -/
def Network.opening (net : Network) (history : List WireEvent) (user database : String) :
    WireEvent :=
  match net.connect history user database with
  | .ok () => .opened (newPool history)
  | .error fault => .refused fault

/-- The wire of a network. Its state is the record of what has happened on it. -/
def Network.wire (net : Network) : Wire (StateM (List WireEvent)) where
  connect user database history :=
    ((net.connect history user database).map fun () => newPool history,
      history ++ [net.opening history user database])
  run pool program history :=
    let answer := net.run history pool program
    (answer, history ++ [.ran pool program answer])
  query pool program history :=
    let answer := net.query history pool program
    (answer, history ++ [.queried pool program answer])
  close pool history := ((), history ++ [.closed pool])

/-! ## §3 Calls one after the other -/

/-- Programs that are run one after the other on a connection that has not been used before: their
results, the pool that is held afterwards, and what has happened on the wire. -/
def Connection.calls (c : Connection) (net : Network) (programs : List String) :
    (List (Except Error (List Row)) × Option Nat) × List WireEvent :=
  ((programs.mapM (c.executor net.wire).execute).run none).run []

end WebTrip
