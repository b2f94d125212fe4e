import WebTrip.Connection.Network

/-!
# Calls at the same time

Calls on one connection share the slot for its pool. A call takes a lock before it looks at the
slot, and gives it back once it has a pool, or the error for not getting one; its program is sent
without the lock. Here calls take one step at a time, in any order.

* `Stage` is how far a call has got, and `Deed` is one step of a call.
* `Connection.next?` is the next step of a call, and `Connection.step` lets a call take it.
* `Connection.interleave` lets calls take steps in a given order.
-/

namespace WebTrip

/-! ## §1 Stages and deeds -/

/-- How far a call has got. -/
inductive Stage where
  /-- It waits for the lock. -/
  | waiting
  /-- It has found a pool in the slot, and probes it next. -/
  | probing (pool : Nat)
  /-- The pool has not answered, and is closed next. -/
  | closing (pool : Nat)
  /-- The slot is cleared next. -/
  | clearing
  /-- A pool is opened next. -/
  | connecting
  /-- A pool has been opened, and is put into the slot next. -/
  | storing (pool : Nat)
  /-- It has a pool or an error, and gives back the lock next. -/
  | leaving (acquired : Except Error Nat)
  /-- It has given back the lock, and sends its program next. -/
  | querying (pool : Nat)
  /-- It has returned. -/
  | finished (result : Except Error (List Row))

/-- One step of a call. -/
inductive Deed where
  | lock
  | wire (event : WireEvent)
  | clear
  | store (pool : Nat)
  | unlock (acquired : Except Error Nat)

/-- What a step does on the wire. -/
def Deed.event? : Deed → Option WireEvent
  | .wire event => some event
  | .lock | .clear | .store _ | .unlock _ => none

/-- What a step leaves in the slot. -/
def Deed.slotAfter (slot : Option Nat) : Deed → Option Nat
  | .clear => none
  | .store pool => some pool
  | .lock | .wire _ | .unlock _ => slot

namespace Connection

/-- The next step of a call, and how far it has got then. There is none while somebody else has the
lock that it needs, and none after it has returned. -/
def next? (c : Connection) (net : Network) (program : String) (history : List WireEvent)
    (slot : Option Nat) (free : Bool) : Stage → Option (Deed × Stage)
  | .waiting =>
    if free then
      match slot with
      | some pool => some (.lock, .probing pool)
      | none => some (.lock, .connecting)
    else none
  | .probing pool =>
    match net.run history pool probeProgram with
    | .ok () => some (.wire (.ran pool probeProgram (.ok ())), .leaving (.ok pool))
    | .error fault => some (.wire (.ran pool probeProgram (.error fault)), .closing pool)
  | .closing pool => some (.wire (.closed pool), .clearing)
  | .clearing => some (.clear, .connecting)
  | .connecting =>
    match net.connect history c.credentials.user c.database with
    | .ok () => some (.wire (.opened (newPool history)), .storing (newPool history))
    | .error fault => some (.wire (.refused fault), .leaving (.error (c.unreachable fault)))
  | .storing pool => some (.store pool, .leaving (.ok pool))
  | .leaving (.ok pool) => some (.unlock (.ok pool), .querying pool)
  | .leaving (.error e) => some (.unlock (.error e), .finished (.error e))
  | .querying pool =>
    let answer := net.query history pool program
    some (.wire (.queried pool program answer), .finished (c.readAnswer answer))
  | .finished _ => none

end Connection

/-! ## §2 Taking turns -/

/-- Calls on one connection, each with a name: what is in the slot, who has the lock, how far the
calls have got, and all the steps so far. -/
structure Traffic (ι : Type) where
  slot : Option Nat := none
  holder : Option ι := none
  stage : ι → Stage := fun _ => .waiting
  deeds : List (ι × Deed) := []

variable {ι : Type}

/-- What steps have done on the wire. -/
def wireEvents (deeds : List (ι × Deed)) : List WireEvent :=
  deeds.filterMap fun (_, deed) => deed.event?

variable [DecidableEq ι]

/-- What one call has done. -/
def deedsOf (i : ι) (deeds : List (ι × Deed)) : List Deed :=
  deeds.filterMap fun (j, deed) => if j = i then some deed else none

/-- A call takes a step and gets to a stage. -/
def Traffic.perform (t : Traffic ι) (i : ι) (deed : Deed) (stage : Stage) : Traffic ι where
  slot := deed.slotAfter t.slot
  holder := match deed with
    | .lock => some i
    | .unlock _ => none
    | .wire _ | .clear | .store _ => t.holder
  stage j := if j = i then stage else t.stage j
  deeds := t.deeds ++ [(i, deed)]

namespace Connection

/-- **The turn of a call**: it takes its next step, if it can. -/
def step (c : Connection) (net : Network) (programs : ι → String) (t : Traffic ι) (i : ι) :
    Traffic ι :=
  match c.next? net (programs i) (wireEvents t.deeds) t.slot t.holder.isNone (t.stage i) with
  | some (deed, stage) => t.perform i deed stage
  | none => t

/-- Calls that take turns in the given order, on a connection that has not been used before. -/
def interleave (c : Connection) (net : Network) (programs : ι → String) (turns : List ι) :
    Traffic ι :=
  turns.foldl (c.step net programs) {}

end Connection

end WebTrip
