import WebTrip.Instruction.Json
import WebTrip.Trip.Description
import WebTrip.Trip.Typed

/-!
# Sessions

A session keeps several trips by name, all of them run by one executor. Its actions build trips,
look at them or run them; an action on one trip leaves the others as they are, and an action that
fails leaves all of them as they are.

* `Session` is the collection of trips; a name without a trip stands for the empty one.
* `Action` is what can be done with a trip, and `Reply` what comes of it.
* `Session.act` performs an action, and `Session.actAll` performs actions one after the other.
-/

namespace WebTrip

open WebTrip.Json

/-! ## §1 Trips by name -/

/-- Trips by name; of several entries for a name the first one counts. -/
structure Session where
  trips : List (String × Trip) := []

/-- The trip with a name. -/
def Session.trip (s : Session) (name : String) : Trip :=
  (s.trips.lookup name).getD Trip.empty

/-- Replaces the trip with a name. -/
def Session.set (s : Session) (name : String) (t : Trip) : Session :=
  ⟨(name, t) :: s.trips.filter fun entry => entry.1 != name⟩

/-! ## §2 Actions -/

/-- What can be done with a trip. -/
inductive Action where
  /-- Makes a builder call. -/
  | build (call : Call)
  /-- Starts again with an empty log. -/
  | restart
  /-- Starts again with the log that a JSON text spells. -/
  | seed (text : String)
  /-- Starts again with the log of another trip. -/
  | copy (other : String)
  | showLog
  | describe
  /-- Compiles the trip. -/
  | showProgram
  | run (schema : Schema)
  /-- Sends a text as it is. -/
  | execute (query : String)
  | extrapolate (type : RowType) (schema : Schema)

/-- What comes of an action. -/
inductive Reply where
  /-- The trip has been changed to this. -/
  | changed (trip : Trip)
  | log (log : List Instruction)
  /-- A text that shows the trip: its description or its program. -/
  | description (text : String)
  | value (v : Value)
  /-- The text of a log could not be read. -/
  | unreadable (cause : Failure)
  | failed (cause : Error)

/-- The reply with the result of a run. -/
def Reply.ofResult : Except Error Value → Reply
  | .ok v => .value v
  | .error e => .failed e

namespace Session

/-- Replaces a trip and replies with it. -/
def change (s : Session) (name : String) (t : Trip) : Reply × Session :=
  (.changed t, s.set name t)

/-- **Performing an action** on the trip with a name. -/
def act {m : Type → Type} [Monad m] (executor : Executor m) (s : Session) (name : String) :
    Action → m (Reply × Session)
  | .build call => return s.change name ((s.trip name).perform call)
  | .restart => return s.change name Trip.empty
  | .seed text =>
    match Instruction.parseLog text with
    | .ok log => return s.change name ⟨log⟩
    | .error cause => return (.unreadable cause, s)
  | .copy other => return s.change name (s.trip other)
  | .showLog => return (.log (s.trip name).log, s)
  | .describe => return (.description (s.trip name).description, s)
  | .showProgram => return (.description (s.trip name).program, s)
  | .run schema => return (Reply.ofResult (← (s.trip name).run executor schema), s)
  | .execute query => return (Reply.ofResult ((← executor.execute query).map rowsValue), s)
  | .extrapolate type schema =>
    return (Reply.ofResult (← (s.trip name).extrapolate executor type schema), s)

/-- Performs actions one after the other, each on the trip with the name in front of it. -/
def actAll {m : Type → Type} [Monad m] (executor : Executor m) (s : Session) :
    List (String × Action) → m (List Reply × Session)
  | [] => return ([], s)
  | (name, action) :: rest => do
    let (reply, s) ← s.act executor name action
    let (replies, s) ← s.actAll executor rest
    return (reply :: replies, s)

end Session

end WebTrip
