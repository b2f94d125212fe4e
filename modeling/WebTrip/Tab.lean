import WebTrip.Connection.Basic

/-!
# Tabs

A tab owns one connection and opens trips on it. The trips share the connection and nothing else.

* `Tab.connect` resolves credentials at once: a user or a password that is missing is missed here.
* `Tab.openTrip` opens a trip.
-/

namespace WebTrip

/-- A connection and the trips that were opened on it, latest first. -/
structure Tab where
  connection : Connection
  trips : List Trip := []

namespace Tab

/-- Opens a tab, without any network traffic. -/
def connect (explicit : Option Configuration) (env : Variables) (files : Files) :
    Except ConfigurationError Tab := do
  let credentials ← Credentials.fromSurroundings explicit env files
  return { connection := { credentials } }

/-- Opens an empty trip. -/
def openTrip (t : Tab) : Tab :=
  { t with trips := Trip.empty :: t.trips }

/-- Makes a builder call on the trip opened last. -/
def perform (t : Tab) (call : Call) : Tab :=
  match t.trips with
  | [] => t
  | trip :: rest => { t with trips := trip.perform call :: rest }

/-- How many own the connection: the tab and its trips. -/
def holders (t : Tab) : Nat :=
  1 + t.trips.length

end Tab

end WebTrip
