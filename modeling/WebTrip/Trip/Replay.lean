import WebTrip.Trip.Run

/-!
# Replaying answers

An executor that answers from a script and keeps a record of the programs it was sent.

* `Replay` is the state: the answers that are left, and the record.
* `replay` is the executor.
-/

namespace WebTrip

/-- An answer of an executor. -/
abbrev Answer := Except Error (List Row)

/-- The answers that are left, and the programs that were sent. -/
structure Replay where
  answers : List Answer := []
  /-- The programs sent so far, latest first. -/
  sent : List String := []

/-- Answers one program. The last answer of a script is given again and again; an empty script
answers with no rows. -/
def Replay.answer (program : String) (r : Replay) : Answer × Replay :=
  match r.answers with
  | [] => (.ok [], ⟨[], program :: r.sent⟩)
  | [last] => (last, ⟨[last], program :: r.sent⟩)
  | next :: rest => (next, ⟨rest, program :: r.sent⟩)

/-- The executor that answers from a script. -/
def replay : Executor (StateM Replay) :=
  ⟨fun program => Replay.answer program⟩

end WebTrip
