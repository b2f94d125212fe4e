import WebTrip.Instruction.Basic

/-!
# Programs

A log of instructions is compiled into one program: a block of bindings, one per line, followed by
the flow, joined by pipes. Bindings come first wherever they were recorded, because the interpreter
needs them before their first use; within each block the order of the log is kept.

* `Program.bindings` and `Program.flow` are the two blocks.
* `compile` puts them together and trims the result.
-/

namespace WebTrip

open WebTrip.Text

/-- Where a program is going to stand. -/
inductive Placement where
  /-- On its own. -/
  | topLevel
  /-- Behind a pipeline that is already open, as a branch or a function body does: every fragment of
  the flow, the first one too, has a pipe before it. -/
  | nested
  deriving DecidableEq

namespace Program

/-- The block of bindings. -/
def bindings (log : List Instruction) : String :=
  "\n".intercalate ((log.filter (·.isBinding)).map Instruction.fragment)

/-- The fragments of the flow, with pipes. -/
def pipeline (placement : Placement) (fragments : List String) : String :=
  match placement with
  | .topLevel => " |> ".intercalate fragments
  | .nested => " ".intercalate (fragments.map ("|> " ++ ·))

/-- The flow. -/
def flow (placement : Placement) (log : List Instruction) : String :=
  pipeline placement ((log.filter (!·.isBinding)).map Instruction.fragment)

end Program

/-- **The program of a log.** -/
def compile (placement : Placement) (log : List Instruction) : String :=
  trim (Program.bindings log ++ "\n" ++ Program.flow placement log)

end WebTrip
