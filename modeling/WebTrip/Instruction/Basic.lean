import WebTrip.Operation

/-!
# Instructions

One recorded step of a trip, and its fragment of program text. The fragment is a function of the
instruction alone: each operation has one template, and an operation whose arguments are missing
falls back to a placeholder. Arguments are inserted as they are, nothing is escaped.

* `Instruction` and `Extraction` are the records.
* `Instruction.fragment` is the program text.
-/

namespace WebTrip

/-- One column of a selection: what to extract, and the name to show it under. Without a name the
selector names the column. -/
structure Extraction where
  selector : String
  name : Option String := none
  deriving DecidableEq

/-- One recorded step of a trip. -/
structure Instruction where
  operation : Operation
  /-- Plain arguments; what they mean depends on the operation. -/
  args : List String := []
  /-- Columns, for a selection. -/
  extractions : List Extraction := []
  /-- The condition of a branch. -/
  conditions : List String := []
  /-- The sub-program for when the condition holds. -/
  thenFlow : List String := []
  /-- The sub-program for when it does not. -/
  elseFlow : List String := []
  deriving DecidableEq

/-- An extraction in program text. -/
def Extraction.fragment (e : Extraction) : String :=
  match e.name with
  | some name => e.selector ++ " AS " ++ name
  | none => e.selector

namespace Instruction

/-! ## §1 Building instructions -/

/-- An instruction with plain arguments only. -/
def plain (operation : Operation) (args : List String) : Instruction :=
  { operation, args }

/-- A selection of columns. -/
def selection (extractions : List Extraction) : Instruction :=
  { operation := .select, extractions }

/-- A branch over sub-programs that are already compiled. -/
def branch (condition thenFlow : String) (elseFlow : Option String) : Instruction :=
  { operation := .branch, conditions := [condition], thenFlow := [thenFlow],
    elseFlow := elseFlow.toList }

/-- Whether the instruction is hoisted ahead of the flow. -/
def isBinding (i : Instruction) : Bool :=
  i.operation.isBinding

/-! ## §2 Program text -/

/-- The arguments with blanks between them, or a placeholder if there are none. -/
def argsOr (i : Instruction) (placeholder : String) : String :=
  if i.args.isEmpty then placeholder else " ".intercalate i.args

/-- The condition of a branch; one without a condition always holds. -/
def condition (i : Instruction) : String :=
  if i.conditions.isEmpty then "1 = 1" else " ".intercalate i.conditions

/-- One arm of a branch after its keyword; nothing if there is no such arm. -/
def arm (keyword : String) (flow : List String) : String :=
  if flow.isEmpty then "" else " " ++ keyword ++ " " ++ " ".intercalate flow

/-- **The program text of an instruction.** -/
def fragment (i : Instruction) : String :=
  match i.operation with
  | .according => "ACCORDING TO " ++ i.argsOr "yev/hn"
  | .assign => i.args.headD ""
  | .click => "CLICK ON " ++ i.argsOr "a"
  | .dive => "DIVE INTO " ++ i.argsOr "invalid"
  | .enter => "ENTER INTO " ++ i.argsOr "input \"text\""
  | .navigate => "FROM " ++ i.argsOr "https://lsd.so"
  | .group => "GROUP BY " ++ i.argsOr "div"
  | .run => " ".intercalate i.args
  | .select => "SELECT " ++ ", ".intercalate (i.args ++ i.extractions.map Extraction.fragment)
  | .target => "TARGET <| " ++ i.argsOr "TRAVERSER" ++ " |"
  | .branch => "WHEN " ++ i.condition ++ arm "THEN" i.thenFlow ++ arm "ELSE" i.elseFlow
  | .window => if i.args.isEmpty then "" else "WITH TIME " ++ " ".intercalate i.args
  | .distinct => if i.args.isEmpty then "DISTINCT" else "DISTINCT " ++ " ".intercalate i.args

end Instruction

end WebTrip
