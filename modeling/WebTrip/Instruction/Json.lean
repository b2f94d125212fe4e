import WebTrip.Instruction.Basic
import WebTrip.Json.Reader

/-!
# Instructions as JSON

How logs of instructions are written as JSON text and read from it.

Written, in either layout, an instruction is an object with its fields in a fixed order, empty lists
left out. It is read from an object with the fields in any order and unknown ones passed over, or
from an array of the values in the fixed order; missing lists are empty. The first fault in the
order of the text is reported.

* `Instruction.writtenAs` and `Instruction.writtenLogAs` write, with a choice of layout.
* `Instruction.read` and `Instruction.parseLog` read.
-/

namespace WebTrip

open WebTrip.Json

/-! ## §1 Writing -/

section Writing

variable (layout : Layout) (depth : Nat)

/-- A list of strings as a JSON array that stands at a depth. -/
def writtenStrings (items : List String) : String :=
  layout.array depth (items.map writtenString)

/-- A list-valued field, unless the list is empty. -/
def writtenListField {α : Type} (name : String) (items : List α) (value : String) : List String :=
  if items.isEmpty then [] else [layout.field name value]

/-- An operation is written as its keyword. -/
def Operation.written (op : Operation) : String :=
  writtenString op.keyword

/-- An extraction is written without a name field if it has no name. -/
def Extraction.writtenAs (e : Extraction) : String :=
  layout.object depth (layout.field "selecting" (writtenString e.selector) ::
    (e.name.map fun name => layout.field "alias" (writtenString name)).toList)

/-- The JSON text of an instruction that stands at a depth. Its lists stand one level deeper. -/
def Instruction.writtenAs (i : Instruction) : String :=
  let strings := writtenStrings layout (depth + 1)
  layout.object depth (layout.field "operation" i.operation.written ::
    (writtenListField layout "args" i.args (strings i.args)
      ++ writtenListField layout "aliased_args" i.extractions
          (layout.array (depth + 1) (i.extractions.map (Extraction.writtenAs layout (depth + 2))))
      ++ writtenListField layout "conditional_args" i.conditions (strings i.conditions)
      ++ writtenListField layout "then_flow" i.thenFlow (strings i.thenFlow)
      ++ writtenListField layout "else_flow" i.elseFlow (strings i.elseFlow)))

/-- The JSON text of a log. -/
def Instruction.writtenLogAs (log : List Instruction) : String :=
  layout.array 0 (log.map (Instruction.writtenAs layout 1))

end Writing

/-- The compact text of an instruction. -/
def Instruction.written (i : Instruction) : String :=
  i.writtenAs .compact 0

/-- The compact text of a log. -/
def Instruction.writtenLog (log : List Instruction) : String :=
  Instruction.writtenLogAs .compact log

/-! ## §2 Reading strings and lists -/

/-- Reads a string. -/
def readString : Outline → Except Failure String
  | .string (some s) => .ok s
  | o => .error (o.notA "a string")

/-- Reads a string or null. -/
def readOptionalString : Outline → Except Failure (Option String)
  | .null => .ok none
  | o => some <$> readString o

/-- Reads an array with a reader for its elements. -/
def readList {α : Type} (reader : Outline → Except Failure α) : Outline → Except Failure (List α)
  | .array items => items.mapM reader
  | o => .error (o.notA "a sequence")

/-- Reads a value that nobody looks at. -/
def passOver (o : Outline) : Except Failure Unit :=
  if o.intact then .ok () else .error .syntaxError

/-! ## §3 Reading operations -/

/-- Reads a keyword. -/
def Operation.readKeyword (keyword : String) : Except Failure Operation :=
  match Operation.ofKeyword? keyword with
  | some op => .ok op
  | none => .error (.dataError (.unknownVariant keyword (Operation.all.map Operation.keyword)))

/-- Reads an operation: its keyword, or an object whose one field is the keyword, with the value
null. -/
def Operation.read : Outline → Except Failure Operation
  | .string (some keyword) => Operation.readKeyword keyword
  | .object ((some keyword, value) :: rest) => do
    let op ← Operation.readKeyword keyword
    match value with
    | .null => if rest.isEmpty then .ok op else .error .syntaxError
    | other => .error (other.notA "unit")
  | .object ((none, .misplaced found) :: _) => .error (found.notA "variant identifier")
  | _ => .error .syntaxError

/-! ## §4 Reading extractions -/

/-- The fields of an extraction that have been read. -/
structure Extraction.Partial where
  selector : Option String := none
  name : Option (Option String) := none

/-- Reads one member of an extraction. -/
def Extraction.Partial.read (p : Extraction.Partial) (name : Option String) (value : Outline) :
    Except Failure Extraction.Partial :=
  match name with
  | none => .error .syntaxError
  | some "selecting" =>
    if p.selector.isSome then .error (.dataError (.duplicateField "selecting"))
    else (fun s => { p with selector := some s }) <$> readString value
  | some "alias" =>
    if p.name.isSome then .error (.dataError (.duplicateField "alias"))
    else (fun n => { p with name := some n }) <$> readOptionalString value
  | some _ => (fun _ => p) <$> passOver value

/-- Reads an extraction from an object or an array. -/
def Extraction.read : Outline → Except Failure Extraction
  | .object members => do
    let p ← members.foldlM (fun p member => p.read member.1 member.2) ({} : Extraction.Partial)
    match p.selector with
    | some selector => .ok ⟨selector, p.name.getD none⟩
    | none => .error (.dataError (.missingField "selecting"))
  | .array [] => .error (.dataError (.wrongLength 0 "SelectionPair" 2))
  | .array [selector] => do return ⟨← readString selector, none⟩
  | .array (selector :: name :: rest) => do
    let e : Extraction := ⟨← readString selector, ← readOptionalString name⟩
    if rest.isEmpty then .ok e else .error .syntaxError
  | o => .error (o.notA "struct SelectionPair")

/-! ## §5 Reading instructions -/

/-- The fields of an instruction that have been read. -/
structure Instruction.Partial where
  operation : Option Operation := none
  args : Option (List String) := none
  extractions : Option (List Extraction) := none
  conditions : Option (List String) := none
  thenFlow : Option (List String) := none
  elseFlow : Option (List String) := none

namespace Instruction.Partial

/-- Reads the value of a field, unless the field has been read before. -/
def readOnce {α : Type} (name : String) (found : Option α) (reader : Outline → Except Failure α)
    (value : Outline) : Except Failure α :=
  if found.isSome then .error (.dataError (.duplicateField name)) else reader value

/-- Reads one member of an instruction. -/
def read (p : Partial) (name : Option String) (value : Outline) : Except Failure Partial :=
  match name with
  | none => .error .syntaxError
  | some "operation" => do
    return { p with operation := some (← readOnce "operation" p.operation Operation.read value) }
  | some "args" => do
    return { p with args := some (← readOnce "args" p.args (readList readString) value) }
  | some "aliased_args" => do
    let es ← readOnce "aliased_args" p.extractions (readList Extraction.read) value
    return { p with extractions := some es }
  | some "conditional_args" => do
    let ss ← readOnce "conditional_args" p.conditions (readList readString) value
    return { p with conditions := some ss }
  | some "then_flow" => do
    let ss ← readOnce "then_flow" p.thenFlow (readList readString) value
    return { p with thenFlow := some ss }
  | some "else_flow" => do
    let ss ← readOnce "else_flow" p.elseFlow (readList readString) value
    return { p with elseFlow := some ss }
  | some _ => do
    passOver value
    return p

/-- The instruction with the fields that have been read; lists that are missing are empty. -/
def finish (p : Partial) : Except Failure Instruction :=
  match p.operation with
  | none => .error (.dataError (.missingField "operation"))
  | some operation =>
    .ok { operation, args := p.args.getD [], extractions := p.extractions.getD []
          conditions := p.conditions.getD [], thenFlow := p.thenFlow.getD []
          elseFlow := p.elseFlow.getD [] }

end Instruction.Partial

/-- Reads the next value of an array with a reader, or gives the empty list at its end. -/
def readNext {α : Type} (reader : Outline → Except Failure (List α)) :
    List Outline → Except Failure (List α × List Outline)
  | [] => .ok ([], [])
  | o :: rest => (·, rest) <$> reader o

/-- Reads an instruction from an object or an array. -/
def Instruction.read : Outline → Except Failure Instruction
  | .object members => do
    let p ← members.foldlM (fun p member => p.read member.1 member.2) ({} : Instruction.Partial)
    p.finish
  | .array [] => .error (.dataError (.wrongLength 0 "Instruction" 6))
  | .array (operation :: rest) => do
    let operation ← Operation.read operation
    let (args, rest) ← readNext (readList readString) rest
    let (extractions, rest) ← readNext (readList Extraction.read) rest
    let (conditions, rest) ← readNext (readList readString) rest
    let (thenFlow, rest) ← readNext (readList readString) rest
    let (elseFlow, rest) ← readNext (readList readString) rest
    if rest.isEmpty then .ok { operation, args, extractions, conditions, thenFlow, elseFlow }
    else .error .syntaxError
  | o => .error (o.notA "struct Instruction")

/-- The instruction that a text spells. -/
def Instruction.parse (text : String) : Except Failure Instruction :=
  (Document.ofText text).read Instruction.read

/-- The log that a text spells. -/
def Instruction.parseLog (text : String) : Except Failure (List Instruction) :=
  (Document.ofText text).read (readList Instruction.read)

end WebTrip
