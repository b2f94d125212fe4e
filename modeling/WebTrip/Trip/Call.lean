import WebTrip.Program

/-!
# Builder calls

A trip is built by calls, each of which appends to its log of instructions. Calls are data: the
bodies of functions and branches are lists of calls, nested to any depth. A body is recorded on a
log of its own and compiled as a nested sub-program.

* `Call` is the type of calls.
* `Call.record` is what a call appends to a log, and `recordAll` what a list of calls appends.
* `Trip` is a log that is built by calls: `Trip.perform` makes a call, `Trip.performAll` a list of
  calls, one after the other.
-/

namespace WebTrip

/-- A builder call. -/
inductive Call where
  | navigate (url : String)
  /-- Clicks a number of times in a row; zero times records nothing. -/
  | clickTimes (selector : String) (times : Nat)
  | enter (selector text : String)
  | dive (column : String)
  | imitate (skill : String)
  | on (target : Target)
  | group (selector : String)
  | select (extractions : List Extraction)
  | distinct (column : String)
  /-- Restricts results to a window around a time stamp, which may have a radius. -/
  | window (mode : TimeMode) (timestamp : String) (radius : Option String)
  /-- Binds a name to an expression. -/
  | assign (name value : String)
  /-- Defines a function with parameters. -/
  | define (name : String) (params : List String) (body : List Call)
  /-- Invokes a function with arguments. -/
  | applyWith (name : String) (args : List String)
  /-- Runs a body when a condition holds. -/
  | when (condition : String) (body : List Call)
  /-- Runs one body when a condition holds and another when it does not. -/
  | whenElse (condition : String) (body otherwise : List Call)
  deriving Inhabited

namespace Call

/-! ## §1 Short forms -/

/-- Clicks once. -/
def click (selector : String) : Call :=
  .clickTimes selector 1

/-- Defines a function without parameters. -/
def associate (name : String) (body : List Call) : Call :=
  .define name [] body

/-- Invokes a function without arguments. -/
def apply (name : String) : Call :=
  .applyWith name []

/-! ## §2 What calls record -/

/-- The text of a variable binding. -/
def binding (name value : String) : String :=
  name ++ " <| " ++ value ++ " |"

/-- The text of a function definition. Without parameters their list is left out altogether. -/
def definition (name : String) (params : List String) (body : String) : String :=
  let head := if params.isEmpty then "" else " ".intercalate params ++ " <|"
  name ++ " <|> " ++ head ++ " \n" ++ body ++ " |"

mutual

/-- The instructions that a call appends to a log. -/
def record : Call → List Instruction
  | .navigate url => [.plain .navigate [url]]
  | .clickTimes selector times => List.replicate times (.plain .click [selector])
  | .enter selector text => [.plain .enter [selector, text]]
  | .dive column => [.plain .dive [column]]
  | .imitate skill => [.plain .according [skill]]
  | .on target => [.plain .target [target.word]]
  | .group selector => [.plain .group [selector]]
  | .select extractions => [.selection extractions]
  | .distinct column => [.plain .distinct [column]]
  | .window mode timestamp radius =>
    [.plain .window ([mode.word, timestamp] ++ radius.toList)]
  | .assign name value => [.plain .assign [binding name value]]
  | .define name params body =>
    [.plain .assign [definition name params (compile .nested (recordAll body))]]
  | .applyWith name args => [.plain .run (name :: args)]
  | .when condition body => [.branch condition (compile .nested (recordAll body)) none]
  | .whenElse condition body otherwise =>
    [.branch condition (compile .nested (recordAll body))
      (some (compile .nested (recordAll otherwise)))]

/-- The instructions that a list of calls appends to a log. -/
def recordAll : List Call → List Instruction
  | [] => []
  | call :: rest => call.record ++ recordAll rest

end

end Call

/-! ## §3 Trips -/

/-- A trip: the log of what has been recorded. -/
structure Trip where
  log : List Instruction := []
  deriving DecidableEq

namespace Trip

/-- The empty trip. -/
def empty : Trip := {}

/-- Appends an instruction to the log. -/
def push (t : Trip) (i : Instruction) : Trip :=
  ⟨t.log ++ [i]⟩

/-- Clicks a number of times, one click after the other. -/
def clickTimes (t : Trip) (selector : String) : Nat → Trip
  | 0 => t
  | times + 1 => (t.push (.plain .click [selector])).clickTimes selector times

/-- The sub-program of a body, which is recorded on a trip of its own. -/
def subProgram (body : Trip → Trip) : String :=
  compile .nested (body empty).log

mutual

/-- Makes a builder call. -/
def perform (t : Trip) : Call → Trip
  | .navigate url => t.push (.plain .navigate [url])
  | .clickTimes selector times => t.clickTimes selector times
  | .enter selector text => t.push (.plain .enter [selector, text])
  | .dive column => t.push (.plain .dive [column])
  | .imitate skill => t.push (.plain .according [skill])
  | .on target => t.push (.plain .target [target.word])
  | .group selector => t.push (.plain .group [selector])
  | .select extractions => t.push (.selection extractions)
  | .distinct column => t.push (.plain .distinct [column])
  | .window mode timestamp radius =>
    t.push (.plain .window ([mode.word, timestamp] ++ radius.toList))
  | .assign name value => t.push (.plain .assign [Call.binding name value])
  | .define name params body =>
    t.push (.plain .assign [Call.definition name params (subProgram fun s => s.performAll body)])
  | .applyWith name args => t.push (.plain .run (name :: args))
  | .when condition body =>
    t.push (.branch condition (subProgram fun s => s.performAll body) none)
  | .whenElse condition body otherwise =>
    t.push (.branch condition (subProgram fun s => s.performAll body)
      (some (subProgram fun s => s.performAll otherwise)))

/-- Makes builder calls one after the other. -/
def performAll (t : Trip) : List Call → Trip
  | [] => t
  | call :: rest => (t.perform call).performAll rest

end

/-- The program of a trip. -/
def program (t : Trip) : String :=
  compile .topLevel t.log

end Trip

end WebTrip
