import WebTrip.Text.Blank
import WebTrip.Text.Uppercase

/-!
# Operations, targets and time modes

The closed vocabularies of the query language: the thirteen kinds of step a trip can record, the two
places it can run in, and the three directions of a time window.

* `Operation.keyword` and `Operation.ofName?` are the keyword of an operation and its reading.
* `Operation.isBinding` holds of the operations that are hoisted ahead of the flow.
-/

namespace WebTrip

open WebTrip.Text

/-! ## §1 Operations -/

/-- The kinds of step that a trip can record. -/
inductive Operation where
  /-- Imitate a published skill. -/
  | according
  /-- Bind a variable or a function. -/
  | assign
  /-- Click on an element. -/
  | click
  /-- Evaluate the rest of the program against each item that a column links to. -/
  | dive
  /-- Type text into an input. -/
  | enter
  /-- Navigate to a page. -/
  | navigate
  /-- Declare the repeating container; one row per match. -/
  | group
  /-- Invoke a function defined earlier. -/
  | run
  /-- Extract one or more columns. -/
  | select
  /-- Choose where the trip runs. -/
  | target
  /-- Branch between two sub-programs. -/
  | branch
  /-- Restrict results to a time window. -/
  | window
  /-- Keep one row for every value of a column. -/
  | distinct
  deriving DecidableEq

namespace Operation

/-- All operations, in the order in which messages and listings name them. -/
def all : List Operation :=
  [.according, .assign, .click, .dive, .enter, .navigate, .group, .run, .select, .target, .branch,
    .window, .distinct]

/-- The keyword of an operation. -/
def keyword : Operation → String
  | .according => "ACCORDING"
  | .assign => "ASSIGN"
  | .click => "CLICK"
  | .dive => "DIVE"
  | .enter => "ENTER"
  | .navigate => "FROM"
  | .group => "GROUP"
  | .run => "RUN"
  | .select => "SELECT"
  | .target => "TARGET"
  | .branch => "WHEN"
  | .window => "WITH"
  | .distinct => "DISTINCT"

/-- Bindings declare names and settings, which have to exist before the flow uses them. -/
def isBinding : Operation → Bool
  | .assign | .target => true
  | _ => false

/-- The operation with exactly this keyword. -/
def ofKeyword? (keyword : String) : Option Operation :=
  all.find? fun op => op.keyword == keyword

/-- The operation with this name: its keyword in any case, with blanks around it. -/
def ofName? (name : String) : Option Operation :=
  ofKeyword? (uppercase (trim name))

end Operation

/-! ## §2 Targets -/

/-- Where a trip runs. -/
inductive Target where
  /-- A browser session. -/
  | browser
  /-- The headless traverser. -/
  | traverser
  deriving DecidableEq

namespace Target

/-- The word for a target. -/
def word : Target → String
  | .browser => "BROWSER"
  | .traverser => "TRAVERSER"

/-- The target with this name: its word in any case, with blanks around it. -/
def ofName? (name : String) : Option Target :=
  [browser, traverser].find? fun target => target.word == uppercase (trim name)

end Target

/-! ## §3 Time windows -/

/-- The direction of a time window. -/
inductive TimeMode where
  | after
  | before
  | around
  deriving DecidableEq

/-- The word for a direction. -/
def TimeMode.word : TimeMode → String
  | .after => "AFTER"
  | .before => "BEFORE"
  | .around => "AROUND"

end WebTrip
