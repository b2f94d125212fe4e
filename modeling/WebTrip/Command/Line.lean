import WebTrip.Command.Actions
import WebTrip.Connection.Basic

/-!
# The command line

What the arguments of the program ask for, and what the program then prints.

* `Invocation` is what can be asked for, `Invocation.parse` reads it from the arguments.
* `Invocation.run` does it, given the surroundings of the program.

Arguments are read from left to right, and the first one that settles the matter does so: a request
for help or the version, or a mistake.
-/

namespace WebTrip

/-! ## §1 Help -/

/-- The commands. -/
inductive CommandName where
  | compile
  | execute
  | docs
  | help
  deriving DecidableEq

/-- The command with a name. -/
def CommandName.ofWord? (word : String) : Option CommandName :=
  if word = "compile" then some .compile
  else if word = "execute" then some .execute
  else if word = "docs" then some .docs
  else if word = "help" then some .help
  else none

/-- The help on the program. -/
def programHelp : String := Docs.lines [
  "Compile and run LSD trips",
  "",
  "Usage: lsd <COMMAND>",
  "",
  "Commands:",
  "  compile  Compile a JSON instruction log into an LSD program",
  "  execute  Run an LSD program and print the rows as JSON",
  "  docs     List operations, or show documentation for one",
  "  help     Print this message or the help of the given subcommand(s)",
  "",
  "Options:",
  "  -h, --help     Print help",
  "  -V, --version  Print version"]

/-- The help on a command. -/
def CommandName.helpText : CommandName → String
  | .compile => Docs.lines [
      "Compile a JSON instruction log into an LSD program",
      "",
      "Usage: lsd compile [PLAN]",
      "",
      "Arguments:",
      "  [PLAN]  Path to the plan (reads from stdin if not provided)",
      "",
      "Options:",
      "  -h, --help  Print help"]
  | .execute => Docs.lines [
      "Run an LSD program and print the rows as JSON",
      "",
      "Usage: lsd execute [OPTIONS] [QUERY]",
      "",
      "Arguments:",
      "  [QUERY]  The program to run (reads from stdin if not provided)",
      "",
      "Options:",
      "  -p, --pretty  Pretty-print the output",
      "  -h, --help    Print help"]
  | .docs => Docs.lines [
      "List operations, or show documentation for one",
      "",
      "Usage: lsd docs [OPERATION]",
      "",
      "Arguments:",
      "  [OPERATION]  Operation name (use 'lsd docs' to list operations)",
      "",
      "Options:",
      "  -h, --help  Print help"]
  | .help => Docs.lines [
      "Print this message or the help of the given subcommand(s)",
      "",
      "Usage: lsd help [COMMAND]...",
      "",
      "Arguments:",
      "  [COMMAND]...  Print help for the subcommand(s)"]

/-- The version of the program. -/
def versionText : String :=
  "lsd 0.2.0\n"

/-! ## §2 Invocations -/

/-- What the arguments ask for. -/
inductive Invocation where
  /-- Print a text. -/
  | print (text : String)
  /-- Compile the plan at a path, or from the standard input. -/
  | compile (plan : Option String)
  /-- Execute a query, or that from the standard input. -/
  | execute (query : Option String) (pretty : Bool)
  /-- Show the documentation of an operation, or the overview. -/
  | docs (name : Option String)
  /-- The arguments make no sense. -/
  | misused
  deriving DecidableEq

/-- The arguments of a command, as far as they have been read. -/
structure CommandArgs where
  operand : Option String := none
  pretty : Bool := false
  /-- Whether everything that follows is an operand. -/
  operandsOnly : Bool := false

/-- What a letter after a single hyphen means for a command: the arguments with it, or the
invocation that it settles on. -/
def CommandArgs.readLetter (name : CommandName) (a : CommandArgs) (letter : Char) :
    Except Invocation CommandArgs :=
  if letter = 'h' then .error (.print name.helpText)
  else if letter = 'p' ∧ name = .execute ∧ a.pretty = false then .ok { a with pretty := true }
  else .error .misused

/-- Reads an operand. A command takes one; the path of a plan may not be empty. -/
def CommandArgs.readOperand (name : CommandName) (a : CommandArgs) (arg : String) :
    Except Invocation CommandArgs :=
  if a.operand.isSome ∨ (name = .compile ∧ arg = "") then .error .misused
  else .ok { a with operand := some arg }

/-- Reads one argument of a command. -/
def CommandArgs.read (name : CommandName) (a : CommandArgs) (arg : String) :
    Except Invocation CommandArgs :=
  if a.operandsOnly then a.readOperand name arg
  else match arg.toList with
    | ['-', '-'] => .ok { a with operandsOnly := true }
    | '-' :: '-' :: _ =>
      if arg = "--help" then .error (.print name.helpText)
      else if arg = "--pretty" then a.readLetter name 'p'
      else .error .misused
    | '-' :: letter :: letters => (letter :: letters).foldlM (CommandArgs.readLetter name) a
    | _ => a.readOperand name arg

/-- What a command is to do with its arguments. -/
def CommandName.invocation (name : CommandName) (a : CommandArgs) : Invocation :=
  match name with
  | .compile => .compile a.operand
  | .execute => .execute a.operand a.pretty
  | .docs => .docs a.operand
  | .help => .print programHelp

/-- What a request for help asks for: the help on the program, or on one command. -/
def helpInvocation : List String → Invocation
  | [] => .print programHelp
  | [word] => match CommandName.ofWord? word with
    | some name => .print name.helpText
    | none => .misused
  | _ => .misused

namespace Invocation

/-- What a letter before any command means. -/
def ofLetter (letter : Char) : Invocation :=
  if letter = 'h' then .print programHelp
  else if letter = 'V' then .print versionText
  else .misused

/-- **Reading the arguments.** -/
def parse : List String → Invocation
  | [] => .misused
  | arg :: rest =>
    match CommandName.ofWord? arg with
    | some .help => helpInvocation rest
    | some name =>
      match rest.foldlM (CommandArgs.read name) {} with
      | .ok args => name.invocation args
      | .error settled => settled
    | none =>
      if arg = "--help" then .print programHelp
      else if arg = "--version" then .print versionText
      else match arg.toList with
        | '-' :: letter :: _ => ofLetter letter
        | _ => .misused

end Invocation

/-! ## §3 Running -/

/-- The surroundings of the program. -/
structure Surroundings where
  env : Variables
  files : Files
  /-- The bytes of the standard input, unless it is a terminal. -/
  stdin : Option (List Nat)

/-- What a run of the program leaves: its exit code and what it prints. -/
structure Outcome where
  code : Nat
  stdout : String
  /-- What is printed to the standard error as the cause of a failure. -/
  failure : Option CommandError := none
  deriving DecidableEq

namespace Outcome

/-- Success. -/
def printed (text : String) : Outcome :=
  ⟨0, text, none⟩

/-- Failure. -/
def failed (e : CommandError) : Outcome :=
  ⟨1, "", some e⟩

/-- Wrong usage. -/
def misused : Outcome :=
  ⟨2, "", none⟩

/-- The outcome of a command that prints a line, or a text as it is. -/
def ofResult (lineEnd : String) : Except CommandError String → Outcome
  | .ok text => printed (text ++ lineEnd)
  | .error e => failed e

end Outcome

/-- The standard input as text. -/
def Surroundings.input (s : Surroundings) : Except CommandError String :=
  match s.stdin with
  | none => .error .noInput
  | some bytes => (textOfBytes bytes).mapError .io

/-- The text of a file. -/
def Surroundings.fileText (s : Surroundings) (path : String) : Except CommandError String :=
  (s.files path).text.mapError .io

namespace Invocation

variable {m : Type → Type} [Monad m]

/-- Executes a query: its text is read first, then the credentials are resolved, and only then is it
looked at. -/
def runExecute (s : Surroundings) (connect : Connection → Executor m) (query : Option String)
    (pretty : Bool) : m Outcome := do
  match query.map .ok |>.getD s.input with
  | .error e => return .failed e
  | .ok text =>
    match Credentials.fromSurroundings none s.env s.files with
    | .error e => return .failed (.trip (.configuration e))
    | .ok credentials =>
      return .ofResult "\n" (← executeQuery (connect { credentials }) pretty text)

/-- **Running the program.** `connect` makes an executor of a connection. -/
def run (s : Surroundings) (connect : Connection → Executor m) : Invocation → m Outcome
  | .print text => return .printed text
  | .misused => return .misused
  | .docs none => return .printed Docs.overview
  | .docs (some name) => return .ofResult "" (documentation name)
  | .compile plan =>
    return .ofResult "\n" (((plan.map s.fileText).getD s.input).bind compilePlan)
  | .execute query pretty => runExecute s connect query pretty

end Invocation

end WebTrip
