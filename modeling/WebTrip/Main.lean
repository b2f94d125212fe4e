import WebTrip.Command.Line

/-!
# The program

The outer layer of the command line: it looks at the arguments and the surroundings, and prints what
comes of them. There is no network here, so a query ends with an error.
-/

namespace WebTrip

/-- What a failure to read a path says about it. -/
def locatedOfError : IO.Error → Located
  | .noFileOrDirectory _ _ _ => .absent
  | .inappropriateType _ code details =>
    if code = 20 then .belowFile else if code = 21 then .directory else .unreadable details
  | e => .unreadable (toString e)

/-- What a path leads to in the file system. -/
def locate (path : String) : IO Located := do
  try return .file ((← IO.FS.readBinFile path).toList.map UInt8.toNat)
  catch e => return locatedOfError e

/-- Looks at the paths that a run may need before it begins. -/
def locateAll (paths : List String) : IO Files := do
  let found ← paths.mapM fun path => return (path, ← locate path)
  return fun path => (found.lookup path).getD .absent

/-- The values of the variables that matter. -/
def readVariables : IO Variables := do
  let names := ["LSD_USER", "LSD_PASSWORD", "LSD_CONFIG", "HOME"]
  let values ← names.mapM fun name => return (name, ← IO.getEnv name)
  return fun name => (values.lookup name).join

/-- The paths that an invocation may read. -/
def Invocation.paths (env : Variables) : Invocation → List String
  | .compile (some plan) => [plan]
  | .execute _ _ => (defaultConfigFile env).toList
  | _ => []

/-- Whether an invocation reads the standard input. -/
def Invocation.readsInput : Invocation → Bool
  | .compile none | .execute none _ => true
  | _ => false

/-- Reads the standard input, unless it is a terminal. -/
def readInput : IO (Option (List Nat)) := do
  let stdin ← IO.getStdin
  if ← stdin.isTty then return none
  else
    let mut bytes := ByteArray.empty
    let mut more := true
    while more do
      let chunk ← stdin.read 65536
      bytes := bytes ++ chunk
      more := !chunk.isEmpty
    return some (bytes.toList.map UInt8.toNat)

/-- Runs the program. -/
def runProgram (args : List String) : IO UInt32 := do
  let invocation := Invocation.parse args
  let env ← readVariables
  let files ← locateAll (invocation.paths env)
  let stdin ← if invocation.readsInput then readInput else pure none
  let connect := fun (c : Connection) => c.executor (Wire.unplugged : Wire IO)
  let (outcome, _) ← (invocation.run ⟨env, files, stdin⟩ connect).run none
  IO.print outcome.stdout
  match outcome.failure with
  | some e => IO.eprintln e.message
  | none => if outcome.code = 2 then IO.eprint programHelp
  return outcome.code.toUInt32

end WebTrip

/-- Runs the program. -/
def main (args : List String) : IO UInt32 :=
  WebTrip.runProgram args
