import WebTrip.Error
import WebTrip.FileTree
import WebTrip.Text.Quoted
import WebTrip.Toml.Reader

/-!
# Credentials

The user and the password for the interpreter. Each of the two is looked up on its own, and the
first value that is present and not empty wins: the explicit configuration, the environment, the
configuration file. The file matters only if one of the two is still missing.

* `ConfigFile` is what is known about a configuration file, `ConfigFile.ofLocated` reads one.
* `Credentials.resolve` looks the credentials up.
* `defaultConfigFile` is the path of the configuration file.
-/

namespace WebTrip

open WebTrip.Text

/-! ## §1 Configurations -/

/-- A user and a password that were configured; empty ones do not count. -/
structure Configuration where
  user : String := ""
  password : String := ""
  deriving DecidableEq

/-- A user and a password that are complete. -/
structure Credentials where
  user : String
  password : String
  deriving DecidableEq

/-- The description of credentials, which does not tell the password. -/
def Credentials.description (c : Credentials) : String :=
  "Credentials \x7b user: " ++ quoted c.user ++ ", password: " ++ quoted "***" ++ " \x7d"

/-- An environment: variables and their values. -/
abbrev Variables := String → Option String

/-! ## §2 Configuration files -/

/-- What is known about a configuration file. -/
inductive ConfigFile where
  | absent
  | unusable (fault : ConfigFault)
  | holds (configuration : Configuration)
  deriving DecidableEq

/-- The text under a name of a table; the empty text if there is nothing, and none if there is
something else. -/
def textField? (t : Toml.Table) (name : String) : Option String :=
  match t.find? name with
  | none => some ""
  | some (.value (.text s)) => some s
  | some _ => none

/-- The configuration that a text spells: a TOML document with the texts `user` and `password`, both
of which may be missing. Everything else in it is passed over. -/
def Configuration.parse? (text : String) : Option Configuration := do
  let t ← Toml.Table.parse? text
  return ⟨← textField? t "user", ← textField? t "password"⟩

/-- What a path leads to, as a configuration file. Only something that exists can be at fault. -/
def ConfigFile.ofLocated (found : Located) : ConfigFile :=
  if found.isPresent then
    match found.text with
    | .error reason => .unusable (.unreadable reason)
    | .ok text => match Configuration.parse? text with
      | some configuration => .holds configuration
      | none => .unusable .malformed
  else .absent

/-! ## §3 Looking up -/

/-- A text that is not empty. -/
def present? (s : String) : Option String :=
  if s.isEmpty then none else some s

/-- The first of two texts that is present and not empty. -/
def firstPresent (first second : Option String) : Option String :=
  first.bind present? <|> second.bind present?

/-- The credentials, if both parts are there. The user is missed first. -/
def Credentials.make (user password : Option String) (configFile : String) :
    Except ConfigurationError Credentials :=
  match user, password with
  | some user, some password => .ok ⟨user, password⟩
  | none, _ => .error (.missingUser configFile)
  | some _, none => .error (.missingPassword configFile)

/-- **Resolving credentials** from an explicit configuration, the environment and a configuration
file. `look` tells what is at a path. -/
def Credentials.resolve (explicit : Option Configuration) (env : Variables)
    (configFile : Option String) (look : String → ConfigFile) :
    Except ConfigurationError Credentials :=
  let user := firstPresent (explicit.map (·.user)) (env "LSD_USER")
  let password := firstPresent (explicit.map (·.password)) (env "LSD_PASSWORD")
  let named := configFile.getD "~/.lsd/config.toml"
  let file :=
    if user.isSome && password.isSome then .absent
    else (configFile.map look).getD .absent
  match file with
  | .absent => make user password named
  | .unusable fault => .error (.unusableFile named fault)
  | .holds configuration =>
    make (user <|> present? configuration.user) (password <|> present? configuration.password)
      named

/-- A relative path below a directory, with one slash between them. -/
def below (directory path : String) : String :=
  if directory.endsWith "/" then directory ++ path else directory ++ "/" ++ path

/-- The path of the configuration file: what `LSD_CONFIG` says, or a fixed place below `HOME`. -/
def defaultConfigFile (env : Variables) : Option String :=
  ((env "LSD_CONFIG").bind present?)
    <|> ((env "HOME").bind present?).map fun home => below home ".lsd/config.toml"

/-- The credentials that the surroundings of a program give. -/
def Credentials.fromSurroundings (explicit : Option Configuration) (env : Variables)
    (files : Files) : Except ConfigurationError Credentials :=
  resolve explicit env (defaultConfigFile env) fun path => ConfigFile.ofLocated (files path)

end WebTrip
