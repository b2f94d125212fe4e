import Mathlib.Tactic.Common
import WebTrip.Connection.Credentials

/-!
# Where credentials come from

The user and the password have the same three sources: the explicit configuration, the environment
and the configuration file. Each of the two is the first value that its own sources have, and absent
values count as empty ones. The file is left alone as long as the other two sources have both; once
it is needed, its faults come before anything that is missing, and the user is missed before the
password.

## Main definitions

- `Part`: the two parts of credentials
- `Sources`: everything that credentials are resolved from
- `FirstPresent`, `NonePresent`: the first value that is not empty
- `Resolution`: what comes of sources, case by case

## Main statements

- `Sources.resolve_eq_of_usable`: without a fault of the file each part is found by itself
- `resolve_eq_iff`: the result is the one of the case that applies
- `ConfigFile.ofLocated_eq_unusable_iff`: when a file is at fault
- `Sources.resolve_first_present`: resolution, the file that does not matter, independent parts
-/

namespace WebTrip

/-! ## §1 Sources -/

/-- The parts of credentials. -/
inductive Part where
  | user
  | password
  deriving DecidableEq

theorem Part.forall_iff {P : Part → Prop} : (∀ part, P part) ↔ P .user ∧ P .password := by
  refine ⟨fun h => ⟨h .user, h .password⟩, fun h part => ?_⟩
  cases part
  · exact h.1
  · exact h.2

/-- The variable of the environment that holds a part. -/
def Part.envName : Part → String
  | .user => "LSD_USER"
  | .password => "LSD_PASSWORD"

/-- A part of a configuration. -/
def Configuration.part (c : Configuration) : Part → String
  | .user => c.user
  | .password => c.password

/-- A part of credentials. -/
def Credentials.part (c : Credentials) : Part → String
  | .user => c.user
  | .password => c.password

/-- Everything that credentials are resolved from. -/
structure Sources where
  explicit : Option Configuration
  env : Variables
  configFile : Option String
  /-- What is known about the file at a path. -/
  look : String → ConfigFile

namespace Sources

variable (s : Sources)

/-- The credentials, or why there are none. -/
def resolve : Except ConfigurationError Credentials :=
  Credentials.resolve s.explicit s.env s.configFile s.look

/-- What is known about the configuration file; without a path there is none. -/
def file : ConfigFile :=
  (s.configFile.map s.look).getD .absent

/-- The file that is named where something is missing: the one looked at, or the usual one. -/
def named : String :=
  s.configFile.getD "~/.lsd/config.toml"

/-- The values of a part in the explicit configuration and in the environment. What is absent counts
as empty. -/
def near (part : Part) : List String :=
  [(s.explicit.map (·.part part)).getD "", (s.env part.envName).getD ""]

/-- The value of a part in the configuration file. -/
def filed (part : Part) : String :=
  match s.file with
  | .holds c => c.part part
  | .absent | .unusable _ => ""

/-- The values of a part in all sources. -/
def values (part : Part) : List String :=
  s.near part ++ [s.filed part]

/-- The configuration file is not at fault. -/
def FileUsable : Prop :=
  ∀ fault, s.file ≠ .unusable fault

end Sources

/-! ## §2 The first value -/

/-- The value is the first one that is not empty. -/
def FirstPresent (values : List String) (value : String) : Prop :=
  value ≠ "" ∧ ∃ before after, values = before ++ value :: after ∧ ∀ other ∈ before, other = ""

/-- All values are empty. -/
def NonePresent (values : List String) : Prop :=
  ∀ value ∈ values, value = ""

/-- The first value that is not empty, if there is one. -/
def first? (values : List String) : Option String :=
  values.find? fun value => !value.isEmpty

theorem first?_eq_some_iff {values : List String} {value : String} :
    first? values = some value ↔ FirstPresent values value := by
  simp [first?, FirstPresent, List.find?_eq_some_iff_append]

theorem first?_eq_none_iff {values : List String} :
    first? values = none ↔ NonePresent values := by
  simp [first?, NonePresent]

/-- There is only one first value, -/
theorem FirstPresent.unique {values : List String} {value value' : String}
    (h : FirstPresent values value) (h' : FirstPresent values value') : value = value' := by
  have heq := (first?_eq_some_iff.mpr h).symm.trans (first?_eq_some_iff.mpr h')
  exact Option.some.inj heq

/-- and it stays the first one if there are more values behind it. -/
theorem FirstPresent.append {values : List String} {value : String} (h : FirstPresent values value)
    (more : List String) : FirstPresent (values ++ more) value := by
  obtain ⟨hvalue, before, after, rfl, hbefore⟩ := h
  exact ⟨hvalue, before, after ++ more, by simp, hbefore⟩

theorem firstPresent_or_nonePresent (values : List String) :
    (∃ value, FirstPresent values value) ∨ NonePresent values := by
  cases hfirst : first? values with
  | some value => exact .inl ⟨value, first?_eq_some_iff.mp hfirst⟩
  | none => exact .inr (first?_eq_none_iff.mp hfirst)

theorem first?_append (values more : List String) :
    first? (values ++ more) = (first? values <|> first? more) := by
  simp [first?]

@[simp]
theorem first?_singleton (value : String) : first? [value] = present? value := by
  by_cases h : value.isEmpty <;> simp [first?, present?, h]

/-- The choice between two sources is the first value of both. -/
theorem firstPresent_eq_first? (first second : Option String) :
    firstPresent first second = first? [first.getD "", second.getD ""] := by
  have hpresent : ∀ source : Option String, source.bind present? = first? [source.getD ""] := by
    intro source
    cases source with
    | none => rfl
    | some value => simp
  rw [firstPresent, hpresent, hpresent, ← first?_append]
  rfl

/-! ## §3 Resolution by first values -/

namespace Sources

variable {s : Sources}

/-- As long as the other sources have both parts, the file does not matter. -/
theorem resolve_eq_of_near {c : Credentials}
    (h : ∀ part, first? (s.near part) = some (c.part part)) : s.resolve = .ok c := by
  have huser : firstPresent (s.explicit.map (·.user)) (s.env "LSD_USER") = some c.user :=
    (firstPresent_eq_first? _ _).trans (h .user)
  have hpassword :
      firstPresent (s.explicit.map (·.password)) (s.env "LSD_PASSWORD") = some c.password :=
    (firstPresent_eq_first? _ _).trans (h .password)
  simp [resolve, Credentials.resolve, huser, hpassword, Credentials.make]

/-- If one of them has a part in no other source, the file is looked at. -/
theorem resolve_eq_of_needed {part : Part} (h : first? (s.near part) = none) :
    s.resolve =
      match s.file with
      | .absent => Credentials.make (first? (s.near .user)) (first? (s.near .password)) s.named
      | .unusable fault => .error (.unusableFile s.named fault)
      | .holds c =>
        Credentials.make (first? (s.near .user) <|> present? c.user)
          (first? (s.near .password) <|> present? c.password) s.named := by
  have hneeded :
      ((first? (s.near .user)).isSome && (first? (s.near .password)).isSome) = false := by
    cases part <;> simp [h]
  have huser : firstPresent (s.explicit.map (·.user)) (s.env "LSD_USER") = first? (s.near .user) :=
    firstPresent_eq_first? _ _
  have hpassword :
      firstPresent (s.explicit.map (·.password)) (s.env "LSD_PASSWORD") =
        first? (s.near .password) :=
    firstPresent_eq_first? _ _
  simp only [resolve, Credentials.resolve, huser, hpassword, hneeded]
  rfl

theorem first?_values (part : Part) :
    first? (s.values part) = (first? (s.near part) <|> present? (s.filed part)) := by
  rw [values, first?_append, first?_singleton]

/-- What is found without the file is found with it. -/
theorem first?_values_of_near {part : Part} {value : String}
    (h : first? (s.near part) = some value) : first? (s.values part) = some value := by
  simp [first?_values, h]

/-- **Each part by itself.** If the file is not at fault, each part is the first value of its own
sources, and the user is missed first. -/
theorem resolve_eq_of_usable (h : s.FileUsable) :
    s.resolve =
      Credentials.make (first? (s.values .user)) (first? (s.values .password)) s.named := by
  by_cases hneeded : ∃ part, first? (s.near part) = none
  · obtain ⟨part, hnone⟩ := hneeded
    rw [resolve_eq_of_needed hnone]
    cases hfile : s.file with
    | absent => simp [first?_values, filed, hfile, present?]
    | unusable fault => exact absurd hfile (h fault)
    | holds c => simp [first?_values, filed, hfile, Configuration.part]
  · -- the file is left alone, and what it holds comes behind the values that are there
    have hnear : ∀ part, ∃ value, first? (s.near part) = some value := by
      intro part
      apply Option.ne_none_iff_exists'.mp
      exact fun hnone => hneeded ⟨part, hnone⟩
    obtain ⟨user, huser⟩ := hnear .user
    obtain ⟨password, hpassword⟩ := hnear .password
    rw [first?_values_of_near huser, first?_values_of_near hpassword]
    exact resolve_eq_of_near (c := ⟨user, password⟩) (Part.forall_iff.mpr ⟨huser, hpassword⟩)

/-- A fault of the file comes before anything that is missing. -/
theorem resolve_eq_of_unusable {part : Part} {path : String} {fault : ConfigFault}
    (hnone : first? (s.near part) = none) (hpath : s.configFile = some path)
    (hlook : s.look path = .unusable fault) : s.resolve = .error (.unusableFile path fault) := by
  have hfile : s.file = .unusable fault := by simp [file, hpath, hlook]
  have hnamed : s.named = path := by simp [named, hpath]
  rw [resolve_eq_of_needed hnone, hfile, hnamed]

/-- A file that is at fault is at some path. -/
theorem exists_path_of_unusable {fault : ConfigFault} (h : s.file = .unusable fault) :
    ∃ path, s.configFile = some path ∧ s.look path = .unusable fault := by
  cases hpath : s.configFile with
  | none => simp [file, hpath] at h
  | some path => exact ⟨path, rfl, by simpa [file, hpath] using h⟩

end Sources

/-! ## §4 What comes of sources -/

/-- **What comes of sources**, case by case. -/
inductive Resolution (s : Sources) : Except ConfigurationError Credentials → Prop where
  /-- Both parts are found without the file, whatever is true of it. -/
  | near (c : Credentials) (found : ∀ part, FirstPresent (s.near part) (c.part part)) :
      Resolution s (.ok c)
  /-- The file is needed, and it is at fault. -/
  | unusable (part : Part) (path : String) (fault : ConfigFault)
      (needed : NonePresent (s.near part)) (configured : s.configFile = some path)
      (found : s.look path = .unusable fault) :
      Resolution s (.error (.unusableFile path fault))
  /-- The file is needed, and both parts are found with it. -/
  | filled (c : Credentials) (part : Part) (needed : NonePresent (s.near part))
      (usable : s.FileUsable) (found : ∀ part, FirstPresent (s.values part) (c.part part)) :
      Resolution s (.ok c)
  /-- There is no user, whether or not there is a password. -/
  | userless (usable : s.FileUsable) (missing : NonePresent (s.values .user)) :
      Resolution s (.error (.missingUser s.named))
  /-- There is a user, but no password. -/
  | passwordless (user : String) (usable : s.FileUsable)
      (found : FirstPresent (s.values .user) user) (missing : NonePresent (s.values .password)) :
      Resolution s (.error (.missingPassword s.named))

/-- Each of the cases is what resolution gives. -/
theorem Resolution.resolve_eq {s : Sources} {result : Except ConfigurationError Credentials}
    (h : Resolution s result) : s.resolve = result := by
  cases h with
  | near c found =>
    exact Sources.resolve_eq_of_near fun part => first?_eq_some_iff.mpr (found part)
  | unusable part path fault needed configured found =>
    exact Sources.resolve_eq_of_unusable (first?_eq_none_iff.mpr needed) configured found
  | filled c part needed usable found =>
    rw [Sources.resolve_eq_of_usable usable, first?_eq_some_iff.mpr (found .user),
      first?_eq_some_iff.mpr (found .password)]
    rfl
  | userless usable missing =>
    rw [Sources.resolve_eq_of_usable usable, first?_eq_none_iff.mpr missing]
    rfl
  | passwordless user usable found missing =>
    rw [Sources.resolve_eq_of_usable usable, first?_eq_some_iff.mpr found,
      first?_eq_none_iff.mpr missing]
    rfl

/-- If some part is not found without the file, one of the cases that look at it applies. -/
theorem exists_resolution_of_needed {s : Sources} {part : Part}
    (needed : NonePresent (s.near part)) : ∃ result, Resolution s result := by
  by_cases hfault : ∃ fault, s.file = .unusable fault
  · obtain ⟨fault, hfile⟩ := hfault
    obtain ⟨path, configured, found⟩ := Sources.exists_path_of_unusable hfile
    exact ⟨_, .unusable part path fault needed configured found⟩
  · have usable : s.FileUsable := fun fault hfile => hfault ⟨fault, hfile⟩
    rcases firstPresent_or_nonePresent (s.values .user) with ⟨user, huser⟩ | missing
    · rcases firstPresent_or_nonePresent (s.values .password) with ⟨password, hpassword⟩ | missing
      · exact ⟨_, .filled ⟨user, password⟩ part needed usable
          (Part.forall_iff.mpr ⟨huser, hpassword⟩)⟩
      · exact ⟨_, .passwordless user usable huser missing⟩
    · exact ⟨_, .userless usable missing⟩

/-- One of the cases always applies. -/
theorem exists_resolution (s : Sources) : ∃ result, Resolution s result := by
  rcases firstPresent_or_nonePresent (s.near .user) with ⟨user, huser⟩ | needed
  · rcases firstPresent_or_nonePresent (s.near .password) with ⟨password, hpassword⟩ | needed
    · exact ⟨_, .near ⟨user, password⟩ (Part.forall_iff.mpr ⟨huser, hpassword⟩)⟩
    · exact exists_resolution_of_needed needed
  · exact exists_resolution_of_needed needed

theorem resolve_eq_iff {s : Sources} {result : Except ConfigurationError Credentials} :
    s.resolve = result ↔ Resolution s result := by
  constructor
  · intro h
    obtain ⟨result', hresolution⟩ := exists_resolution s
    rwa [← h, hresolution.resolve_eq]
  · exact Resolution.resolve_eq

/-- Each part of resolved credentials is the first value of its own sources. -/
theorem Sources.firstPresent_of_resolve {s : Sources} {c : Credentials} (h : s.resolve = .ok c)
    (part : Part) : FirstPresent (s.values part) (c.part part) := by
  cases resolve_eq_iff.mp h with
  | near _ found => exact (found part).append _
  | filled _ _ _ _ found => exact found part

/-! ## §5 The file -/

/-- A file is at fault exactly if something is there that cannot be read or is no configuration. -/
theorem ConfigFile.ofLocated_eq_unusable_iff {found : Located} {fault : ConfigFault} :
    ofLocated found = .unusable fault ↔
      found.isPresent ∧
        ((∃ reason, found.text = .error reason ∧ fault = .unreadable reason) ∨
          ∃ text, found.text = .ok text ∧ Configuration.parse? text = none ∧
            fault = .malformed) := by
  unfold ofLocated
  by_cases hpresent : found.isPresent
  · simp only [hpresent, if_true, true_and]
    cases htext : found.text with
    | error reason => simp [eq_comm]
    | ok text => cases hparse : Configuration.parse? text <;> simp [hparse, eq_comm]
  · simp [hpresent]

theorem ConfigFile.ofLocated_eq_holds_iff {found : Located} {c : Configuration} :
    ofLocated found = .holds c ↔
      found.isPresent ∧ ∃ text, found.text = .ok text ∧ Configuration.parse? text = some c := by
  unfold ofLocated
  by_cases hpresent : found.isPresent
  · simp only [hpresent, if_true, true_and]
    cases htext : found.text with
    | error reason => simp
    | ok text => cases hparse : Configuration.parse? text <;> simp [hparse]
  · simp [hpresent]

theorem ConfigFile.ofLocated_eq_absent_iff {found : Located} :
    ofLocated found = .absent ↔ found.isPresent = false := by
  unfold ofLocated
  by_cases hpresent : found.isPresent
  · simp only [hpresent, if_true]
    cases htext : found.text with
    | error reason => simp
    | ok text => cases hparse : Configuration.parse? text <;> simp [hparse]
  · simp [hpresent]

/-! ## §6 Resolution -/

/-- **The first value that is present.** Resolution gives what the case of the sources says, and
nothing else. Two parts that are found without the file are the result for any file; a part that is
resolved depends on its own sources only. The file is at fault exactly if something is there that is
no readable configuration. -/
theorem Sources.resolve_first_present (s : Sources) :
    (∀ result, s.resolve = result ↔ Resolution s result) ∧
    (∀ c : Credentials, (∀ part, FirstPresent (s.near part) (c.part part)) →
      ∀ configFile look, Credentials.resolve s.explicit s.env configFile look = .ok c) ∧
    (∀ (t : Sources) (part : Part) (c c' : Credentials), s.values part = t.values part →
      s.resolve = .ok c → t.resolve = .ok c' → c.part part = c'.part part) ∧
    (∀ found fault, ConfigFile.ofLocated found = .unusable fault ↔
      found.isPresent ∧
        ((∃ reason, found.text = .error reason ∧ fault = .unreadable reason) ∨
          ∃ text, found.text = .ok text ∧ Configuration.parse? text = none ∧
            fault = .malformed)) ∧
    (∀ found c, ConfigFile.ofLocated found = .holds c ↔
      found.isPresent ∧ ∃ text, found.text = .ok text ∧ Configuration.parse? text = some c) ∧
    (∀ found, ConfigFile.ofLocated found = .absent ↔ found.isPresent = false) := by
  refine ⟨fun _ => resolve_eq_iff, ?_, ?_, fun _ _ => ConfigFile.ofLocated_eq_unusable_iff,
    fun _ _ => ConfigFile.ofLocated_eq_holds_iff, fun _ => ConfigFile.ofLocated_eq_absent_iff⟩
  · intro c found configFile look
    -- the other sources are the same with any file
    let t : Sources := ⟨s.explicit, s.env, configFile, look⟩
    have htwin : Resolution t (.ok c) := .near c found
    exact htwin.resolve_eq
  · intro t part c c' hvalues hs ht
    have hc := firstPresent_of_resolve hs part
    have hc' := firstPresent_of_resolve ht part
    rw [hvalues] at hc
    exact hc.unique hc'

/-- A user and an empty password are given, the environment has another user and the given password,
and the file holds both. -/
def mixedSources (password : String) : Sources where
  explicit := some ⟨"yev", ""⟩
  env := fun name => if name = "LSD_USER" then some "other" else some password
  configFile := some "lsd.toml"
  look := fun _ => .holds ⟨"filed", "secret"⟩

theorem resolve_first_present_mixedSources :
    (mixedSources "").resolve = .ok ⟨"yev", "secret"⟩ ∧
      Credentials.resolve (mixedSources "given").explicit (mixedSources "given").env
        (some "lsd.toml") (fun _ => .unusable .malformed) = .ok ⟨"yev", "given"⟩ ∧
      ConfigFile.ofLocated .directory =
        .unusable (.unreadable "Is a directory (os error 21)") := by
  have huser : ∀ password, FirstPresent ((mixedSources password).near .user) "yev" :=
    fun password => ⟨by simp, [], ["other"], rfl, by simp⟩
  have hfiled : FirstPresent ((mixedSources "").values .password) "secret" :=
    ⟨by simp, ["", ""], [], rfl, by simp⟩
  have hgiven : FirstPresent ((mixedSources "given").near .password) "given" :=
    ⟨by simp, [""], [], rfl, by simp⟩
  obtain ⟨hresolve, -, -, hfault, -, -⟩ := Sources.resolve_first_present (mixedSources "")
  obtain ⟨-, hnear, -⟩ := Sources.resolve_first_present (mixedSources "given")
  refine ⟨(hresolve _).mpr (.filled _ .password ?_ ?_ ?_), hnear ⟨"yev", "given"⟩ ?_ _ _, ?_⟩
  · intro value hvalue
    simpa [Sources.near, mixedSources, Part.envName, Configuration.part] using hvalue
  · intro fault hfile
    simp [Sources.file, mixedSources] at hfile
  · exact Part.forall_iff.mpr ⟨(huser "").append _, hfiled⟩
  · exact Part.forall_iff.mpr ⟨huser "given", hgiven⟩
  · exact (hfault _ _).mpr ⟨rfl, .inl ⟨_, rfl, rfl⟩⟩

end WebTrip
