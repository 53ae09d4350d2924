import UsbSession.Settings.Document

/-!
# Stored settings

Where settings are found and how they are loaded and saved. Without a path the file of the user is
taken, or else that of the system (`Environment.searchPaths`). A path that starts with `~` is
expanded to one below the home directory (`Environment.expand`).

* `Settings.check_of_load`: what is loaded has passed the check.
-/

namespace UsbSession

open Log (Logged)

/-- What the surroundings of the program tell it. -/
structure Environment where
  /-- The home directory. -/
  home : String
  /-- Where configuration files are kept, if that is said. -/
  configHome : Option String := none
  /-- The log filter, if one is said. -/
  logFilter : Option String := none
  deriving DecidableEq, Repr, Inhabited

namespace Environment

variable (env : Environment)

/-- The path with `~` in front replaced by the home directory. -/
def expand (path : String) : String :=
  match path.toList with
  | ['~'] => env.home
  | '~' :: '/' :: rest => env.home ++ String.ofList ('/' :: rest)
  | _ => path

/-- Whether a path starts at the root. -/
def isAbsolute (path : String) : Bool := path.toList.head? == some '/'

/-- The directory of configuration files. -/
def configDirectory : String :=
  match env.configHome.filter isAbsolute with
  | some directory => directory
  | none => joinPath env.home ".config"

/-- The configuration file of the user. -/
def configPath : String := joinPath (joinPath env.configDirectory "zerousb") "config.toml"

/-- The configuration file of the system. -/
def systemConfigPath : String := "/etc/zerousb/config.toml"

/-- Where configuration files are looked for. -/
def searchPaths : List String := [env.configPath, systemConfigPath]

end Environment

namespace Settings

variable (env : Environment) (files : Files)

/-- The path of the file to load: the given one, or the first one that is there. -/
def sourcePath : Option String → Except Fault String
  | some path => .ok (env.expand path)
  | none =>
    match env.searchPaths.find? files.isThere with
    | some path => .ok path
    | none => .error (.config .noFile)

/-- The settings in a file. -/
def ofFile (path : String) : Except Fault Settings :=
  match files.read path with
  | .error e => .error (.files e)
  | .ok text => (ofText text).mapError fun misfit => .config (.unreadable path misfit)

/-- Loads settings from a path, or from where they are kept. -/
def load (path : Option String) : Logged (Except Fault Settings) :=
  match sourcePath env files path with
  | .error e => pure (.error e)
  | .ok found =>
    match ofFile files found with
    | .error e => pure (.error e)
    | .ok s => do
      match ← s.check with
      | .error e => return .error (.config e)
      | .ok () =>
        Logged.log (.configLoaded found)
        return .ok s

/-- Loads settings from where they are kept, or takes the defaults. -/
def loadOrDefault : Logged Settings := do
  match ← load env files none with
  | .ok s => return s
  | .error e =>
    Logged.log (.configDefaulted e.message)
    return {}

/-- Saves settings, and makes the directories that are missing. What was made before a failure
    stays. -/
def save (s : Settings) (path : String) : Logged (Except Fault Unit × Files) :=
  let expanded := env.expand path
  match files.makeParents expanded with
  | (.error e, made) => pure (.error (.files e), made)
  | (.ok (), made) =>
    match made.write expanded s.sheet.render with
    | .error e => pure (.error (.files e), made)
    | .ok written => do
      Logged.log (.configSaved expanded)
      return (.ok (), written)

theorem check_of_load {env : Environment} {files : Files} {path : Option String} {s : Settings}
    (h : (load env files path).value = .ok s) : s.check.value = .ok () := by
  unfold load at h
  split at h
  · simp at h
  · split at h
    · simp at h
    · next s' _ =>
      simp only [Logged.value_bind] at h
      split at h
      · simp at h
      · next hc =>
        simp only [Logged.value_bind, Logged.value_pure, Except.ok.injEq] at h
        rw [← h, hc]

end Settings

end UsbSession
