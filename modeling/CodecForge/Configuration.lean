/-
  CodecForge — settings from files.

  * `loadSettings` puts together the settings of a language: its defaults, a
    file if one is named, and custom entries;
  * `ConfigError` says why a file is not read or written; other values that
    cannot be used are a `ConfigFailure` of another kind;
  * `saveSettings` writes settings so that they can be loaded again.
-/
import CodecForge.Obstacle
import CodecForge.Settings

namespace CodecForge

/-- Why a file of settings is not read or written. -/
inductive ConfigError where
  | notFound (path : String)
  | notJsonFile (path : String)
  | invalidJson (path : String) (e : Json.ReadError)
  | notRead (path : String) (e : SystemError)
  | notObject (path : String)
  | notSaved (path : String) (e : SystemError)
deriving DecidableEq, Repr

def ConfigError.message : ConfigError → String
  | .notFound path => s!"Configuration file not found: {path}"
  | .notJsonFile path => s!"Configuration file must be JSON: {path}"
  | .invalidJson path e => s!"Invalid JSON in configuration file {path}: {e.message}"
  | .notRead path e => s!"Failed to load configuration file {path}: {e.message}"
  | .notObject path => s!"Configuration file must contain a JSON object: {path}"
  | .notSaved path e => s!"Failed to save configuration to {path}: {e.message}"

/-- Why settings are not loaded: an error of the file, a value that cannot be
    used, or an obstacle. -/
inductive ConfigFailure where
  | config (e : ConfigError)
  | fault (e : SettingsFault)
  | obstacle (o : Obstacle)
deriving DecidableEq, Repr

def ConfigFailure.message : ConfigFailure → String
  | .config e => e.message
  | .fault e => e.message
  | .obstacle o => o.message

/-- The entries in a file. -/
def configFile (files : Files) (name : String) :
    Except ConfigFailure (List (String × Json)) :=
  let path := Path.ofString name
  match files.exists_ path with
  | .error e => .error (.obstacle (.system e))
  | .ok false => .error (.config (.notFound path.text))
  | .ok true =>
    if !path.isJson then .error (.config (.notJsonFile path.text)) else
    match files.read path with
    | .error e => .error (.config (.notRead path.text e))
    | .ok text =>
      match Json.read text with
      | .error e =>
        match Obstacle.ofRead? e with
        | some o => .error (.obstacle o)
        | none => .error (.config (.invalidJson path.text e))
      | .ok (.obj es) => .ok es
      | .ok _ => .error (.config (.notObject path.text))

/-- The settings of a language, with a file and custom entries. -/
def loadSettings (files : Files) (language : String) (custom : List (String × Json))
    (file : Option String) : Except ConfigFailure Settings := do
  let fileEntries ← match file with
    | none => pure []
    | some name => if name.isEmpty then pure [] else configFile files name
  (Settings.combine language fileEntries custom).mapError .fault

/-- The files after settings are saved under a name. -/
def saveSettings (files : Files) (s : Settings) (name : String) : Except ConfigError Files :=
  let path := Path.ofString name
  (files.write path s.saved).mapError (.notSaved path.text)

end CodecForge
