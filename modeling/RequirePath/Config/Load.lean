import RequirePath.Config.Basic
import RequirePath.File.Action

/-! Loading of a configuration from layers: built-in defaults, the settings file of the project, environment
variables, and values given by the caller, each of which hides the ones before it. Only the values that are
not hidden must suit their fields. A settings file that cannot be read is left out with a warning. -/

namespace RequirePath.Config

/-- The part of the program that logs. -/
def part : String := "config"

/-- The environment variables that give settings, with the fields that they give. -/
def environmentFields : List (String × String) :=
  [("OWL_CACHE_DIR", "cache_dir"), ("OWL_ON_CORRUPT_CACHE", "on_corrupt_cache"),
    ("OWL_LOG_LEVEL", "log_level"), ("OWL_LOG_PATH", "log_path")]

/-- The settings of the environment; an empty variable gives none. -/
def ofEnvironment (environment : List (String × String)) : Settings :=
  environmentFields.filterMap fun (name, field) =>
    match environment.lookup name with
    | some value => if value.isEmpty then none else some (field, .text value)
    | none => none

/-- The settings of the `resolver` section of a settings file, the last of one name first; `none` if it is
no section of settings. -/
def ofSection (d : Yaml.Document) : Except Failure (Option Settings) :=
  match d.datum d.root with
  | .table fields =>
    match d.field? "resolver" fields with
    | none => .ok (some [])
    | some id =>
      match d.datum id with
      | .table inner =>
        let named := inner.filterMap fun (k, v) =>
          match d.datum k with
          | .text name => some (name, Setting.ofDatum d (d.datum v))
          | _ => none
        if named.length = inner.length then .ok (some named.reverse) else .error .wrongType
      | _ => .ok none
  | _ => .ok none

/-- The failure that a fault of a settings file is, unless the file is merely malformed. -/
def failureOf : Yaml.Fault → Option Failure
  | .malformed | .unended => none
  | .undecodable fault => some (.undecodable fault)
  | .tooDeep => some .tooDeep
  | .badValue message => some (.badValue message)
  | .overflow message => some (.overflow message)
  | .missingKey key => some (.missingKey key)
  | .emptyText => some .emptyText
  | .tooManyDigits count => some (.tooManyDigits count)
  | .noOperation => some .noOperation
  | .wrongType => some .wrongType

/-- Leaves a settings file out, with a warning. -/
def ignore (message : String) : Action Settings := do
  Action.log part .warning message
  pure []

/-- Reads the settings of a settings file, if it is there. -/
def readSettings (path : LexicalPath) : Action Settings := do
  let shown := path.display
  if !(← Action.isThere path) then pure []
  else
    match ← Action.look fun h => h.files.read h.workingDirectory path.spelling with
    | .error e => ignore (s!"Failed to read settings from {shown}: " ++ e.message path.spelling.quoted)
    | .ok bytes =>
      match Yaml.Document.read (.ofBytes bytes) with
      | .error fault =>
        match failureOf fault with
        | some e => Action.fail e
        | none => ignore s!"Failed to read settings from {shown}: malformed"
      | .ok document =>
        if (document.datum document.root).isVoid then pure []
        else
          match ofSection document with
          | .error e => Action.fail e
          | .ok (some settings) => pure settings
          | .ok none => ignore s!"Ignoring settings in {shown}: 'resolver' must be a mapping"

/-- The place of the settings file in a project. -/
def settingsFile : LexicalPath := LexicalPath.ofText ".owl/settings.yaml"

/-- The name of the field that no layer but the caller's root gives. -/
def rootField : String := "project_root"

/-- The settings that count, by layers: what the caller gives, unless it is nothing, then the environment,
then the settings file. The root is the caller's alone. -/
def layers (root : Option String) (overrides environment file : Settings) : Settings :=
  let given := overrides.filter fun p =>
    match p.2 with
    | .null => false
    | _ => true
  let lower := (given ++ environment ++ file).filter fun p => p.1 != rootField
  match root with
  | some text => (rootField, .text text) :: lower
  | none => lower

/-- Loads the configuration of a project; without a root it is the working directory. -/
def load (root file : Option String) (overrides : Settings) : Action Config := do
  let path ← Action.look fun h =>
    match file, root with
    | some f, _ => LexicalPath.ofText f
    | none, some r => (LexicalPath.ofText r).join settingsFile
    | none, none => h.workingPath.join settingsFile
  let settings ← readSettings path
  Action.lookOrFail fun h =>
    (ofSettings h.workingPath (layers root overrides (ofEnvironment h.environment) settings)).mapError
      .invalidSettings

end RequirePath.Config
