import RequirePath.Config.Setting
import RequirePath.Path.Lexical

/-! The configuration: where the project is, where its manifest, its lock file and the cache are, which
suffixes modules have, and what to do with a cache that cannot be read. A configuration is made from
settings, each of which must suit its field. -/

namespace RequirePath

/-- What to do with a cache file that holds no record. -/
inductive CorruptPolicy
  | rebuild
  | fail
  deriving DecidableEq, Repr

/-- The word for a policy. -/
def CorruptPolicy.word : CorruptPolicy → String
  | .rebuild => "rebuild"
  | .fail => "fail"

/-- A valid configuration. Names of files are taken from the project root, and those in the cache directory
from there. -/
structure Config where
  projectRoot : LexicalPath
  gemfile : Pathname
  gemfileLock : Pathname
  cacheDir : Pathname
  cacheFile : Pathname
  compilerCacheDir : Pathname
  railsMarker : Pathname
  primarySuffix : Pathname
  compiledSuffix : Pathname
  allowedZones : List Pathname
  onCorruptCache : CorruptPolicy
  logLevel : String
  logPath : Option String

namespace Config

/-- The path of the working tree. -/
def workingTree (c : Config) : Pathname := c.projectRoot.spelling

/-- The suffixes of modules. -/
def suffixes (c : Config) : List Pathname := [c.primarySuffix, c.compiledSuffix]

/-- A path below the project root. -/
def inProject (c : Config) (path : Pathname) : LexicalPath :=
  c.projectRoot.join (LexicalPath.parse path)

/-- The manifest. -/
def gemfilePath (c : Config) : LexicalPath := c.inProject c.gemfile

/-- The lock file. -/
def gemfileLockPath (c : Config) : LexicalPath := c.inProject c.gemfileLock

/-- The cache directory. -/
def cacheDirPath (c : Config) : LexicalPath := c.inProject c.cacheDir

/-- The cache file. -/
def cacheFilePath (c : Config) : LexicalPath := c.cacheDirPath.join (LexicalPath.parse c.cacheFile)

/-- The directory that the compiler keeps its own cache in. -/
def compilerCachePath (c : Config) : LexicalPath :=
  c.cacheDirPath.join (LexicalPath.parse c.compilerCacheDir)

/-- The file whose presence tells a Rails project. -/
def railsMarkerPath (c : Config) : LexicalPath := c.inProject c.railsMarker

/-- The directories in the working tree that are indexed all the same, as absolute paths. -/
def allowedZonePaths (c : Config) : List Pathname :=
  c.allowedZones.map fun zone => (c.inProject zone).collapse.spelling

/-! ### Reading settings -/

/-- Reads a setting with a rule, or takes the default if it is missing. A violation stands beside a value
that is not used. -/
def readField {α : Type} (settings : Settings) (field : String) (default : α)
    (rule : Setting → Except (List Issue) α) : α × List Issue :=
  match settings.lookup field with
  | none => (default, [])
  | some s =>
    match rule s with
    | .ok a => (a, [])
    | .error issues => (default, issues)

/-- One violation of a field as a whole. -/
def issue (field : String) (violation : Violation) : List Issue :=
  [⟨some field, none, violation⟩]

/-- A text. -/
def textRule (field : String) (s : Setting) : Except (List Issue) String :=
  s.asText.mapError (issue field)

/-- A path. -/
def pathRule (field : String) (s : Setting) : Except (List Issue) Pathname :=
  (textRule field s).map Pathname.ofText

/-- A suffix: a text that starts with a dot. -/
def suffixRule (field : String) (s : Setting) : Except (List Issue) Pathname :=
  match textRule field s with
  | .error e => .error e
  | .ok text =>
    if text.toList.head? == some '.' then .ok (Pathname.ofText text)
    else .error (issue field (.badSuffix text))

/-- A list of paths; every item that is no text is a violation of its own. -/
def pathsRule (field : String) (s : Setting) : Except (List Issue) (List Pathname) :=
  match s with
  | .list items =>
    let read := items.map Setting.asText
    let issues := read.zipIdx.filterMap fun (r, i) =>
      match r with
      | .ok _ => none
      | .error v => some ⟨some field, some i, v⟩
    if issues.isEmpty then
      .ok (read.filterMap fun r => r.toOption.map Pathname.ofText)
    else .error issues
  | _ => .error (issue field .notList)

/-- One of the two words for a policy. -/
def policyRule (field : String) (s : Setting) : Except (List Issue) CorruptPolicy :=
  match s with
  | .text "rebuild" => .ok .rebuild
  | .text "fail" => .ok .fail
  | _ => .error (issue field .notChoice)

/-- A text or nothing. -/
def optionalRule (field : String) (s : Setting) : Except (List Issue) (Option String) :=
  match s with
  | .null => .ok none
  | _ => (textRule field s).map some

/-- A project root: a path, made absolute. -/
def rootRule (workingDirectory : LexicalPath) (field : String) (s : Setting) :
    Except (List Issue) LexicalPath :=
  match s with
  | .text text => .ok (LexicalPath.absolute workingDirectory (LexicalPath.ofText text))
  | _ => .error (issue field .notPath)

/-- Makes a configuration from settings; names that no field has are ignored. All violations are reported,
in the order of the fields. -/
def ofSettings (workingDirectory : LexicalPath) (settings : Settings) : Except (List Issue) Config :=
  let path (field : String) (default : String) : Pathname × List Issue :=
    readField settings field (Pathname.ofText default) (pathRule field)
  let suffix (field : String) (default : String) : Pathname × List Issue :=
    readField settings field (Pathname.ofText default) (suffixRule field)
  let projectRoot := readField settings "project_root" workingDirectory (rootRule workingDirectory "project_root")
  let gemfile := path "gemfile" "Gemfile"
  let gemfileLock := path "gemfile_lock" "Gemfile.lock"
  let cacheDir := path "cache_dir" ".owl_cache"
  let cacheFile := path "cache_file" "load_paths.json"
  let compilerCacheDir := path "compiler_cache_dir" "cc"
  let railsMarker := path "rails_marker" "bin/rails"
  let primarySuffix := suffix "primary_suffix" ".rb"
  let compiledSuffix := suffix "compiled_suffix" ".js"
  let allowedZones := readField settings "allowed_zones" [] (pathsRule "allowed_zones")
  let onCorruptCache := readField settings "on_corrupt_cache" .rebuild (policyRule "on_corrupt_cache")
  let logLevel := readField settings "log_level" "WARNING" (textRule "log_level")
  let logPath := readField settings "log_path" none (optionalRule "log_path")
  let issues := projectRoot.2 ++ gemfile.2 ++ gemfileLock.2 ++ cacheDir.2 ++ cacheFile.2 ++
    compilerCacheDir.2 ++ railsMarker.2 ++ primarySuffix.2 ++ compiledSuffix.2 ++ allowedZones.2 ++
    onCorruptCache.2 ++ logLevel.2 ++ logPath.2
  if issues.isEmpty then
    .ok {
      projectRoot := projectRoot.1, gemfile := gemfile.1, gemfileLock := gemfileLock.1
      cacheDir := cacheDir.1, cacheFile := cacheFile.1, compilerCacheDir := compilerCacheDir.1
      railsMarker := railsMarker.1, primarySuffix := primarySuffix.1, compiledSuffix := compiledSuffix.1
      allowedZones := allowedZones.1, onCorruptCache := onCorruptCache.1, logLevel := logLevel.1
      logPath := logPath.1 }
  else .error issues

end Config

end RequirePath
