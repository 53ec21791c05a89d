import RequirePath.File.Errno
import RequirePath.Path.Basic

/-! Everything that can stop an operation, by cause, and the wording of each cause. A request that matches
no file is no failure. -/

namespace RequirePath

/-- What a checked document or setting violates. -/
inductive Violation
  | missing
  | notText
  | notUnicode
  | notList
  | notChoice
  | notPath
  | notObject
  | badSuffix (suffix : String)
  deriving DecidableEq, Repr

/-- One violation and its place: a field and an index in it, or the document as a whole. -/
structure Issue where
  field : Option String
  index : Option Nat := none
  violation : Violation
  deriving DecidableEq, Repr

/-- The wording of a violation that has one of its own. -/
def Violation.message? : Violation → Option String
  | .badSuffix suffix => some ("Value error, suffix must start with '.': " ++ Text.quoted suffix)
  | _ => none

/-- A run of the load-path command that went wrong. -/
structure ToolFailure where
  message : String
  command : List String
  exitCode : Option Int
  stderr : String
  deriving DecidableEq, Repr

/-- Why an operation stopped. -/
inductive Failure
  /-- Settings that violate what their fields demand. -/
  | invalidSettings (issues : List Issue)
  /-- The file of the given name is missing at a path. -/
  | manifestMissing (name path : String)
  /-- The file of the given name may not be read. -/
  | manifestUnreadable (name path : String)
  /-- The load-path command failed. -/
  | tool (failure : ToolFailure)
  /-- The cache file at a path holds no record. -/
  | cacheCorrupt (path reason : String)
  /-- A document or configuration that violates what its fields demand. -/
  | invalid (issues : List Issue)
  /-- The system refused, about the given subject. -/
  | system (errno : Errno) (subject : String)
  /-- A tree to remove that is a symbolic link. -/
  | linkAsTree
  /-- A path with a byte that no path may hold. -/
  | nulByte
  /-- A path that is no text where text is needed. -/
  | notText
  /-- Bytes that are no text. -/
  | undecodable (fault : Utf8.Fault)
  /-- A document nested too deeply. -/
  | tooDeep
  /-- An integer with too many digits. -/
  | tooManyDigits (count : Nat)
  /-- A module path with neither suffix. -/
  | unsupportedSuffix (path : String)
  /-- A resolver over a cache that is not loaded. -/
  | unloaded
  /-- A request before the start. -/
  | notStarted
  /-- A tap that answered twice. -/
  | answeredTwice (tap : String)
  /-- A name that an object or a registry lacks. -/
  | missingKey (key : String)
  /-- A value of the wrong type. -/
  | wrongType
  /-- A value without the operation that is asked of it. -/
  | noOperation
  /-- A word that names no level but a layout. -/
  | unknownLevel (wording : String)
  /-- A field of a record that a log call may not set. -/
  | protectedField (name : String)
  /-- A value that does not read as what it is declared to be, or lies out of range. -/
  | badValue (message : String)
  /-- A text without characters in the place of a number. -/
  | emptyText
  /-- A number out of the range of what it stands for. -/
  | overflow (message : String)
  /-- Markup with a closing tag that closes nothing. -/
  | markup (message : String)
  deriving DecidableEq, Repr

namespace Failure

/-- The name of the step of the plugin that is registered with the host. -/
def stepName : String := "OpalResolverPlugin"

/-- The wording of a number of violations. -/
def violationCount (n : Nat) : String :=
  if n = 1 then s!"{n} validation error" else s!"{n} validation errors"

/-- The wording of a failure. -/
def message : Failure → String
  | .invalidSettings issues =>
    s!"Invalid resolver settings: {violationCount issues.length} for ResolverConfig"
  | .manifestMissing name path => s!"{name} not found at {path}"
  | .manifestUnreadable name path => s!"{name} is not readable: {path}"
  | .tool failure => failure.message
  | .cacheCorrupt path reason => s!"Invalid cache file {path}: {reason}"
  | .invalid issues => violationCount issues.length
  | .system errno subject => errno.message subject
  | .linkAsTree => "Cannot call rmtree on a symbolic link"
  | .nulByte => "embedded null byte"
  | .notText => "surrogates not allowed"
  | .undecodable fault => fault.message
  | .tooDeep => "maximum recursion depth exceeded"
  | .tooManyDigits count =>
    s!"Exceeds the limit (4300 digits) for integer string conversion: value has {count} digits; " ++
      "use sys.set_int_max_str_digits() to increase the limit"
  | .unsupportedSuffix path => s!"Unsupported module suffix: {path}"
  | .unloaded => "Resolver requires a loaded cache state"
  | .notStarted => s!"{stepName} used before start() completed"
  | .answeredTwice tap => s!"{tap} invoked its callback more than once"
  | .missingKey key => Text.quoted key
  | .wrongType => "wrong type"
  | .noOperation => "no such operation"
  | .unknownLevel wording => "Unknown level: " ++ Text.quoted wording
  | .protectedField name => Text.quoted ("Attempt to overwrite " ++ Text.quoted name ++ " in LogRecord")
  | .emptyText => "string index out of range"
  | .badValue message | .overflow message | .markup message => message

end Failure

end RequirePath
