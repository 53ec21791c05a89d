/-! Causes for which the system refuses an operation on files, with their numbers, symbols and wordings. -/

namespace RequirePath

/-- Why the system refuses an operation. -/
inductive Errno
  | notPermitted
  | noEntry
  | inputOutput
  | noDevice
  | execFormat
  | outOfMemory
  | accessDenied
  | busy
  | entryExists
  | notDirectory
  | isDirectory
  | invalidArgument
  | tooManyOpen
  | readOnly
  | nameTooLong
  | notEmpty
  | tooManyLinks
  | overflow
  deriving DecidableEq, Repr

namespace Errno

/-- The number of a cause. -/
def number : Errno → Nat
  | .notPermitted => 1
  | .noEntry => 2
  | .inputOutput => 5
  | .noDevice => 6
  | .execFormat => 8
  | .outOfMemory => 12
  | .accessDenied => 13
  | .busy => 16
  | .entryExists => 17
  | .notDirectory => 20
  | .isDirectory => 21
  | .invalidArgument => 22
  | .tooManyOpen => 24
  | .readOnly => 30
  | .nameTooLong => 36
  | .notEmpty => 39
  | .tooManyLinks => 40
  | .overflow => 75

/-- The symbol of a cause. -/
def symbol : Errno → String
  | .notPermitted => "EPERM"
  | .noEntry => "ENOENT"
  | .inputOutput => "EIO"
  | .noDevice => "ENXIO"
  | .execFormat => "ENOEXEC"
  | .outOfMemory => "ENOMEM"
  | .accessDenied => "EACCES"
  | .busy => "EBUSY"
  | .entryExists => "EEXIST"
  | .notDirectory => "ENOTDIR"
  | .isDirectory => "EISDIR"
  | .invalidArgument => "EINVAL"
  | .tooManyOpen => "EMFILE"
  | .readOnly => "EROFS"
  | .nameTooLong => "ENAMETOOLONG"
  | .notEmpty => "ENOTEMPTY"
  | .tooManyLinks => "ELOOP"
  | .overflow => "EOVERFLOW"

/-- The wording of a cause. -/
def wording : Errno → String
  | .notPermitted => "Operation not permitted"
  | .noEntry => "No such file or directory"
  | .inputOutput => "Input/output error"
  | .noDevice => "No such device or address"
  | .execFormat => "Exec format error"
  | .outOfMemory => "Cannot allocate memory"
  | .accessDenied => "Permission denied"
  | .busy => "Device or resource busy"
  | .entryExists => "File exists"
  | .notDirectory => "Not a directory"
  | .isDirectory => "Is a directory"
  | .invalidArgument => "Invalid argument"
  | .tooManyOpen => "Too many open files"
  | .readOnly => "Read-only file system"
  | .nameTooLong => "File name too long"
  | .notEmpty => "Directory not empty"
  | .tooManyLinks => "Too many levels of symbolic links"
  | .overflow => "Value too large for defined data type"

/-- All causes. -/
def all : List Errno :=
  [.notPermitted, .noEntry, .inputOutput, .noDevice, .execFormat, .outOfMemory, .accessDenied, .busy,
    .entryExists, .notDirectory, .isDirectory, .invalidArgument, .tooManyOpen, .readOnly, .nameTooLong,
    .notEmpty, .tooManyLinks, .overflow]

/-- The cause with a symbol. -/
def ofSymbol? (s : String) : Option Errno :=
  all.find? fun e => e.symbol == s

/-- The wording of a refusal, with what it was about as a message shows it. -/
def message (e : Errno) (subject : String) : String :=
  s!"[Errno {e.number}] {e.wording}: {subject}"

end Errno

end RequirePath
