import RequirePath.Failure
import RequirePath.File.Change
import RequirePath.Log.Record

/-! The machine that the program runs on, as far as the program sees it: files, the working directory, the
time, environment variables, the load-path command, and where log records go. An action reads and changes
it, and may fail; a failure keeps the changes made before it. -/

namespace RequirePath

/-- What the load-path command does when it is run. -/
inductive ToolRun
  | cannotStart (errno : Errno)
  | finished (stdout stderr : List UInt8) (exitCode : Int)
  deriving DecidableEq, Repr

/-- Where log records go. -/
inductive Sink
  | console
  | lines (file : LexicalPath)
  deriving DecidableEq, Repr

/-- What happened that an observer can see besides files. -/
inductive Event
  | logged (logger : String) (level : Int) (message : String)
  | warned (message : String)
  | ranTool (command : List String) (directory : Pathname)
  deriving DecidableEq, Repr

/-- The machine that the program runs on. -/
structure Host where
  files : FileSystem
  workingDirectory : Location := []
  now : Timestamp
  environment : List (String × String) := []
  tool : ToolRun := .cannotStart .noEntry
  threshold : Log.Level := 1
  sinks : List Sink := []
  events : List Event := []

namespace Host

/-- The working directory by its spelling. -/
def workingPath (h : Host) : LexicalPath :=
  ⟨.root, h.workingDirectory.reverse⟩

/-- The program's log records have this name in front. -/
def logName : String := "owl_resolver"

/-- The threshold of records: without a level of its own the program takes that of warnings. -/
def effectiveThreshold (h : Host) : Log.Level :=
  if h.threshold = Log.Level.unset then Log.Level.warning else h.threshold

/-- Records of a level are kept. -/
def keeps (h : Host) (level : Int) : Bool :=
  0 < level && h.effectiveThreshold ≤ level

/-- Notes an event. -/
def note (h : Host) (e : Event) : Host :=
  { h with events := h.events ++ [e] }

/-- Adds bytes to a file; where that is refused nothing happens. -/
def appendQuietly (h : Host) (file : LexicalPath) (bytes : List UInt8) : Host :=
  if Pathname.holdsNul file.spelling then h
  else
    match h.files.append h.workingDirectory file.spelling bytes h.now with
    | .ok files => { h with files }
    | .error _ => h

/-- Hands a record to a sink. A record whose template cannot be filled is dropped, and so is one that cannot
be written. -/
def deliver (record : Log.Record) (exact : Bool) (h : Host) : Sink → Host
  | .console => h
  | .lines file =>
    match record.line (Log.timeText h.now) with
    | .error _ => h
    | .ok line =>
      h.appendQuietly file (if exact then Utf8.encode (line.toList ++ ['\n']) else [])

/-- Hands a record to every sink. -/
def deliverAll (record : Log.Record) (exact : Bool) (h : Host) : Host :=
  h.sinks.foldl (deliver record exact) h

/-- Logs a message of a part of the program. `exact` is off for a message that shows a path which is no
text. -/
def log (h : Host) (part : String) (level : Log.Level) (message : String) (exact : Bool) : Host :=
  if h.keeps level then
    (h.note (.logged part level message)).deliverAll
      (Log.Record.make (logName ++ "." ++ part) level (.text message) []) exact
  else h

end Host

/-- An action of the program: it reads and changes the machine, and gives a result or fails. -/
def Action (α : Type) : Type :=
  Host → Except Failure α × Host

namespace Action

/-- Gives a result and changes nothing. -/
def result {α : Type} (a : α) : Action α :=
  fun h => (.ok a, h)

/-- Fails and changes nothing. -/
def fail {α : Type} (e : Failure) : Action α :=
  fun h => (.error e, h)

/-- One action after another, which sees the first one's result; a failure ends both. -/
def andThen {α β : Type} (act : Action α) (next : α → Action β) : Action β :=
  fun h =>
    match act h with
    | (.ok a, h') => next a h'
    | (.error e, h') => (.error e, h')

instance : Monad Action where
  pure := result
  bind := andThen

/-- Runs an action and gives its failure as a result. -/
def attempt {α : Type} (act : Action α) : Action (Except Failure α) :=
  fun h => (.ok (act h).1, (act h).2)

/-- Gives what is computed from the machine. -/
def look {α : Type} (f : Host → α) : Action α :=
  fun h => (.ok (f h), h)

/-- Gives what is computed from the machine, or fails. -/
def lookOrFail {α : Type} (f : Host → Except Failure α) : Action α :=
  fun h => (f h, h)

/-- Changes the machine. -/
def change (f : Host → Host) : Action Unit :=
  fun h => (.ok (), f h)

/-- Changes the files, or fails with the system's refusal about a path. -/
def changeFiles (path : Pathname) (f : Host → Except Errno FileSystem) : Action Unit :=
  fun h =>
    if Pathname.holdsNul path then (.error .nulByte, h)
    else
      match f h with
      | .ok files => (.ok (), { h with files })
      | .error e => (.error (.system e (Pathname.quoted path)), h)

/-- Logs a message of a part of the program. -/
def log (part : String) (level : Log.Level) (message : String) : Action Unit :=
  change fun h => h.log part level message true

/-- Warns the user. -/
def warn (message : String) : Action Unit :=
  change fun h => h.note (.warned message)

end Action

end RequirePath
