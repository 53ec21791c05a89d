import RequirePath.Calendar
import RequirePath.File.Timestamp
import RequirePath.Json.Writer
import RequirePath.Log.Level
import RequirePath.Log.Template

/-! Log records and the JSON line that keeps one. A line has the base fields, then the fields of an object
that stands in the place of a message, which win over base fields, then the extra fields of the record,
which never win. -/

namespace RequirePath.Log

/-- One record: who logs it, the name of its level, the message template and what fills it, and further
fields. -/
structure Record where
  logger : Value
  levelName : Value
  message : Value
  arguments : Option Template.Arguments := none
  extras : Fields := []

namespace Record

/-- Names of fields that a record has of its own; further fields of these names are not written. -/
def reserved : List String :=
  ["msg", "args", "levelname", "levelno", "pathname", "filename", "module", "exc_info", "exc_text",
    "stack_info", "lineno", "funcName", "created", "msecs", "relativeCreated", "thread", "threadName",
    "processName", "process", "taskName", "name", "message"]

/-- Names that further fields of a logged message may not have. -/
def protectedNames : List String :=
  ["message", "asctime"] ++ reserved.filter (· != "taskName")

/-- The name of a record's own operation, which a further field of that name would hide. -/
def operationName : String := "getMessage"

/-- What fills the template: a single object that is not empty gives names. -/
def argumentsOf : List Value → Option Template.Arguments
  | [] => none
  | [.object []] => some (.inOrder [.object []])
  | [.object fields] => some (.single (.object fields))
  | values => some (.inOrder values)

/-- A record of a message. -/
def make (logger : String) (level : Int) (message : Value) (values : List Value) : Record :=
  { logger := .text logger, levelName := .text (Level.name level), message,
    arguments := argumentsOf values }

/-- A value that counts as none. -/
def isVoid : Value → Bool
  | .null => true
  | .bool b => !b
  | .int n => n == 0
  | .float x => x == .finite 0 || x == .negativeZero
  | .text s => s.isEmpty
  | .array items => items.isEmpty
  | .object fields => fields.isEmpty

/-- Gives the record one more field; some names replace parts of the record. -/
def attach (r : Record) (name : String) (value : Value) : Record :=
  let r := { r with extras := Fields.set name value r.extras }
  match name with
  | "msg" => { r with message := value }
  | "name" => { r with logger := value }
  | "levelname" => { r with levelName := value }
  | "args" => { r with arguments := if isVoid value then none else some (.single value) }
  | _ => r

/-- The message with its template filled. -/
def text (r : Record) : Except Template.Fault String :=
  if (Fields.get? operationName r.extras).isSome then .error .wrongArguments
  else
    match r.arguments with
    | none => .ok r.message.display
    | some arguments => Template.fill r.message.display arguments

/-- The name and version of the layout of lines. -/
def layout : Value :=
  .object [("name", .text "owl_resolver.log"), ("ver", .text "1.0.0")]

/-- The fields of the record's line. -/
def fields (r : Record) (time : String) : Except Template.Fault Fields := do
  let message ← r.text
  let base : Fields :=
    [("ts", .text time), ("lvl", r.levelName), ("schema", layout), ("logger", r.logger),
      ("event", (Fields.get? "event" r.extras).getD .null), ("message", .text message)]
  let merged := match r.message with
    | .object own => own.foldl (fun fs p => Fields.set p.1 p.2 fs) base
    | _ => base
  let extras := r.extras.filter fun p => !reserved.contains p.1
  pure (extras.foldl (fun fs p => Fields.setNew p.1 p.2 fs) merged)

/-- The record's line, without its end. -/
def line (r : Record) (time : String) : Except Template.Fault String := do
  let fs ← r.fields time
  pure (Json.write (.object fs))

end Record

/-- The time of a record as its line shows it, to the millisecond. -/
def timeText (t : Timestamp) : String :=
  let d := Calendar.ofSecond t.seconds
  Calendar.padded 4 d.year.toNat ++ "-" ++ d.monthDay ++ "T" ++ d.clock ++ "." ++
    Calendar.padded 3 (t.nanoseconds / 1000000) ++ "+00:00"

end RequirePath.Log
