/-! Levels of log records: numbers, of which six have names, and the words that choose a level. -/

namespace RequirePath.Log

/-- How grave a record is. -/
abbrev Level := Nat

namespace Level

/-- Nothing set. -/
def unset : Level := 0

/-- Details for finding faults. -/
def debug : Level := 10

/-- What happened. -/
def info : Level := 20

/-- What may need attention. -/
def warning : Level := 30

/-- What failed. -/
def error : Level := 40

/-- What cannot go on. -/
def critical : Level := 50

/-- The name of a level. -/
def name (level : Int) : String :=
  if level = 0 then "NOTSET"
  else if level = 10 then "DEBUG"
  else if level = 20 then "INFO"
  else if level = 30 then "WARNING"
  else if level = 40 then "ERROR"
  else if level = 50 then "CRITICAL"
  else s!"Level {level}"

/-- What a word chooses: a level, or something that is none. -/
inductive Choice
  | level (n : Level)
  | wording (text : String)
  | table
  deriving DecidableEq, Repr

/-- A letter in upper case. Of the letters outside ASCII those count whose upper case lies in ASCII; some of
them stand for several letters. -/
def upperChar (c : Char) : List Char :=
  match c with
  | '\u0131' => ['I']
  | '\u017f' => ['S']
  | '\u00df' => ['S', 'S']
  | '\ufb00' => ['F', 'F']
  | '\ufb01' => ['F', 'I']
  | '\ufb02' => ['F', 'L']
  | '\ufb03' => ['F', 'F', 'I']
  | '\ufb04' => ['F', 'F', 'L']
  | '\ufb05' | '\ufb06' => ['S', 'T']
  | _ => [c.toUpper]

/-- A word in upper case, as far as the names of levels go. -/
def upper (word : String) : String :=
  String.ofList (word.toList.flatMap upperChar)

/-- The default layout of a record, which a word can name by accident. -/
def basicFormat : String := "%(levelname)s:%(name)s:%(message)s"

/-- What a word in upper case chooses; any other word chooses the level of warnings. -/
def choose (word : String) : Choice :=
  match word with
  | "CRITICAL" | "FATAL" => .level critical
  | "ERROR" => .level error
  | "WARNING" | "WARN" => .level warning
  | "INFO" => .level info
  | "DEBUG" => .level debug
  | "NOTSET" => .level unset
  | "BASIC_FORMAT" => .wording basicFormat
  | "_STYLES" => .table
  | _ => .level warning

end Level

end RequirePath.Log
