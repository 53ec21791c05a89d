import RequirePath.File.Action

/-! Where log records go: always to the console, and to a file of lines if one is named. Setting up again
replaces what was set up before. -/

namespace RequirePath.Log

/-- The word for the level that is taken when none is given. -/
def standardLevel : String := "WARNING"

/-- The level that a word chooses, or the failure that it is. -/
def levelOf (word : String) : Except Failure Level :=
  match Level.choose (Level.upper (if word.isEmpty then standardLevel else word)) with
  | .level n => .ok n
  | .wording text => .error (.unknownLevel text)
  | .table => .error .wrongType

/-- Sets the level, and sends records to the console and to the file of a path, whose directory is made. -/
def setUp (path level : Option String) : Action Unit := do
  let n ← Action.lookOrFail fun _ => levelOf (level.getD "")
  Action.change fun h => { h with threshold := n, sinks := [.console] }
  match path with
  | none => pure ()
  | some text =>
    if text.isEmpty then pure ()
    else do
      let file := LexicalPath.ofText text
      Action.makePath file.parent
      Action.change fun h => { h with sinks := h.sinks ++ [.lines file] }

/-- Whether a logger is one of the program's. -/
def isOwn (logger : String) : Bool :=
  logger == Host.logName || (Host.logName ++ ".").toList.isPrefixOf logger.toList

/-- The name of a logger without the name of the program in front. -/
def shortName (logger : String) : String :=
  if (Host.logName ++ ".").toList.isPrefixOf logger.toList then
    String.ofList (logger.toList.drop (Host.logName.length + 1))
  else logger

/-- Logs a message with further fields, some of whose names are protected. -/
def message (logger : String) (level : Int) (text : Value) (values : List Value) (extras : Fields) :
    Action Unit := fun h =>
  let kept : Bool := if isOwn logger then h.keeps level else 0 < level && (Level.warning : Int) ≤ level
  if !kept then (.ok (), h)
  else
    match extras.find? fun p => Record.protectedNames.contains p.1 with
    | some (name, _) => (.error (.protectedField name), h)
    | none =>
      if !isOwn logger then (.ok (), h)
      else
        let record : Record := { Record.make logger level text values with extras }
        let h := match record.text with
          | .ok shown => h.note (.logged (shortName logger) level shown)
          | .error _ => h
        (.ok (), h.deliverAll record true)

end RequirePath.Log
