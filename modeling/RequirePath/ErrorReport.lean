import RequirePath.Failure
import RequirePath.Pipeline.Outcome

/-! Errors as they are shown to a user: one line that is never empty, and further lines about a command that
failed. -/

namespace RequirePath.ErrorReport

/-- The text for kinds of errors that often come without one. -/
def friendly : List (String × String) :=
  [("TimeoutError", "Operation timed out."), ("KeyboardInterrupt", "Operation interrupted by user."),
    ("PermissionError", "Permission denied.")]

/-- One list stands somewhere in another. -/
def occursIn (part : List Char) : List Char → Bool
  | [] => part.isEmpty
  | c :: rest => part.isPrefixOf (c :: rest) || occursIn part rest

/-- The line for an error: its text, with the name of its kind in front unless that is not wanted or the text
has it. -/
def headline (e : ForeignError) (withKind : Bool) : String :=
  if e.text.isEmpty then
    s!"{e.kind}: " ++ (friendly.lookup e.kind).getD "(no additional details)"
  else if withKind && !occursIn e.kind.toList e.text.toList then s!"{e.kind}: {e.text}"
  else e.text

/-- The further lines for an error. -/
def details (e : ForeignError) : List String :=
  if e.isTool then
    (if e.command.isEmpty then [] else ["command: " ++ String.intercalate " " e.command]) ++
      (match e.exitCode with
      | some n => [s!"exit code: {n}"]
      | none => [])
  else []

/-- The failures that end a command with a report of their own, as errors that can be shown. -/
def ofFailure? (f : Failure) : Option ForeignError :=
  match f with
  | .invalidSettings _ | .manifestMissing _ _ | .manifestUnreadable _ _ =>
    some { kind := "ConfigurationError", text := f.message }
  | .cacheCorrupt _ _ => some { kind := "CacheCorruptError", text := f.message }
  | .tool t =>
    some { kind := "ExternalToolError", text := t.message, isTool := true, command := t.command,
           exitCode := t.exitCode, stderr := t.stderr }
  | _ => none

end RequirePath.ErrorReport
