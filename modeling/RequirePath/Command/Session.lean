import RequirePath.Command.Help
import RequirePath.Console.Table
import RequirePath.ErrorReport
import RequirePath.Host

/-! A run of a command: what it prints, what it is answered, and how it ends. -/

namespace RequirePath.Command

/-- How a command ends before its last line: with a code, with a failure that is not reported, or at a
question that no line answers. -/
inductive Ending
  | exit (code : Nat)
  | failed (failure : Failure)
  | unanswered

/-- The machine, the text printed so far, and the lines typed that have not been read. -/
structure Session where
  host : Host
  printed : List Char := []
  typed : List (List Char) := []

/-- A part of a command: it prints, reads, acts on the machine, and may end the command. -/
abbrev Script (α : Type) : Type :=
  ExceptT Ending (StateM Session) α

namespace Script

/-- Ends the command with a code. -/
def exit {α : Type} (code : Nat) : Script α :=
  throw (.exit code)

/-- Prints characters. -/
def put (cs : List Char) : Script Unit :=
  modify fun s => { s with printed := s.printed ++ cs }

/-- Prints a line as it is. -/
def line (text : String) : Script Unit :=
  put (text.toList ++ ['\n'])

/-- Prints a line of markup. -/
def markup (text : String) : Script Unit :=
  match Markup.print text with
  | .ok cs => put (cs ++ ['\n'])
  | .error e => throw (.failed e)

/-- Runs an action and gives its result or its failure. -/
def attempt {α : Type} (act : Action α) : Script (Except Failure α) := do
  let s ← get
  let (result, host) := act s.host
  set { s with host }
  pure result

/-- Runs an action; its failure ends the command. -/
def perform {α : Type} (act : Action α) : Script α := do
  match ← attempt act with
  | .ok a => pure a
  | .error e => throw (.failed e)

/-- The code of a command that ends with a report of its failure. -/
def failureCode : Nat := 2

/-- Reports an error and ends the command. -/
def report {α : Type} (e : ForeignError) : Script α := do
  markup ("[red]Error:[/red] " ++ Markup.escapeText (ErrorReport.headline e true))
  (ErrorReport.details e).forM fun detail => markup ("  [dim]" ++ Markup.escapeText detail ++ "[/dim]")
  exit failureCode

/-- Runs an action; its failure ends the command, with a report if it is one that is reported. -/
def performReporting {α : Type} (act : Action α) : Script α := do
  match ← attempt act with
  | .ok a => pure a
  | .error e =>
    match ErrorReport.ofFailure? e with
    | some shown => report shown
    | none => throw (.failed e)

/-- Prints the help of a command. -/
def help (m : Manual) : Script Unit :=
  m.lines.forM line

/-- The answer to a question, if a line is one. -/
def answer? (typed : List Char) : Option Bool :=
  let word := String.ofList (Text.trim (typed.map Char.toLower))
  if word = "y" ∨ word = "yes" then some true
  else if word = "n" ∨ word = "no" ∨ word = "" then some false
  else none

/-- Asks until a line is an answer; what is typed is shown. Without a line left the command ends. -/
def confirm (question : String) : List (List Char) → Script Bool
  | [] => do
    put (question.toList ++ " [y/N]: ".toList)
    throw .unanswered
  | typed :: rest => do
    put (question.toList ++ " [y/N]: ".toList ++ typed ++ ['\n'])
    modify fun s => { s with typed := rest }
    match answer? typed with
    | some b => pure b
    | none => do
      line "Error: invalid input"
      confirm question rest

end Script

end RequirePath.Command
