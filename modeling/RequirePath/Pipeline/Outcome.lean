import RequirePath.Failure
import RequirePath.Json.Value

/-! Outcomes of a resolution stage, and the arguments of the callback that tell them: nothing declines, a
first argument is a failure, and a second one after nothing is a rewritten request. -/

namespace RequirePath

/-- An error that a part of the host has raised: the name of its kind, its text, and for a failed command
the command and how it ended. -/
structure ForeignError where
  kind : String
  text : String
  isTool : Bool := false
  command : List String := []
  exitCode : Option Int := none
  stderr : String := ""
  errno : Option Int := none

/-- How an error gets its text from the values it was made of: a single value is its own text, or is quoted
as a key; two to five can stand for a refusal of the system, of which one by a busy system may have a count in
the place of a file; and those of a fault in a text to be parsed name the place of the fault. -/
inductive ErrorStyle
  | plain
  | key
  | system
  | busy
  | grammar
  deriving DecidableEq, Repr

/-- The text of values that stand together. -/
def tupleText (values : List Value) : String :=
  "(" ++ String.intercalate ", " (values.map Value.shown) ++ ")"

/-- The text of any values. -/
def valuesText : List Value → String
  | [] => ""
  | [v] => v.display
  | values => tupleText values

/-- The values that stand for a refusal of the system. -/
def isRefusal (values : List Value) : Bool :=
  2 ≤ values.length && values.length ≤ 5

/-- The files that a refusal of the system is about, of the values after its number and its wording: the
first of these, and with it the third. -/
def refusedFiles (busy : Bool) : List Value → String
  | [] | .null :: _ => ""
  | file :: more =>
    let isCount : Bool := match file with
      | .int _ | .bool _ => true
      | _ => false
    if busy && isCount then ""
    else
      ": " ++ file.shown ++
        (match more with
        | [_, .null] => ""
        | [_, second] => " -> " ++ second.shown
        | _ => "")

/-- The values inside a value. -/
def parts : Value → List Value
  | .array items => items
  | .text s => s.toList.map fun c => .text (String.singleton c)
  | .object fields => fields.map fun f => .text f.1
  | _ => []

/-- The place of a fault in a text, of the values that name it: the last part of a file's name and a line. -/
def placeText (place : List Value) : String :=
  let file : Option String := match place with
    | .text path :: _ => some (String.ofList ((Text.splitAt '/' path.toList).getLast?.getD []))
    | _ => none
  let line : Option Int := match place with
    | _ :: .int n :: _ => some (if -(1 <<< 63 : Nat) ≤ n ∧ n < (1 <<< 63 : Nat) then n else -1)
    | _ => none
  match file, line with
  | some f, some n => s!" ({f}, line {n})"
  | some f, none => s!" ({f})"
  | none, some n => s!" (line {n})"
  | none, none => ""

/-- The text of an error from the values it was made of. -/
def ErrorStyle.text (style : ErrorStyle) (values : List Value) : String :=
  match style, values with
  | .key, [v] => v.shown
  | .grammar, [] => Value.null.display
  | .grammar, [wording, place] => wording.display ++ placeText (parts place)
  | .grammar, wording :: _ => wording.display
  | .system, number :: wording :: more | .busy, number :: wording :: more =>
    if isRefusal values then
      s!"[Errno {number.display}] {wording.display}" ++ refusedFiles (style == .busy) more
    else valuesText values
  | _, _ => valuesText values

/-- What can be handed to a callback. -/
inductive Argument
  | value (v : Value)
  | failure (f : Failure)
  | foreign (e : ForeignError)

namespace Argument

/-- Nothing is handed over. -/
def isAbsent : Argument → Bool
  | .value .null => true
  | _ => false

end Argument

/-- The result of one request at one stage. -/
inductive Outcome
  | rewritten (request : Argument)
  | declined
  | failed (error : Argument)

namespace Outcome

/-- The outcome that callback arguments tell. -/
def ofArguments : List Argument → Outcome
  | [] => .declined
  | first :: rest =>
    if !first.isAbsent then .failed first
    else
      match rest with
      | [] => .declined
      | second :: _ => if second.isAbsent then .declined else .rewritten second

/-- The callback arguments that tell an outcome. -/
def toArguments : Outcome → List Argument
  | .rewritten request => [.value .null, request]
  | .declined => []
  | .failed error => [error]

/-- The stage leaves the request to others. -/
def isDeclined : Outcome → Bool
  | .declined => true
  | _ => false

/-- The word for the kind of an outcome. -/
def kindWord : Outcome → String
  | .rewritten _ => "rewritten"
  | .declined => "declined"
  | .failed _ => "error"

end Outcome

end RequirePath
