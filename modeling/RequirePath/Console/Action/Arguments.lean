import RequirePath.Console.Action.Literal
import RequirePath.Text.Quoted

/-! What a tag for actions holds: the name of an action, and its arguments between parentheses. What has not
this form is taken as a literal as a whole. -/

namespace RequirePath.Action

/-- The arguments in the parameters of a tag. Without parentheses an action has none. -/
def argumentsOf (parameters : List Char) : List Char :=
  match parameters.dropWhile fun c => Text.isWordChar c || c == '.' with
  | [] => "()".toList
  | '(' :: rest => if rest.getLast? == some ')' && !rest.contains '\n' then '(' :: rest else parameters
  | _ => parameters

/-- What is wrong with the parameters of a tag for actions. -/
def fault? (parameters : List Char) : Option String :=
  let whole := String.ofList (Text.quotedChars parameters)
  let arguments := argumentsOf (Text.trim parameters)
  match readTree (textsFault none) (arguments.dropWhile fun c => c == ' ' || c == '\t') with
  | .error message =>
    some (s!"error parsing {String.ofList (Text.quotedChars arguments)} in {whole}; " ++ message)
  | .ok tree =>
    match literal tree with
    | .error message => some (s!"error parsing {whole}; " ++ message)
    | .ok _ => none

end RequirePath.Action
