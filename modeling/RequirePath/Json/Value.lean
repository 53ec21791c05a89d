import RequirePath.Number.Shortest
import RequirePath.Text.Quoted

/-! Values of a JSON document, and the text that a message shows for one. Objects keep the order in which
their names first came. -/

namespace RequirePath

/-- A value of a JSON document. -/
inductive Value
  | null
  | bool (b : Bool)
  | int (n : Int)
  | float (x : Binary64)
  | text (s : String)
  | array (items : List Value)
  | object (fields : List (String × Value))
  deriving Inhabited

/-- The fields of an object, by name in the order of their first mention. -/
abbrev Fields := List (String × Value)

namespace Fields

/-- The value of a field. -/
def get? (name : String) (fields : Fields) : Option Value :=
  fields.lookup name

/-- Gives a field a value: in its place if it is there, else after all others. -/
def set (name : String) (value : Value) : Fields → Fields
  | [] => [(name, value)]
  | (n, v) :: rest => if n = name then (n, value) :: rest else (n, v) :: set name value rest

/-- Adds a field unless it is there. -/
def setNew (name : String) (value : Value) (fields : Fields) : Fields :=
  if (Fields.get? name fields).isSome then fields else fields ++ [(name, value)]

/-- The fields of a list of pairs, in which a later pair wins over an earlier one of the same name. -/
def ofList (pairs : List (String × Value)) : Fields :=
  pairs.foldl (fun fields p => set p.1 p.2 fields) []

end Fields

namespace Value

/-- The value of a field of an object. -/
def field? (name : String) : Value → Option Value
  | .object fields => Fields.get? name fields
  | _ => none

/-- The text of a value inside a list or an object: texts are quoted. -/
def shown : Value → String
  | .null => "None"
  | .bool b => if b then "True" else "False"
  | .int n => toString n
  | .float x => x.text
  | .text s => Text.quoted s
  | .array items => "[" ++ String.intercalate ", " (shownAll items) ++ "]"
  | .object fields => "\x7b" ++ String.intercalate ", " (shownFields fields) ++ "\x7d"
where
  shownAll : List Value → List String
    | [] => []
    | v :: rest => shown v :: shownAll rest
  shownFields : List (String × Value) → List String
    | [] => []
    | (name, v) :: rest => (Text.quoted name ++ ": " ++ shown v) :: shownFields rest

/-- The text of a value in a message: a text stands as it is. -/
def display : Value → String
  | .text s => s
  | v => shown v

end Value

end RequirePath
