import RequirePath.Json.Value

/-! Writes a value as JSON text on one line. Only the quote, the backslash and the control characters are
escaped, so every other character stands for itself. -/

namespace RequirePath.Json

/-- The spelling of one character of a string. -/
def escaped (c : Char) : List Char :=
  if c = '\x22' ∨ c = '\\' then ['\\', c]
  else if c = '\n' then ['\\', 'n']
  else if c = '\r' then ['\\', 'r']
  else if c = '\t' then ['\\', 't']
  else if c = '\x0c' then ['\\', 'f']
  else if c = '\x08' then ['\\', 'b']
  else if c.toNat < 0x20 then '\\' :: 'u' :: Text.hexDigits 4 c.toNat
  else [c]

/-- The characters of a string with its quotes. -/
def stringChars (cs : List Char) : List Char :=
  '\x22' :: cs.flatMap escaped ++ ['\x22']

/-- The text of a number that is no integer. -/
def floatText : Binary64 → String
  | .nan => "NaN"
  | .infinite negative => if negative then "-Infinity" else "Infinity"
  | x => x.text

mutual

/-- The characters of a value. -/
def chars : Value → List Char
  | .null => "null".toList
  | .bool b => (if b then "true" else "false").toList
  | .int n => (toString n).toList
  | .float x => (floatText x).toList
  | .text s => stringChars s.toList
  | .array items => '[' :: charsOfItems items ++ [']']
  | .object fields => '\x7b' :: charsOfFields fields ++ ['\x7d']

/-- The items of an array with a comma and a blank between them. -/
def charsOfItems : List Value → List Char
  | [] => []
  | [v] => chars v
  | v :: rest => chars v ++ ',' :: ' ' :: charsOfItems rest

/-- The fields of an object with a comma and a blank between them. -/
def charsOfFields : List (String × Value) → List Char
  | [] => []
  | [(name, v)] => stringChars name.toList ++ ':' :: ' ' :: chars v
  | (name, v) :: rest => stringChars name.toList ++ ':' :: ' ' :: chars v ++ ',' :: ' ' :: charsOfFields rest

end

/-- The text of a value. -/
def write (v : Value) : String :=
  String.ofList (chars v)

end RequirePath.Json
