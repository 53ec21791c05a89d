import RequirePath.Console.Action.Reading

/-! Literals: expressions that are values as they stand. They are texts, numbers, the words for truth values and
for nothing, and tuples, sets and dictionaries of literals. -/

namespace RequirePath.Action

/-! ### Texts -/

/-- The characters between the quotes of a text. -/
def textBody (t : Token) : List Char :=
  let quoted := t.chars.drop (Tree.marks t).length
  match quoted with
  | a :: b :: c :: rest =>
    if a = b && b = c && 3 ≤ rest.length then rest.take (rest.length - 3)
    else (quoted.drop 1).take (quoted.length - 2)
  | _ => []

/-- A text with every character beyond ASCII spelled by its number. A backslash before one stands for itself. -/
def spelled : List Char → List Char
  | [] => []
  | ['\\'] => "\\u005c".toList
  | '\\' :: c :: rest =>
    if c.toNat < 0x80 then '\\' :: c :: spelled rest
    else "\\u005c".toList ++ '\\' :: 'U' :: Text.hexDigits 8 c.toNat ++ spelled rest
  | c :: rest =>
    if c.toNat < 0x80 then c :: spelled rest else '\\' :: 'U' :: Text.hexDigits 8 c.toNat ++ spelled rest

/-- A fault of a character that is spelled out: how many characters it takes, and why it is none. -/
structure EscapeFault where
  length : Nat
  reason : String

/-- Reads a number of hexadecimal digits after a backslash and a letter. -/
def hexEscape (count : Nat) (reason : String) (cs : List Char) : Except EscapeFault (List Char) :=
  let digits := (cs.take count).takeWhile fun c => (Text.hexDigit? c).isSome
  let code := digits.foldl (fun n c => n * 16 + (Text.hexDigit? c).getD 0) 0
  if digits.length < count then .error ⟨2 + digits.length, reason⟩
  else if 0x10FFFF < code then .error ⟨2 + count, "illegal Unicode character"⟩
  else .ok (cs.drop count)

/-- Reads the name of a character between braces. -/
def nameEscape (cs : List Char) : Except EscapeFault (List Char) :=
  let reason := "malformed \\N character escape"
  match cs with
  | '\x7b' :: rest =>
    let name := rest.takeWhile (· != '\x7d')
    match rest.drop name.length with
    | _ :: after => if name.isEmpty then .error ⟨3, reason⟩ else .ok after
    | [] => .error ⟨3 + name.length, reason⟩
  | _ => .error ⟨2, reason⟩

/-- What follows a character that is spelled out after a backslash. -/
def escape : List Char → Except EscapeFault (List Char)
  | 'x' :: rest => hexEscape 2 "truncated \\xXX escape" rest
  | 'u' :: rest => hexEscape 4 "truncated \\uXXXX escape" rest
  | 'U' :: rest => hexEscape 8 "truncated \\UXXXXXXXX escape" rest
  | 'N' :: rest => nameEscape rest
  | _ :: rest => .ok rest
  | [] => .ok []

/-- The first fault of a text, and its place. -/
def escapeFault? (place : Nat) : Nat → List Char → Option (Nat × EscapeFault)
  | 0, _ => none
  | _, [] => none
  | bound + 1, c :: rest =>
    if c = '\\' then
      match escape rest with
      | .ok after => escapeFault? (place + 1 + (rest.length - after.length)) bound after
      | .error f => some (place, f)
    else escapeFault? (place + 1) bound rest

/-- The place of the first byte of bytes that is not spelled out in full. -/
def byteFault? (place : Nat) : List Char → Option Nat
  | '\\' :: 'x' :: rest =>
    if (rest.take 2).length = 2 && (rest.take 2).all fun c => (Text.hexDigit? c).isSome then
      byteFault? (place + 2) rest
    else some place
  | '\\' :: _ :: rest => byteFault? (place + 2) rest
  | _ :: rest => byteFault? (place + 1) rest
  | [] => none

/-- What is wrong with one text. -/
def oneTextFault (t : Token) : Option String :=
  let marks := Tree.marks t
  let body := textBody t
  if marks.contains 'b' then
    if body.any fun c => 0x80 ≤ c.toNat then some "bytes can only contain ASCII literal characters"
    else if marks.contains 'r' then none
    else (byteFault? 0 body).map fun place => s!"(value error) invalid \\x escape at position {place}"
  else if marks.contains 'r' || marks.contains 'f' || !body.contains '\\' then none
  else
    let cs := spelled body
    (escapeFault? 0 (cs.length + 1) cs).map fun (place, f) =>
      s!"(unicode error) 'unicodeescape' codec can't decode bytes in position {place}-" ++
        s!"{place + f.length - 1}: {f.reason}"

/-- What is wrong with texts that stand next to each other: one of them, or that some are bytes and some are
not; `before` tells what the text before the next one is. -/
def textsFault (before : Option Bool) : List Tree → Option String
  | .leaf t :: rest =>
    let isBytes := (Tree.marks t).contains 'b'
    (oneTextFault t).or <|
      if before.any (· != isBytes) then some "cannot mix bytes and nonbytes literals"
      else textsFault (some isBytes) rest
  | _ => none

/-! ### Values -/

/-- The wording of an expression that is no literal. -/
def notLiteral : String := "malformed node or string"

/-- A number without a sign. -/
def isNumber : Tree → Bool
  | .leaf t => t.kind == .number
  | .node _ _ => false

/-- A number with the mark of imaginary ones. -/
def isImaginary : Tree → Bool
  | .leaf t => t.kind == .number && t.chars.getLast?.any (fun c => c == 'j' || c == 'J') &&
      !("0x".toList.isPrefixOf (t.chars.map Char.toLower))
  | .node _ _ => false

/-- A number that may have a sign. -/
def isSigned : Tree → Bool
  | .node .factor [sign, n] => (sign.isWord "+" || sign.isWord "-") && isNumber n
  | t => isNumber t

/-- The number without its sign. -/
def unsigned : Tree → Tree
  | .node .factor [_, n] => n
  | t => t

/-- The sum of a number and an imaginary one. -/
def isComplex : List Tree → Bool
  | [left, sign, right] =>
    (sign.isWord "+" || sign.isWord "-") && isSigned left && !isImaginary (unsigned left) && isImaginary right
  | _ => false

/-- The wording of a value that can be no key. -/
def notKey (name : String) : String := s!"unhashable type: '{name}'"

mutual

/-- Checks that an expression is a literal: the name of its kind if it can be no key. -/
def literal : Tree → Except String (Option String)
  | .leaf t =>
    match t.kind with
    | .number => .ok none
    | .text => if Tree.isForm t then .error notLiteral else .ok none
    | .word => .ok none
    | _ => .error notLiteral
  | .node .texts parts =>
    if (Tree.node .texts parts).kindName = "literal" then .ok none else .error notLiteral
  | .node .tuple parts => literals parts
  | .node .bareTuple parts => literals parts
  | .node .set parts => (members parts).map fun _ => some "set"
  | .node .dict parts => (members parts).map fun _ => some "dict"
  | .node .factor parts => if isSigned (.node .factor parts) then .ok none else .error notLiteral
  | .node .sum parts => if isComplex parts then .ok none else .error notLiteral
  | .node .primary [.leaf t, .node .call []] =>
    if t.kind == .name && t.chars == "set".toList then .ok (some "set") else .error notLiteral
  | .node _ _ => .error notLiteral

/-- Checks that expressions are literals: the name of the first kind that can be no key. -/
def literals : List Tree → Except String (Option String)
  | [] => .ok none
  | t :: rest => do
    let first ← literal t
    let later ← literals rest
    pure (first.or later)

/-- Checks the members of a set or the pairs of a dictionary, whose keys must be keys. -/
def members : List Tree → Except String Unit
  | [] => .ok ()
  | .node .pair [key, value] :: rest => do
    let kind ← literal key
    let _ ← literal value
    match kind with
    | some name => .error (notKey name)
    | none => members rest
  | .node .spread _ :: _ => .error (notLiteral ++ ": None")
  | t :: rest => do
    match ← literal t with
    | some name => .error (notKey name)
    | none => members rest

end

end RequirePath.Action
