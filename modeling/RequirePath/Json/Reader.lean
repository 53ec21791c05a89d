import RequirePath.Json.Value

/-! Reads a JSON document from its characters. Besides the standard grammar the constants `NaN`, `Infinity`
and `-Infinity` are numbers, and of two fields of one name the later gives the value. Nesting is bounded,
and so is the number of digits of an integer. -/

namespace RequirePath.Json

/-- What a document lacks at the place where reading stopped. -/
inductive Problem
  | value
  | fieldName
  | colon
  | comma
  | stringEnd
  | controlCharacter
  | escape
  | unicodeEscape
  | documentEnd
  | byteOrderMark
  deriving DecidableEq, Repr

/-- The wording of a problem. -/
def Problem.message : Problem → String
  | .value => "Expecting value"
  | .fieldName => "Expecting property name enclosed in double quotes"
  | .colon => "Expecting ':' delimiter"
  | .comma => "Expecting ',' delimiter"
  | .stringEnd => "Unterminated string starting at"
  | .controlCharacter => "Invalid control character at"
  | .escape => "Invalid \\escape"
  | .unicodeEscape => "Invalid \\uXXXX escape"
  | .documentEnd => "Extra data"
  | .byteOrderMark => "Unexpected UTF-8 BOM (decode using utf-8-sig)"

/-- Why reading stopped; a problem is placed by the characters that were left. -/
inductive Stop
  | problem (kind : Problem) (left : List Char)
  | tooDeep
  | tooManyDigits (count : Nat)

/-- What was read and the characters after it. -/
abbrev Read (α : Type) := Except Stop (α × List Char)

/-- The greatest depth of arrays and objects. -/
def depthLimit : Nat := 990

/-- The greatest number of digits of an integer. -/
def digitLimit : Nat := 4300

/-- Blank characters between the tokens of a document. -/
def isBlank (c : Char) : Bool :=
  c == ' ' || c == '\t' || c == '\n' || c == '\r'

/-- The characters after the blanks. -/
def skipBlanks (cs : List Char) : List Char :=
  cs.dropWhile isBlank

/-- The value of four hexadecimal digits. -/
def hexQuad? (a b c d : Char) : Option Nat := do
  return (← Text.hexDigit? a) * 4096 + (← Text.hexDigit? b) * 256 + (← Text.hexDigit? c) * 16 + (← Text.hexDigit? d)

/-- The character that a one-letter escape stands for. -/
def simpleEscape? (c : Char) : Option Char :=
  if c = '\x22' ∨ c = '\\' ∨ c = '/' then some c
  else if c = 'b' then some '\x08'
  else if c = 'f' then some '\x0c'
  else if c = 'n' then some '\n'
  else if c = 'r' then some '\r'
  else if c = 't' then some '\t'
  else none

/-- First halves of pairs that name one character past the first plane. -/
def isHighHalf (n : Nat) : Bool := 0xD800 ≤ n && n < 0xDC00

/-- Second halves of such pairs. -/
def isLowHalf (n : Nat) : Bool := 0xDC00 ≤ n && n < 0xE000

/-- The character that a number names; a half that stands alone names the replacement character. -/
def charOfUnit (n : Nat) : Char :=
  if isHighHalf n || isLowHalf n then '\ufffd' else Char.ofNat n

/-- The character of a pair of halves. -/
def charOfPair (high low : Nat) : Char :=
  Char.ofNat (0x10000 + (high - 0xD800) * 1024 + (low - 0xDC00))

/-- Reads an escape from the characters after its backslash: the character it stands for and how many of
those characters it takes. A four-digit escape needs a character after it. -/
def escapeAt (start : List Char) : List Char → Except Stop (Char × Nat)
  | [] => .error (.problem .stringEnd start)
  | 'u' :: a :: b :: c :: d :: e :: rest =>
    match hexQuad? a b c d with
    | none => .error (.problem .unicodeEscape ('u' :: a :: b :: c :: d :: e :: rest))
    | some high =>
      match isHighHalf high, e, rest with
      | true, '\\', 'u' :: a' :: b' :: c' :: d' :: f :: more =>
        match hexQuad? a' b' c' d' with
        | none => .error (.problem .unicodeEscape ('u' :: a' :: b' :: c' :: d' :: f :: more))
        | some low => .ok (if isLowHalf low then (charOfPair high low, 11) else (charOfUnit high, 5))
      | _, _, _ => .ok (charOfUnit high, 5)
  | 'u' :: rest => .error (.problem .unicodeEscape ('u' :: rest))
  | c :: rest =>
    match simpleEscape? c with
    | none => .error (.problem .escape ('\\' :: c :: rest))
    | some d => .ok (d, 1)

/-- Reads the characters of a string up to its closing quote; `start` is the string from its opening quote
on, and `skip` characters at the front belong to an escape that has been read. -/
def stringRest (start : List Char) (skip : Nat) : List Char → Read (List Char)
  | [] => .error (.problem .stringEnd start)
  | c :: rest =>
    match skip with
    | k + 1 => stringRest start k rest
    | 0 =>
      if c = '\x22' then .ok ([], rest)
      else if c = '\\' then
        match escapeAt start rest with
        | .error e => .error e
        | .ok (d, k) => (stringRest start k rest).map fun r => (d :: r.1, r.2)
      else if c.toNat < 0x20 then .error (.problem .controlCharacter (c :: rest))
      else (stringRest start 0 rest).map fun r => (c :: r.1, r.2)

/-- The digits at the front of a text. -/
def takeDigits (cs : List Char) : List Char :=
  cs.takeWhile Char.isDigit

/-- The digits after a point, if a point with digits after it comes next, and the characters after them. -/
def fraction (cs : List Char) : Option (List Char × List Char) :=
  match cs with
  | '.' :: rest =>
    let digits := takeDigits rest
    if digits.isEmpty then none else some (digits, rest.drop digits.length)
  | _ => none

/-- The exponent, if one comes next, and the characters after it. -/
def exponent (cs : List Char) : Option (Int × List Char) :=
  match cs with
  | e :: rest =>
    if e = 'e' ∨ e = 'E' then
      let (sign, body) : Int × List Char := match rest with
        | '+' :: more => (1, more)
        | '-' :: more => (-1, more)
        | _ => (1, rest)
      let digits := takeDigits body
      if digits.isEmpty then none else some (sign * Text.digitsValue digits, body.drop digits.length)
    else none
  | [] => none

/-- The digits before the point: a zero, or digits that do not start with one. -/
def wholeDigits : List Char → List Char
  | '0' :: _ => ['0']
  | cs => takeDigits cs

/-- Reads a number: an integer unless a fraction or an exponent follows its digits. -/
def number (negative : Bool) (start cs : List Char) : Read Value :=
  let whole := wholeDigits cs
  if whole.isEmpty then .error (.problem .value start)
  else
    let afterWhole := cs.drop whole.length
    let (frac, afterFrac) := (fraction afterWhole).getD ([], afterWhole)
    let (exp, rest) := (exponent afterFrac).getD (0, afterFrac)
    if rest.length < afterWhole.length then
      let x := Binary64.ofDecimal negative (Text.digitsValue (whole ++ frac)) (exp - frac.length)
      .ok (.float x, rest)
    else if digitLimit < whole.length then .error (.tooManyDigits whole.length)
    else
      let n : Int := Text.digitsValue whole
      .ok (.int (if negative then -n else n), rest)

/-- Reads a constant or a number. -/
def scalar (cs : List Char) : Read Value :=
  match cs with
  | 'n' :: 'u' :: 'l' :: 'l' :: rest => .ok (.null, rest)
  | 't' :: 'r' :: 'u' :: 'e' :: rest => .ok (.bool true, rest)
  | 'f' :: 'a' :: 'l' :: 's' :: 'e' :: rest => .ok (.bool false, rest)
  | 'N' :: 'a' :: 'N' :: rest => .ok (.float .nan, rest)
  | 'I' :: 'n' :: 'f' :: 'i' :: 'n' :: 'i' :: 't' :: 'y' :: rest => .ok (.float (.infinite false), rest)
  | '-' :: 'I' :: 'n' :: 'f' :: 'i' :: 'n' :: 'i' :: 't' :: 'y' :: rest =>
    .ok (.float (.infinite true), rest)
  | '-' :: rest => number true cs rest
  | _ => number false cs cs

mutual

/-- Reads a value. The first number bounds the steps, the second the depth that is left. -/
def value : Nat → Nat → List Char → Read Value
  | 0, _, cs => .error (.problem .value cs)
  | steps + 1, depth, cs =>
    match cs with
    | '\x22' :: rest => (stringRest cs 0 rest).map fun r => (.text (String.ofList r.1), r.2)
    | '[' :: rest =>
      match depth with
      | 0 => .error .tooDeep
      | inner + 1 =>
        match skipBlanks rest with
        | ']' :: after => .ok (.array [], after)
        | first => (items steps inner first).map fun r => (.array r.1, r.2)
    | '\x7b' :: rest =>
      match depth with
      | 0 => .error .tooDeep
      | inner + 1 =>
        match skipBlanks rest with
        | '\x7d' :: after => .ok (.object [], after)
        | first => (fields steps inner first).map fun r => (.object (Fields.ofList r.1), r.2)
    | _ => scalar cs

/-- Reads the items of an array up to its closing bracket. -/
def items : Nat → Nat → List Char → Read (List Value)
  | 0, _, cs => .error (.problem .value cs)
  | steps + 1, depth, cs =>
    match value steps depth cs with
    | .error e => .error e
    | .ok (v, rest) =>
      match skipBlanks rest with
      | ']' :: after => .ok ([v], after)
      | ',' :: next => (items steps depth (skipBlanks next)).map fun r => (v :: r.1, r.2)
      | other => .error (.problem .comma other)

/-- Reads the fields of an object up to its closing brace. -/
def fields : Nat → Nat → List Char → Read (List (String × Value))
  | 0, _, cs => .error (.problem .value cs)
  | steps + 1, depth, cs =>
    match cs with
    | '\x22' :: rest =>
      match stringRest cs 0 rest with
      | .error e => .error e
      | .ok (name, afterName) =>
        match skipBlanks afterName with
        | ':' :: beforeValue =>
          match value steps depth (skipBlanks beforeValue) with
          | .error e => .error e
          | .ok (v, rest) =>
            match skipBlanks rest with
            | '\x7d' :: after => .ok ([(String.ofList name, v)], after)
            | ',' :: next =>
              (fields steps depth (skipBlanks next)).map fun r => ((String.ofList name, v) :: r.1, r.2)
            | other => .error (.problem .comma other)
        | other => .error (.problem .colon other)
    | _ => .error (.problem .fieldName cs)

end

/-- Reads a whole document. -/
def document (cs : List Char) : Except Stop Value :=
  match cs with
  | '\ufeff' :: _ => .error (.problem .byteOrderMark cs)
  | _ =>
    match value (2 * cs.length + 2) depthLimit (skipBlanks cs) with
    | .error e => .error e
    | .ok (v, rest) =>
      match skipBlanks rest with
      | [] => .ok v
      | left => .error (.problem .documentEnd left)

/-- The wording of a problem: what is wrong, and the line, the column and the offset of the place. -/
def placeMessage (kind : Problem) (whole left : List Char) : String :=
  let offset := whole.length - left.length
  let before := whole.take offset
  let line := before.count '\n' + 1
  let column := (before.reverse.takeWhile (· != '\n')).length + 1
  s!"{kind.message}: line {line} column {column} (char {offset})"

end RequirePath.Json
