import RequirePath.Number.Binary64
import RequirePath.Text.LowerCase
import RequirePath.Text.PlainNumber
import RequirePath.Yaml.Form

/-! Numbers as a document writes them, once their tag says that they are numbers: integers in four bases,
numbers with a fraction, and both by sixties. Digits of all scripts count. -/

namespace RequirePath.Yaml.Numeral

/-- The value of a character as a digit of a base. -/
def digitIn (base : Nat) (c : Char) : Option Nat :=
  match Text.hexDigit? c with
  | some d => if d < base then some d else none
  | none => none

/-- A letter that may stand between a zero and the digits of a base, in lower case. -/
def leadOf? (base : Nat) : Option Char :=
  match base with
  | 2 => some 'b'
  | 8 => some 'o'
  | 16 => some 'x'
  | _ => none

/-- The digits of a base after the mark that may stand before them. -/
def withoutLead (base : Nat) (cs : List Char) : List Char :=
  match cs with
  | '0' :: c :: digits => if leadOf? base == some c.toLower then digits else cs
  | _ => cs

/-- The greatest number of characters of a text that a message about an integer shows. -/
def shownLength : Nat := 200

/-- The integer that a text writes in a base, with blanks around it, a sign and the mark of the base. -/
def readInt (base : Nat) (cs : List Char) : Except Fault Int :=
  let plain := Text.plainNumber cs
  let body := withoutLead base (Form.unsigned plain)
  let digits := body.takeWhile fun c => (digitIn base c).isSome
  if base = 10 && Json.digitLimit < digits.length then .error (.tooManyDigits digits.length)
  else if digits.isEmpty || digits.length < body.length then
    .error (.badValue (s!"invalid literal for int() with base {base}: " ++
      String.ofList ((Text.quotedChars cs).take shownLength)))
  else
    let n := digits.foldl (fun n c => n * base + (digitIn base c).getD 0) 0
    .ok (if plain.head? == some '-' then -(n : Int) else n)

/-- The total of integers by sixties. -/
def bySixties (parts : List Int) : Int :=
  parts.foldl (fun total n => total * 60 + n) 0

/-- The integer that a text writes. -/
def int (s : String) : Except Fault Int :=
  match s.toList.filter (· != '_') with
  | [] => .error .emptyText
  | first :: rest =>
    let cs := if first == '-' || first == '+' then rest else first :: rest
    let signed (r : Except Fault Int) : Except Fault Int := r.map fun n => if first == '-' then -n else n
    match cs with
    | [] => .error .emptyText
    | ['0'] => .ok 0
    | '0' :: 'b' :: digits => signed (readInt 2 digits)
    | '0' :: 'x' :: digits => signed (readInt 16 digits)
    | '0' :: _ => signed (readInt 8 cs)
    | _ =>
      if cs.contains ':' then signed (((Text.splitAt ':' cs).mapM (readInt 10)).map bySixties)
      else signed (readInt 10 cs)

/-- The number with a fraction that a text in lower case writes, with blanks around it and a sign. -/
def readFloat (cs : List Char) : Except Fault Binary64 :=
  let plain := Text.plainNumber cs
  let negative := plain.head? == some '-'
  let body := Form.unsigned plain
  let word := String.ofList body
  if word = "nan" then .ok .nan
  else if word = "inf" || word = "infinity" then .ok (.infinite negative)
  else
    let whole := Json.takeDigits body
    let afterWhole := body.drop whole.length
    let (part, rest) : List Char × List Char := match afterWhole with
      | '.' :: more => (Json.takeDigits more, more.drop (Json.takeDigits more).length)
      | _ => ([], afterWhole)
    let exponent : Option Int :=
      if rest.isEmpty then some 0
      else
        match Json.exponent rest with
        | some (e, []) => some e
        | _ => none
    match (whole ++ part).isEmpty, exponent with
    | false, some e => .ok (Binary64.ofDecimal negative (Text.digitsValue (whole ++ part)) (e - part.length))
    | _, _ => .error (.badValue ("could not convert string to float: " ++ Text.quoted (String.ofList cs)))

/-- The total of numbers with a fraction by sixties, the last one first; `unit` is what the first of them
counts. -/
def totalFrom (unit : Nat) (total : Binary64) : List Binary64 → Except Fault Binary64
  | [] => .ok total
  | x :: rest =>
    match Binary64.ofDyadic unit with
    | .finite factor => totalFrom (unit * 60) (total.add (x.scale factor)) rest
    | _ => .error (.overflow "int too large to convert to float")

/-- The number with a fraction that a text writes. -/
def float (s : String) : Except Fault Binary64 :=
  match Text.lower (s.toList.filter (· != '_')) with
  | [] => .error .emptyText
  | first :: rest =>
    let body := Form.unsigned (first :: rest)
    let signed (x : Binary64) : Binary64 := if first == '-' then x.negate else x
    if String.ofList body = ".inf" then .ok (signed (.infinite false))
    else if String.ofList body = ".nan" then .ok .nan
    else if body.contains ':' then do
      let parts ← (Text.splitAt ':' body).mapM readFloat
      let total ← totalFrom 1 (.finite 0) parts.reverse
      pure (signed total)
    else (readFloat body).map signed

end RequirePath.Yaml.Numeral
