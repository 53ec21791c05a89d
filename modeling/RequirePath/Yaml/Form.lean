import RequirePath.Calendar
import RequirePath.Yaml.Text

/-! The forms of plain scalars that are not text: truth values, integers in four bases and by sixties,
numbers with a fraction, dates, and the two marks of merging and of a default value. -/

namespace RequirePath.Yaml.Form

/-- A text without a line end at its end: the text has the form of the line. -/
def line (cs : List Char) : List Char :=
  match cs.reverse with
  | '\n' :: before => before.reverse
  | _ => cs

/-- An optional sign and the characters after it. -/
def unsigned : List Char → List Char
  | '+' :: rest | '-' :: rest => rest
  | cs => cs

/-- A digit or an underscore. -/
def isDigitMark (c : Char) : Bool := c.isDigit || c == '_'

/-- A word for a truth value in one of its three spellings. -/
def isBool (s : String) : Bool :=
  ["yes", "Yes", "YES", "no", "No", "NO", "true", "True", "TRUE", "false", "False", "FALSE", "on", "On",
    "ON", "off", "Off", "OFF"].contains s

/-- The truth value of a word in lower case. -/
def boolOf? (s : String) : Option Bool :=
  if ["yes", "true", "on"].contains s then some true
  else if ["no", "false", "off"].contains s then some false
  else none

/-- A word for nothing. -/
def isNull (s : String) : Bool :=
  ["", "~", "null", "Null", "NULL"].contains s

/-- One or more numbers below sixty, each after a colon, and what follows. -/
def sixties : Nat → List Char → Option (List Char)
  | 0, _ => none
  | bound + 1, cs =>
    match cs with
    | ':' :: a :: b :: rest =>
      if '0' ≤ a && a ≤ '5' && b.isDigit then (sixties bound rest).or (some rest)
      else if a.isDigit then (sixties bound (b :: rest)).or (some (b :: rest))
      else none
    | [':', a] => if a.isDigit then some [] else none
    | _ => none

/-- An integer in base two, eight, ten or sixteen, or by sixties. -/
def isInt (cs : List Char) : Bool :=
  let body := unsigned cs
  match body with
  | '0' :: 'b' :: digits => !digits.isEmpty && digits.all fun c => c == '0' || c == '1' || c == '_'
  | '0' :: 'x' :: digits =>
    !digits.isEmpty && digits.all fun c => (Text.hexDigit? c).isSome || c == '_'
  | ['0'] => true
  | '0' :: digits => digits.all fun c => ('0' ≤ c && c ≤ '7') || c == '_'
  | c :: rest =>
    c.isDigit &&
      (rest.all isDigitMark || sixties (rest.length + 1) (rest.dropWhile isDigitMark) == some [])
  | [] => false

/-- Nothing, or an exponent with a sign. -/
def isExponent (cs : List Char) : Bool :=
  match cs with
  | [] => true
  | e :: sign :: digits =>
    (e == 'e' || e == 'E') && (sign == '+' || sign == '-') && !digits.isEmpty && digits.all Char.isDigit
  | _ => false

/-- A number with a fraction, by tens or by sixties, or one of the numbers without digits. -/
def isFloat (cs : List Char) : Bool :=
  let body := unsigned cs
  let word := String.ofList body
  let decimal : Bool := match body with
    | c :: _ =>
      c.isDigit &&
        (match body.dropWhile isDigitMark with
        | '.' :: part => isExponent (part.dropWhile isDigitMark)
        | _ => false)
    | [] => false
  let bare : Bool := match cs with
    | '.' :: c :: rest => c.isDigit && isExponent (rest.dropWhile isDigitMark)
    | _ => false
  let bySixties : Bool := match body with
    | c :: rest =>
      c.isDigit &&
        (match sixties (rest.length + 1) (rest.dropWhile isDigitMark) with
        | some ('.' :: part) => part.all isDigitMark
        | _ => false)
    | [] => false
  decimal || bare || bySixties || [".inf", ".Inf", ".INF"].contains word ||
    [".nan", ".NaN", ".NAN"].contains (String.ofList cs)

/-- A date or a moment as it is written: the time of day with its millionths of a second, and the difference
of its clock from the common one. -/
structure Moment where
  year : Nat
  month : Nat
  day : Nat
  time : Option (Nat × Nat × Nat × Nat)
  offset : Option (Bool × Nat × Nat)
  deriving DecidableEq, Repr

/-- At least `least` digits and at most `most`, as a number. -/
def digits (least most : Nat) (cs : List Char) : Option (Nat × List Char) :=
  let ds := (cs.take most).takeWhile Char.isDigit
  if ds.length < least then none else some (Text.digitsValue ds, cs.drop ds.length)

/-- A given character, and what follows. -/
def expect (c : Char) : List Char → Option (List Char)
  | d :: rest => if d = c then some rest else none
  | [] => none

/-- The difference of a moment's clock from the common one. -/
def offsetAt (cs : List Char) : Option (Option (Bool × Nat × Nat)) := do
  match cs.dropWhile (fun c => c == ' ' || c == '\t') with
  | [] => if cs.isEmpty then some none else none
  | ['Z'] => some (some (false, 0, 0))
  | sign :: rest =>
    if sign != '+' && sign != '-' then none
    else
      let (hour, rest) ← digits 1 2 rest
      match rest with
      | [] => some (some (sign == '-', hour, 0))
      | ':' :: rest =>
        let (minute, rest) ← digits 2 2 rest
        if rest.isEmpty then some (some (sign == '-', hour, minute)) else none
      | _ => none

/-- The millionths that the digits after a point write; further digits do not count. -/
def millionths (digits : List Char) : Nat :=
  let kept := digits.take 6
  Text.digitsValue (kept ++ List.replicate (6 - kept.length) '0')

/-- Reads a date, or a date with a time of day. -/
def moment? (cs : List Char) : Option Moment := do
  let (year, rest) ← digits 4 4 (line cs)
  let rest ← expect '-' rest
  let (month, afterMonth) ← digits 1 2 rest
  let rest ← expect '-' afterMonth
  let (day, afterDay) ← digits 1 2 rest
  if afterDay.isEmpty then some ⟨year, month, day, none, none⟩
  else
    let rest ← match afterDay with
      | 'T' :: rest | 't' :: rest => some rest
      | c :: _ =>
        if c == ' ' || c == '\t' then some (afterDay.dropWhile fun d => d == ' ' || d == '\t') else none
      | [] => none
    let (hour, rest) ← digits 1 2 rest
    let rest ← expect ':' rest
    let (minute, rest) ← digits 2 2 rest
    let rest ← expect ':' rest
    let (second, rest) ← digits 2 2 rest
    let (part, rest) : List Char × List Char := match rest with
      | '.' :: part => (part.takeWhile Char.isDigit, part.dropWhile Char.isDigit)
      | _ => ([], rest)
    let offset ← offsetAt rest
    some ⟨year, month, day, some (hour, minute, second, millionths part), offset⟩

/-- A date with all its digits, or a date with a time of day. -/
def isMoment (cs : List Char) : Bool :=
  (moment? cs).any fun m => m.time.isSome || (line cs).length == 10

/-- What is wrong with the difference of clocks, which must be less than a day. -/
def offsetFault (negative : Bool) (hour minute : Nat) : Option String :=
  let total := hour * 3600 + minute * 60
  if total < 86400 then none
  else
    let signed : Int := if negative then -(total : Int) else total
    let days := signed / 86400
    let seconds := signed % 86400
    let shown :=
      if seconds = 0 then s!"datetime.timedelta(days={days})"
      else s!"datetime.timedelta(days={days}, seconds={seconds})"
    some <|
      "offset must be a timedelta strictly between -timedelta(hours=24) and timedelta(hours=24), not " ++
        shown ++ "."

/-- What is wrong with a date or a moment. -/
def Moment.fault (m : Moment) : Option String :=
  let date : Option String :=
    if m.year < 1 then some s!"year {m.year} is out of range"
    else if m.month < 1 ∨ 12 < m.month then some "month must be in 1..12"
    else if m.day < 1 ∨ Calendar.daysIn m.year m.month < m.day then some "day is out of range for month"
    else none
  let time : Option String := match m.time with
    | none => none
    | some (hour, minute, second, _) =>
      if 23 < hour then some "hour must be in 0..23"
      else if 59 < minute then some "minute must be in 0..59"
      else if 59 < second then some "second must be in 0..59"
      else none
  let offset : Option String := match m.offset with
    | none => none
    | some (negative, hour, minute) => offsetFault negative hour minute
  (offset.or date).or time

/-- The millionths of a second since the start of 1970, by the clock of the moment; a date starts a day. -/
def Moment.ticks (m : Moment) : Int :=
  let (hour, minute, second, part) := m.time.getD (0, 0, 0, 0)
  let time : Nat := ((hour * 60 + minute) * 60 + second) * 1000000 + part
  Calendar.dayNumber m.year m.month m.day * 86400000000 + time

/-- The millionths of a second that the clock of a moment is ahead of the common one. -/
def Moment.ahead (m : Moment) : Int :=
  match m.offset with
  | none => 0
  | some (negative, hour, minute) =>
    let span : Int := (hour * 60 + minute) * 60000000
    if negative then -span else span

/-- Two dates, or two moments, that are the same one. A moment whose clock is not known is never one whose
clock is known. -/
def Moment.same (a b : Moment) : Bool :=
  a.time.isSome == b.time.isSome && a.offset.isSome == b.offset.isSome &&
    a.ticks - a.ahead == b.ticks - b.ahead

end RequirePath.Yaml.Form
