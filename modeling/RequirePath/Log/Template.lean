import RequirePath.Json.Value

/-! Message templates: a percent sign, flags, a width, a precision and a letter stand for one argument, which
is written as the letter says. The arguments come one after another, or by name from an object. -/

namespace RequirePath.Log.Template

/-- Why a template cannot be filled. -/
inductive Fault
  | wrongArguments
  | missingKey (key : String)
  | badTemplate (message : String)
  | outOfRange (message : String)
  deriving DecidableEq, Repr

/-- What fills a template: arguments in order, or one value, which also gives the names if it is an
object. -/
inductive Arguments
  | inOrder (values : List Value)
  | single (value : Value)

/-- The marks between a percent sign and its letter. -/
structure Layout where
  left : Bool := false
  sign : Bool := false
  blank : Bool := false
  alternate : Bool := false
  zero : Bool := false
  width : Nat := 0
  precision : Option Nat := none

/-- Fills a text with blanks up to the width. -/
def pad (layout : Layout) (text : List Char) : List Char :=
  let fill := List.replicate (layout.width - text.length) ' '
  if layout.left then text ++ fill else fill ++ text

/-- Puts sign and digits together; zeros fill the width after the sign if they are asked for. -/
def padNumber (layout : Layout) (negative : Bool) (lead digits : List Char) : List Char :=
  let sign := if negative then ['-'] else if layout.sign then ['+'] else if layout.blank then [' '] else []
  let head := sign ++ lead
  if layout.zero && !layout.left then
    head ++ List.replicate (layout.width - head.length - digits.length) '0' ++ digits
  else pad layout (head ++ digits)

/-- Digits with zeros in front up to the precision. -/
def padDigits (layout : Layout) (digits : List Char) : List Char :=
  List.replicate ((layout.precision.getD 0) - digits.length) '0' ++ digits

/-- A number that is not negative with `places` digits after the point. -/
def fixed (value : Dyadic) (places : Nat) (point : Bool) : List Char :=
  let (num, den) := Binary64.ratio value
  let digits := Nat.toDigits 10 (roundDiv (num * tenTo places) den)
  let digits := List.replicate (places + 1 - digits.length) '0' ++ digits
  let whole := digits.take (digits.length - places)
  let part := digits.drop (digits.length - places)
  whole ++ (if part.isEmpty && !point then [] else '.' :: part)

/-- The digits of a positive number with one before the point and `places` after it, and its exponent. -/
def scientificDigits (value : Dyadic) (places : Nat) : List Char × Int :=
  if value = 0 then (List.replicate (places + 1) '0', 0)
  else
    let (num, den) := Binary64.ratio value
    let scaled (e : Int) : Nat :=
      let shift : Int := places - e
      if 0 ≤ shift then roundDiv (num * tenTo shift.toNat) den else roundDiv num (den * tenTo (-shift).toNat)
    let e := Binary64.floorLog10 num den
    let digits := Nat.toDigits 10 (scaled e)
    if digits.length ≤ places + 1 then (digits, e) else (Nat.toDigits 10 (scaled (e + 1)), e + 1)

/-- An exponent with its sign and at least two digits. -/
def exponentText (letter : Char) (e : Int) : List Char :=
  let digits := Nat.toDigits 10 e.natAbs
  letter :: (if e < 0 then '-' else '+') :: (if digits.length < 2 then '0' :: digits else digits)

/-- A number with an exponent. -/
def scientific (value : Dyadic) (places : Nat) (letter : Char) (point : Bool) : List Char :=
  let (digits, e) := scientificDigits value places
  digits.take 1 ++ (if places = 0 && !point then [] else '.' :: digits.drop 1) ++ exponentText letter e

/-- A number with a count of significant digits, in whichever form is shorter. -/
def general (value : Dyadic) (count : Nat) (letter : Char) (keep : Bool) : List Char :=
  let count := max count 1
  let (digits, e) := scientificDigits value (count - 1)
  let trim (text : List Char) : List Char :=
    if keep then text
    else
      let whole := text.takeWhile (· != '.')
      let part := (((text.drop (whole.length + 1)).reverse).dropWhile (· == '0')).reverse
      if part.isEmpty then whole else whole ++ '.' :: part
  if e < -4 ∨ (count : Int) ≤ e then
    trim (digits.take 1 ++ '.' :: digits.drop 1) ++ exponentText letter e
  else
    trim (fixed value ((count : Int) - 1 - e).toNat keep)

/-- Writes a number with a fraction by its letter. -/
def floating (layout : Layout) (letter : Char) (x : Binary64) : List Char :=
  let small := letter.toLower
  let upperIf (cs : List Char) : List Char := if letter.isUpper then cs.map Char.toUpper else cs
  match x with
  | .nan => padNumber { layout with zero := false } false [] (upperIf ['n', 'a', 'n'])
  | .infinite negative => padNumber { layout with zero := false } negative [] (upperIf ['i', 'n', 'f'])
  | _ =>
    let (negative, value) : Bool × Dyadic := match x with
      | .finite d => if d < 0 then (true, -d) else (false, d)
      | _ => (true, 0)
    let places := layout.precision.getD 6
    let body :=
      if small = 'f' then fixed value places layout.alternate
      else if small = 'e' then scientific value places letter layout.alternate
      else general value places (if letter.isUpper then 'E' else 'e') layout.alternate
    padNumber layout negative [] body

/-- Writes an integer in a base. -/
def integer (layout : Layout) (letter : Char) (n : Int) : List Char :=
  let base := if letter = 'x' ∨ letter = 'X' then 16 else if letter = 'o' then 8 else 10
  let digits := Nat.toDigits base n.natAbs
  let digits := if letter = 'X' then digits.map Char.toUpper else digits
  let lead := if layout.alternate && base != 10 then ['0', letter] else []
  padNumber layout (n < 0) lead (padDigits layout digits)

/-- The number that an argument is, as far as it is one. -/
def asNumber : Value → Option (Int ⊕ Binary64)
  | .int n => some (.inl n)
  | .bool b => some (.inl (if b then 1 else 0))
  | .float x => some (.inr x)
  | _ => none

/-- Cuts a text to the precision. -/
def cut (layout : Layout) (s : String) : List Char :=
  match layout.precision with
  | some n => s.toList.take n
  | none => s.toList

/-- Writes one argument by its letter. -/
def convert (layout : Layout) (letter : Char) (index : Nat) (v : Value) : Except Fault (List Char) :=
  if letter = 's' then .ok (pad layout (cut layout v.display))
  else if letter = 'r' then .ok (pad layout (cut layout v.shown))
  else if letter = 'a' then
    .ok (pad layout (cut layout (String.ofList (Text.asciiChars v.shown.toList))))
  else if letter = 'c' then
    match v with
    | .text s =>
      match s.toList with
      | [c] => .ok (pad layout [c])
      | _ => .error .wrongArguments
    | .float _ => .error .wrongArguments
    | _ =>
      match asNumber v with
      | some (.inl n) =>
        if 0 ≤ n ∧ n < 0x110000 then .ok (pad layout [Char.ofNat n.toNat])
        else .error (.outOfRange "%c arg not in range(0x110000)")
      | _ => .error .wrongArguments
  else if letter = 'd' ∨ letter = 'i' ∨ letter = 'u' then
    match asNumber v with
    | some (.inl n) => .ok (integer layout 'd' n)
    | some (.inr (.finite d)) => .ok (integer layout 'd' (Binary64.truncate d))
    | some (.inr .negativeZero) => .ok (integer layout 'd' 0)
    | some (.inr .nan) => .error (.badTemplate "cannot convert float NaN to integer")
    | some (.inr (.infinite _)) => .error (.outOfRange "cannot convert float infinity to integer")
    | none => .error .wrongArguments
  else if letter = 'x' ∨ letter = 'X' ∨ letter = 'o' then
    match asNumber v with
    | some (.inl n) => .ok (integer layout letter n)
    | _ => .error .wrongArguments
  else if letter = 'f' ∨ letter = 'F' ∨ letter = 'e' ∨ letter = 'E' ∨ letter = 'g' ∨ letter = 'G' then
    match asNumber v with
    | some (.inl n) =>
      match Binary64.ofDecimal (n < 0) n.natAbs 0 with
      | .infinite _ => .error (.outOfRange "int too large to convert to float")
      | .negativeZero => .ok (floating layout letter (.finite 0))
      | x => .ok (floating layout letter x)
    | some (.inr x) => .ok (floating layout letter x)
    | none => .error .wrongArguments
  else
    let shown := if 31 ≤ letter.toNat ∧ letter.toNat < 127 then letter else '?'
    let code := String.ofList (Nat.toDigits 16 letter.toNat)
    .error (.badTemplate s!"unsupported format character '{shown}' (0x{code}) at index {index}")

/-- Reads the flags at the front. -/
def flags (layout : Layout) : List Char → Layout × List Char
  | '-' :: rest => flags { layout with left := true } rest
  | '+' :: rest => flags { layout with sign := true } rest
  | ' ' :: rest => flags { layout with blank := true } rest
  | '#' :: rest => flags { layout with alternate := true } rest
  | '0' :: rest => flags { layout with zero := true } rest
  | cs => (layout, cs)

/-- The name between brackets, which may hold brackets in pairs, and what follows its closing bracket. -/
def bracketed (depth : Nat) : List Char → Option (List Char × List Char)
  | [] => none
  | c :: rest =>
    if c = ')' && depth = 0 then some ([], rest)
    else
      let inner := if c = '(' then depth + 1 else if c = ')' then depth - 1 else depth
      (bracketed inner rest).map fun r => (c :: r.1, r.2)

/-- The arguments that are left: those in order, or the one value if no mark has taken it. -/
structure Supply where
  left : List Value
  names : Option Value

/-- The next argument in order. -/
def Supply.next (s : Supply) : Except Fault (Value × Supply) :=
  match s.left with
  | v :: rest => .ok (v, { s with left := rest })
  | [] => .error .wrongArguments

/-- What a width or a precision is: its name in messages, the word that holds it, and the greatest one. -/
structure Size where
  name : String
  word : String
  greatest : Nat

/-- Widths. -/
def Size.width : Size := ⟨"width", "ssize_t", 0x7fffffffffffffff⟩

/-- Precisions. -/
def Size.precision : Size := ⟨"precision", "int", 0x7fffffff⟩

/-- A width or precision that the next argument gives. -/
def Supply.nextSize (s : Supply) (size : Size) : Except Fault (Int × Supply) :=
  match s.next with
  | .ok (.int n, t) =>
    if -(size.greatest : Int) - 1 ≤ n ∧ n ≤ size.greatest then .ok (n, t)
    else .error (.outOfRange s!"Python int too large to convert to C {size.word}")
  | .ok (.bool b, t) => .ok (if b then 1 else 0, t)
  | _ => .error .wrongArguments

/-- The width or precision that digits at the front give. -/
def sizeAt (size : Size) (cs : List Char) : Except Fault (Nat × List Char) :=
  let digits := cs.takeWhile Char.isDigit
  let n := Text.digitsValue digits
  if n ≤ size.greatest then .ok (n, cs.drop digits.length)
  else .error (.badTemplate s!"{size.name} too big")

/-- Reads the width. -/
def widthAt (layout : Layout) (supply : Supply) (cs : List Char) :
    Except Fault (Layout × Supply × List Char) :=
  match cs with
  | '*' :: rest =>
    match supply.nextSize .width with
    | .error e => .error e
    | .ok (n, s) =>
      .ok ({ layout with left := layout.left || n < 0, width := n.natAbs }, s, rest)
  | _ => (sizeAt .width cs).map fun r => ({ layout with width := r.1 }, supply, r.2)

/-- Reads the precision. -/
def precisionAt (layout : Layout) (supply : Supply) (cs : List Char) :
    Except Fault (Layout × Supply × List Char) :=
  match cs with
  | '.' :: '*' :: rest =>
    match supply.nextSize .precision with
    | .error e => .error e
    | .ok (n, s) => .ok ({ layout with precision := some n.toNat }, s, rest)
  | '.' :: rest =>
    (sizeAt .precision rest).map fun r => ({ layout with precision := some r.1 }, supply, r.2)
  | _ => .ok (layout, supply, cs)

/-- The value of a name in an object. -/
def named (names : Option Value) (key : List Char) : Except Fault Value :=
  match names with
  | some (.object fields) =>
    match Fields.get? (String.ofList key) fields with
    | some v => .ok v
    | none => .error (.missingKey (String.ofList key))
  | _ => .error .wrongArguments

/-- One mark after its percent sign, if that is not followed by another one: what it writes, the arguments
left, and the rest. -/
def mark (total : Nat) (supply : Supply) (cs : List Char) :
    Except Fault (List Char × Supply × List Char) := do
  let (supply, cs) ← match cs with
    | '(' :: rest =>
      match supply.names, bracketed 0 rest with
      | none, _ => Except.error Fault.wrongArguments
      | some _, none => Except.error (Fault.badTemplate "incomplete format key")
      | some _, some (key, after) => do
        let v ← named supply.names key
        pure ({ supply with left := [v] }, after)
    | _ => pure (supply, cs)
  let (layout, cs) := flags {} cs
  let (layout, supply, cs) ← widthAt layout supply cs
  let (layout, supply, cs) ← precisionAt layout supply cs
  let cs := match cs with
    | 'h' :: rest | 'l' :: rest | 'L' :: rest => rest
    | _ => cs
  match cs with
  | [] => .error (.badTemplate "incomplete format")
  | letter :: rest =>
    let (v, supply) ← supply.next
    let written ← convert layout letter (total - cs.length) v
    pure (written, supply, rest)

/-- Fills the marks of a template one after another; the bound is the length of the template. -/
def fillFrom (total : Nat) : Nat → Supply → List Char → Except Fault (List Char × Supply)
  | 0, supply, _ => .ok ([], supply)
  | _, supply, [] => .ok ([], supply)
  | bound + 1, supply, '%' :: '%' :: rest =>
    (fillFrom total bound supply rest).map fun r => ('%' :: r.1, r.2)
  | bound + 1, supply, c :: rest =>
    if c != '%' then (fillFrom total bound supply rest).map fun r => (c :: r.1, r.2)
    else
      match mark total supply rest with
      | .error e => .error e
      | .ok (written, supply, after) =>
        (fillFrom total bound supply after).map fun r => (written ++ r.1, r.2)

/-- The values that an argument can also be asked for by name; a text can not. -/
def namesOf : Value → Option Value
  | .object fields => some (.object fields)
  | .array items => some (.array items)
  | _ => none

/-- Fills a template. Arguments in order must all be used. -/
def fill (template : String) (arguments : Arguments) : Except Fault String := do
  let cs := template.toList
  match arguments with
  | .inOrder values =>
    let (written, supply) ← fillFrom cs.length (cs.length + 1) ⟨values, none⟩ cs
    if supply.left.isEmpty then pure (String.ofList written) else .error .wrongArguments
  | .single v =>
    let (written, supply) ← fillFrom cs.length (cs.length + 1) ⟨[v], namesOf v⟩ cs
    if supply.left.isEmpty || supply.names.isSome then pure (String.ofList written)
    else .error .wrongArguments

end RequirePath.Log.Template
