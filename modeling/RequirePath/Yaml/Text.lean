import RequirePath.Json.Reader
import RequirePath.Path.Basic

/-! The texts inside a YAML document: plain, quoted and block scalars, read from the characters of the
document. A line end inside a scalar is folded into a blank or kept, as its style says. -/

namespace RequirePath.Yaml

/-- Why a document has no value. A text that ends too soon is malformed unless its source ends with a fault of
its own. -/
inductive Fault
  | malformed
  | unended
  | undecodable (fault : Utf8.Fault)
  | tooDeep
  | badValue (message : String)
  | overflow (message : String)
  | missingKey (key : String)
  | emptyText
  | tooManyDigits (count : Nat)
  | noOperation
  | wrongType
  deriving DecidableEq, Repr

/-- Characters that end a line. -/
def isBreak (c : Char) : Bool :=
  c == '\n' || c == '\r' || c == '\u0085' || c == '\u2028' || c == '\u2029'

/-- What a line end is read as. -/
def breakText (c : Char) : Char :=
  if c == '\u2028' || c == '\u2029' then c else '\n'

/-- A blank, a tab, a line end or the end of the document comes next. -/
def atGap : List Char → Bool
  | [] => true
  | c :: _ => c == ' ' || c == '\t' || isBreak c

/-- A blank, a line end or the end of the document comes next. -/
def atBlank : List Char → Bool
  | [] => true
  | c :: _ => c == ' ' || isBreak c

/-- A line end or the end of the document comes next. -/
def atLineEnd : List Char → Bool
  | [] => true
  | c :: _ => isBreak c

/-- A line that starts or ends a document comes next. -/
def atDocumentMark (cs : List Char) : Bool :=
  match cs with
  | '-' :: '-' :: '-' :: rest | '.' :: '.' :: '.' :: rest => atGap rest
  | _ => false

/-- The first number of characters and the others. -/
def span (p : Char → Bool) (cs : List Char) : List Char × List Char :=
  (cs.takeWhile p, cs.dropWhile p)

/-- The characters after blanks. -/
def skipBlanks (cs : List Char) : List Char :=
  cs.dropWhile (· == ' ')

/-- What stands for the line ends between two parts of a folded text: the first one alone is a blank, and
others after it are kept. -/
def folded (first : Char) (others : List Char) : List Char :=
  if breakText first != '\n' then breakText first :: others
  else if others.isEmpty then [' ']
  else others

/-! ### Plain scalars -/

/-- The line ends among line ends and blanks, and what follows; `none` if a mark of documents comes after
one of them. -/
def plainBreaks : Nat → List Char → Option (List Char × List Char)
  | 0, cs => some ([], cs)
  | bound + 1, cs =>
    match cs with
    | c :: rest =>
      if c == ' ' then plainBreaks bound rest
      else if isBreak c then
        if atDocumentMark rest then none
        else (plainBreaks bound rest).map fun r => (breakText c :: r.1, r.2)
      else some ([], cs)
    | [] => some ([], [])

/-- The characters of one run of a plain scalar. -/
def plainRun (flow : Bool) : List Char → List Char × List Char
  | [] => ([], [])
  | c :: rest =>
    let flowMark (d : Char) : Bool := d == ',' || d == '[' || d == ']' || d == '\x7b' || d == '\x7d'
    let colonEnds : Bool := atGap rest || (flow && rest.head?.any flowMark)
    if c == ' ' || c == '\t' || isBreak c || (c == ':' && colonEnds) ||
        (flow && (flowMark c || c == '?')) then ([], c :: rest)
    else
      let r := plainRun flow rest
      (c :: r.1, r.2)

/-- The number of blanks at the end of what lies between two lists, up to a line end. -/
def columnAfter (before after : List Char) : Nat :=
  ((before.take (before.length - after.length)).reverse.takeWhile (· == ' ')).length

/-- Reads a plain scalar that stands deeper than `indent` columns: its text, whether a line end comes after
its last run, and what follows. -/
def plain (flow : Bool) (indent : Int) : Nat → List Char → List Char × Bool × List Char
  | 0, cs => ([], false, cs)
  | bound + 1, cs =>
    if cs.head? == some '#' then ([], false, cs)
    else
      let (run, rest) := plainRun flow cs
      if run.isEmpty then ([], false, cs)
      else
        let (blanks, after) := span (· == ' ') rest
        match after with
        | c :: more =>
          if isBreak c then
            if atDocumentMark more then (run, true, more)
            else
              match plainBreaks more.length more with
              | none =>
                (run, true, more.dropWhile fun d => d == ' ' || isBreak d)
              | some (breaks, next) =>
                let column : Int := columnAfter more next
                if next.head? == some '#' || (!flow && column < indent) then (run, true, next)
                else
                  let (text, crossed, left) := plain flow indent bound next
                  if text.isEmpty then (run, true, next) else (run ++ folded c breaks ++ text, crossed, left)
          else if blanks.isEmpty || c == '#' then (run, false, after)
          else
            let (text, crossed, left) := plain flow indent bound after
            if text.isEmpty then (run, false, after) else (run ++ blanks ++ text, crossed, left)
        | [] => (run, false, [])

/-! ### Quoted scalars -/

/-- The line ends among blanks and line ends, and what follows; a mark of documents must not come. -/
def quotedBreaks : Nat → List Char → Except Fault (List Char × List Char)
  | 0, cs => .ok ([], cs)
  | bound + 1, cs =>
    if atDocumentMark cs then .error .malformed
    else
      match cs.dropWhile (fun c => c == ' ' || c == '\t') with
      | c :: rest =>
        if isBreak c then (quotedBreaks bound rest).map fun r => (breakText c :: r.1, r.2)
        else .ok ([], c :: rest)
      | [] => .ok ([], [])

/-- The character that a one-letter escape stands for. -/
def escapedChar? (c : Char) : Option Char :=
  match c with
  | '0' => some '\x00'
  | 'a' => some '\x07'
  | 'b' => some '\x08'
  | 't' | '\t' => some '\t'
  | 'n' => some '\n'
  | 'v' => some '\x0b'
  | 'f' => some '\x0c'
  | 'r' => some '\r'
  | 'e' => some '\x1b'
  | ' ' => some ' '
  | '\x22' => some '\x22'
  | '/' => some '/'
  | '\\' => some '\\'
  | 'N' => some '\u0085'
  | '_' => some '\u00a0'
  | 'L' => some '\u2028'
  | 'P' => some '\u2029'
  | _ => none

/-- The number of hexadecimal digits that follow the letter of an escape. -/
def escapeLength? (c : Char) : Option Nat :=
  match c with
  | 'x' => some 2
  | 'u' => some 4
  | 'U' => some 8
  | _ => none

/-- The character of a number, which must not be too large. -/
def charOfNumber (n : Nat) : Except Fault Char :=
  if 0x80000000 ≤ n then .error (.overflow "Python int too large to convert to C int")
  else if 0x110000 ≤ n then .error (.badValue "chr() arg not in range(0x110000)")
  else .ok (Json.charOfUnit n)

/-- The character that a number of hexadecimal digits name, from the characters where they start. -/
def charOfHex (count : Nat) (cs : List Char) : Except Fault Char :=
  let digits := (cs.take count).map Text.hexDigit?
  if digits.any Option.isNone then .error .malformed
  else if digits.length < count then .error .unended
  else charOfNumber (digits.foldl (fun n d => n * 16 + d.getD 0) 0)

/-- Reads a quoted scalar after its opening quote, up to its closing one. -/
def quoted (double : Bool) : Nat → List Char → Except Fault (List Char × List Char)
  | 0, _ => .error .malformed
  | _, [] => .error .unended
  | bound + 1, c :: rest =>
    if double && c == '\\' then
      match rest with
      | [] => .error .unended
      | d :: more =>
        match escapedChar? d, escapeLength? d with
        | some e, _ => (quoted double bound more).map fun r => (e :: r.1, r.2)
        | none, some n =>
          match charOfHex n more with
          | .error e => .error e
          | .ok e => (quoted double bound (more.drop n)).map fun r => (e :: r.1, r.2)
        | none, none =>
          if isBreak d then
            match quotedBreaks more.length more with
            | .error e => .error e
            | .ok (breaks, next) => (quoted double bound next).map fun r => (breaks ++ r.1, r.2)
          else .error .malformed
    else if !double && c == '\x27' then
      match rest with
      | '\x27' :: more => (quoted double bound more).map fun r => ('\x27' :: r.1, r.2)
      | _ => .ok ([], rest)
    else if double && c == '\x22' then .ok ([], rest)
    else if c == ' ' || c == '\t' || isBreak c then
      let (blanks, after) := span (fun d => d == ' ' || d == '\t') (c :: rest)
      match after with
      | [] => .error .unended
      | d :: more =>
        if isBreak d then
          match quotedBreaks more.length more with
          | .error e => .error e
          | .ok (breaks, next) => (quoted double bound next).map fun r => (folded d breaks ++ r.1, r.2)
        else (quoted double bound after).map fun r => (blanks ++ r.1, r.2)
    else (quoted double bound rest).map fun r => (c :: r.1, r.2)

/-! ### Block scalars -/

/-- What happens to the line ends at the end of a block scalar. -/
inductive Chomping
  | strip
  | clip
  | keep
  deriving DecidableEq, Repr

/-- The marks after the sign of a block scalar: what happens at its end, and how deep it stands. -/
def blockMarks (cs : List Char) : Except Fault (Chomping × Option Nat × List Char) :=
  let chomping (c : Char) : Option Chomping :=
    if c == '+' then some .keep else if c == '-' then some .strip else none
  let depth (c : Char) : Option Nat := if c.isDigit then some (c.toNat - 48) else none
  let result (ch : Chomping) (n : Option Nat) (rest : List Char) : Except Fault (Chomping × Option Nat × List Char) :=
    if n = some 0 || !atBlank rest then .error .malformed else .ok (ch, n, rest)
  match cs with
  | [] => result .clip none []
  | c :: rest =>
    match chomping c, depth c with
    | some ch, _ =>
      match rest with
      | d :: more =>
        match depth d with
        | some n => result ch (some n) more
        | none => result ch none rest
      | [] => result ch none []
    | none, some n =>
      match rest with
      | d :: more =>
        match chomping d with
        | some ch => result ch (some n) more
        | none => result .clip (some n) rest
      | [] => result .clip (some n) []
    | none, none => result .clip none cs

/-- The characters after the rest of a line that may only hold a comment. -/
def skipComment (cs : List Char) : Except Fault (List Char) :=
  let after := skipBlanks cs
  let after := if after.head? == some '#' then after.dropWhile (!isBreak ·) else after
  match after with
  | [] => .ok []
  | c :: rest => if isBreak c then .ok rest else .error .malformed

/-- The line ends before the first line of a block scalar, the greatest column that blanks reach there, and
what follows; `column` is the column of the place. -/
def blockLead : Nat → Nat → List Char → List Char × Nat × Nat × List Char
  | _, column, [] => ([], column, column, [])
  | 0, column, cs => ([], column, column, cs)
  | bound + 1, column, c :: rest =>
    if c == ' ' then
      let (breaks, deepest, last, after) := blockLead bound (column + 1) rest
      (breaks, max deepest (column + 1), last, after)
    else if isBreak c then
      let (breaks, deepest, last, after) := blockLead bound 0 rest
      (breakText c :: breaks, deepest, last, after)
    else ([], column, column, c :: rest)

/-- Leaves out blanks up to a depth: the column that is reached and what follows. -/
def indentation (depth column : Nat) : List Char → Nat × List Char
  | ' ' :: rest => if column < depth then indentation depth (column + 1) rest else (column, ' ' :: rest)
  | cs => (column, cs)

/-- The line ends before the next line of a block scalar, the column that its blanks reach, and what
follows. -/
def blockBreaks (depth : Nat) : Nat → Nat → List Char → List Char × Nat × List Char
  | 0, column, cs => ([], column, cs)
  | bound + 1, column, cs =>
    let (reached, after) := indentation depth column cs
    match after with
    | c :: rest =>
      if isBreak c then
        let (breaks, last, left) := blockBreaks depth bound 0 rest
        (breakText c :: breaks, last, left)
      else ([], reached, after)
    | [] => ([], reached, [])

/-- Reads the lines of a block scalar from a place in the given column. -/
def blockLines (fold : Bool) (chomping : Chomping) (depth : Nat) :
    Nat → List Char → Nat → List Char → List Char × List Char
  | 0, _, _, cs => ([], cs)
  | bound + 1, breaks, column, cs =>
    if column != depth || cs.isEmpty then
      (if chomping = .keep then breaks else [], cs)
    else
      let starts (text : List Char) : Bool := text.head?.any fun c => !(c == ' ' || c == '\t')
      let (line, after) := span (!isBreak ·) cs
      let (ending, rest) : List Char × List Char := match after with
        | c :: more => ([breakText c], more)
        | [] => ([], [])
      let (nextBreaks, nextColumn, next) := blockBreaks depth (rest.length + 1) 0 rest
      if nextColumn = depth && !next.isEmpty then
        let joint :=
          if fold && ending = ['\n'] && starts cs && starts next then if nextBreaks.isEmpty then [' '] else []
          else ending
        let (text, left) := blockLines fold chomping depth bound nextBreaks nextColumn next
        (breaks ++ line ++ joint ++ text, left)
      else
        let tail := match chomping with
          | .strip => []
          | .clip => ending
          | .keep => ending ++ nextBreaks
        (breaks ++ line ++ tail, next)

/-- Reads a block scalar after its sign; `indent` is the column of the block it stands in. -/
def block (fold : Bool) (indent : Int) (cs : List Char) : Except Fault (List Char × List Char) := do
  let (chomping, marked, afterMarks) ← blockMarks cs
  let body ← skipComment afterMarks
  let least := max (indent + 1) 1
  match marked with
  | some n =>
    let depth := (least + n - 1).toNat
    let (breaks, column, rest) := blockBreaks depth (body.length + 1) 0 body
    pure (blockLines fold chomping depth (body.length + 1) breaks column rest)
  | none =>
    let (breaks, deepest, column, rest) := blockLead (body.length + 1) 0 body
    let depth := max least.toNat deepest
    pure (blockLines fold chomping depth (body.length + 1) breaks column rest)

end RequirePath.Yaml
