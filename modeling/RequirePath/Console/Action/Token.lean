import RequirePath.Text.Digits
import RequirePath.Text.Line
import RequirePath.Text.Word

/-! The tokens of an expression: names, words of the language, numbers, texts and signs. Each token knows how
many brackets are open after it and on which line it starts. What is no token shows as a fault in its place. -/

namespace RequirePath.Action

/-- The kinds of tokens. A fault is grave if it counts even behind the place where reading stops. -/
inductive Kind
  | name
  | word
  | number
  | text
  | lineEnd
  | indent
  | ending
  | broken (grave : Bool) (message : String)
  deriving DecidableEq, Repr

/-- A token. -/
structure Token where
  kind : Kind
  chars : List Char := []
  level : Nat := 0
  line : Nat := 1
  deriving DecidableEq, Repr

/-- The words that are no names. -/
def keywords : List String :=
  ["False", "None", "True", "and", "as", "assert", "async", "await", "break", "class", "continue", "def",
    "del", "elif", "else", "except", "finally", "for", "from", "global", "if", "import", "in", "is",
    "lambda", "nonlocal", "not", "or", "pass", "raise", "return", "try", "while", "with", "yield"]

/-- The signs of more than one character, the longest first. -/
def signs : List String :=
  ["**=", "//=", ">>=", "<<=", "...", "!=", "%=", "&=", "**", "*=", "+=", "-=", "->", "//", "/=", ":=",
    "<<", "<=", "<>", "==", ">=", ">>", "@=", "^=", "|="]

/-- Characters that go on with a name as far as they are read with it. -/
def continuesName (c : Char) : Bool :=
  c.isAlphanum || c == '_' || 0x80 ≤ c.toNat

/-! ### Numbers -/

/-- The wording of a number that is none. -/
def badNumber (name : String) : String := s!"invalid {name} literal"

/-- Reads digits to their end, with single underscores between them. -/
def decimalTail : List Char → Except String (List Char)
  | [] => .ok []
  | ['_'] => .error (badNumber "decimal")
  | '_' :: d :: rest => if d.isDigit then decimalTail rest else .error (badNumber "decimal")
  | d :: rest => if d.isDigit then decimalTail rest else .ok (d :: rest)

/-- Words of the language that may follow a number without a blank, by their first character. -/
def mayFollow : List Char → Bool
  | 'a' :: 'n' :: 'd' :: rest | 'f' :: 'o' :: 'r' :: rest | 'n' :: 'o' :: 't' :: rest | 'o' :: 'r' :: rest
  | 'e' :: 'l' :: 's' :: 'e' :: rest => !(rest.head?.any continuesName)
  | 'i' :: c :: _ => c == 'f' || c == 'n' || c == 's'
  | _ => false

/-- A number ends here: no letter, digit or underscore goes on from it. -/
def numberEnd (name : String) (rest : List Char) : Except String (List Char) :=
  if !mayFollow rest && rest.head?.any fun c => c.isAlphanum || c == '_' then .error (badNumber name)
  else .ok rest

/-- Reads the digits of a base after its mark. -/
def basedTail (base : Nat) (name : String) : Nat → List Char → Except String (List Char)
  | 0, _ => .error (badNumber name)
  | bound + 1, cs =>
    let isDigit (c : Char) : Bool := (Text.hexDigit? c).any (· < base)
    let strange (c : Char) : Except String (List Char) :=
      if c.isDigit then .error s!"invalid digit '{c}' in {name} literal" else .error (badNumber name)
    match cs.drop (if cs.head? == some '_' then 1 else 0) with
    | [] => .error (badNumber name)
    | c :: rest =>
      if !isDigit c then strange c
      else
        match rest.dropWhile isDigit with
        | '_' :: more => basedTail base name bound ('_' :: more)
        | d :: more => if d.isDigit then strange d else numberEnd name (d :: more)
        | [] => .ok []

/-- Reads the end of a number with a fraction or an exponent, or of one that is imaginary. -/
def suffix (rest : List Char) : Except String (List Char) :=
  match rest with
  | 'j' :: more | 'J' :: more => numberEnd "imaginary" more
  | _ => numberEnd "decimal" rest

/-- Reads an exponent, if one comes next, and the end of the number. -/
def exponentTail (cs : List Char) : Except String (List Char) :=
  match cs with
  | e :: rest =>
    if e == 'e' || e == 'E' then
      match rest with
      | sign :: more =>
        if sign == '+' || sign == '-' then
          if more.head?.any Char.isDigit then do suffix (← decimalTail more)
          else .error (badNumber "decimal")
        else if sign.isDigit then do suffix (← decimalTail rest)
        else numberEnd "decimal" cs
      | [] => numberEnd "decimal" cs
    else suffix cs
  | [] => .ok []

/-- Reads a fraction after its point, and the end of the number. -/
def fractionTail (cs : List Char) : Except String (List Char) :=
  if cs.head?.any Char.isDigit then do exponentTail (← decimalTail cs) else exponentTail cs

/-- The wording of a number with zeros at its start. -/
def leadingZeros : String :=
  "leading zeros in decimal integer literals are not permitted; use an 0o prefix for octal integers"

/-- Reads a number: what is left after it. -/
def numberTail (cs : List Char) : Except String (List Char) :=
  let bound := cs.length + 1
  match cs with
  | '.' :: rest => fractionTail rest
  | '0' :: 'x' :: rest | '0' :: 'X' :: rest => basedTail 16 "hexadecimal" bound rest
  | '0' :: 'o' :: rest | '0' :: 'O' :: rest => basedTail 8 "octal" bound rest
  | '0' :: 'b' :: rest | '0' :: 'B' :: rest => basedTail 2 "binary" bound rest
  | _ => do
    let rest ← decimalTail cs
    let digits := (cs.take (cs.length - rest.length)).filter (· != '_')
    match rest with
    | '.' :: more => fractionTail more
    | c :: _ =>
      if c == 'e' || c == 'E' || c == 'j' || c == 'J' then exponentTail rest else whole digits rest
    | [] => whole digits rest
where
  /-- Reads the end of a number without a fraction, which starts with no zero unless it is zero. -/
  whole (digits rest : List Char) : Except String (List Char) :=
    if digits.head? == some '0' && digits.any (· != '0') then .error leadingZeros else numberEnd "decimal" rest

/-! ### Texts and names -/

/-- The letters that may stand before a text: a mark of bytes, of an old text or of a form, and one of a raw
text. -/
def textMarks : List String := ["", "b", "r", "u", "f", "br", "rb", "fr", "rf"]

/-- The marks of a text that comes next, and its quote. -/
def textStart? (cs : List Char) : Option (List Char × Char) :=
  let marks := cs.takeWhile fun c => c.isAlpha
  match cs.drop marks.length with
  | quote :: _ =>
    if (quote == '\x27' || quote == '\x22') && textMarks.contains (String.ofList (marks.map Char.toLower)) then
      some (marks, quote)
    else none
  | [] => none

/-- What is left after a text between single quotes, if it ends on its line. -/
def shortTail (quote : Char) : List Char → Option (List Char)
  | [] | '\n' :: _ => none
  | '\\' :: _ :: rest => shortTail quote rest
  | c :: rest => if c = quote then some rest else shortTail quote rest

/-- What is left after a text between triple quotes. -/
def longTail (quote : Char) : List Char → Option (List Char)
  | a :: b :: c :: rest =>
    if a = '\\' then longTail quote (c :: rest)
    else if a = quote && b = quote && c = quote then some rest
    else longTail quote (b :: c :: rest)
  | _ => none

/-- The number of line ends in a text. -/
def lineEnds (cs : List Char) : Nat :=
  cs.count '\n'

/-- Reads a text between quotes: what is left after it. -/
def textTail (line : Nat) (quote : Char) (cs : List Char) : Except String (List Char) :=
  match cs with
  | a :: b :: rest =>
    if a = quote && b = quote then
      match longTail quote rest with
      | some more => .ok more
      | none => .error s!"unterminated triple-quoted string literal (detected at line {line + lineEnds rest})"
    else short
  | _ => short
where
  /-- Reads a text between single quotes. -/
  short : Except String (List Char) :=
    match shortTail quote cs with
    | some more => .ok more
    | none =>
      let skipped := cs.length - (unended cs).length
      .error s!"unterminated string literal (detected at line {line + lineEnds (cs.take skipped)})"
  /-- What is left where a text between single quotes stops without its end. -/
  unended : List Char → List Char
    | '\\' :: _ :: rest => unended rest
    | '\n' :: rest => '\n' :: rest
    | _ :: rest => unended rest
    | [] => []

/-- The wording of a character that no token holds. -/
def strangeChar (c : Char) : String :=
  let code := String.ofList ((Nat.toDigits 16 c.toNat).map Char.toUpper)
  let number := String.ofList (List.replicate (4 - code.length) '0') ++ code
  if Text.isPrintable c then s!"invalid character '{c}' (U+{number})"
  else s!"invalid non-printable character U+{number}"

/-- The token of a name or a word of the language. -/
def nameToken (chars : List Char) : Kind :=
  let rest (cs : List Char) : List Char := cs.dropWhile Text.isNameChar
  let strange : Option Char := match chars with
    | c :: more => if Text.startsName c then (rest more).head? else some c
    | [] => none
  match strange with
  | some c => .broken true (strangeChar c)
  | none => if keywords.contains (String.ofList chars) then .word else .name

/-! ### Signs -/

/-- A bracket that is open, and its line. -/
structure Bracket where
  char : Char
  line : Nat

/-- The greatest number of brackets that may be open. -/
def levelLimit : Nat := 200

/-- The bracket that closes another. -/
def closes (opening closing : Char) : Bool :=
  (opening == '(' && closing == ')') || (opening == '[' && closing == ']') ||
    (opening == '\x7b' && closing == '\x7d')

/-- The brackets that are open after a sign, or what is wrong with it. -/
def bracketsAfter (line : Nat) (brackets : List Bracket) (c : Char) : Except String (List Bracket) :=
  if c == '(' || c == '[' || c == '\x7b' then
    if levelLimit ≤ brackets.length then .error "too many nested parentheses"
    else .ok (⟨c, line⟩ :: brackets)
  else if c == ')' || c == ']' || c == '\x7d' then
    match brackets with
    | [] => .error s!"unmatched '{c}'"
    | b :: outer =>
      if closes b.char c then .ok outer
      else
        let place := if b.line = line then "" else s!" on line {b.line}"
        .error (s!"closing parenthesis '{c}' does not match opening parenthesis '{b.char}'" ++ place)
  else .ok brackets

/-- The sign that comes next: one of several characters, or any single one. -/
def sign (cs : List Char) : List Char :=
  match signs.find? fun s => s.toList.isPrefixOf cs with
  | some s => s.toList
  | none => cs.take 1

/-! ### Scanning -/

/-- The tokens at the end: the last line ends, unless a bracket is open. -/
def endTokens (line : Nat) (brackets : List Bracket) : List Token :=
  match brackets with
  | b :: _ =>
    [{ kind := .broken false s!"'{b.char}' was never closed", level := brackets.length, line := b.line }]
  | [] => [{ kind := .lineEnd, line }, { kind := .ending, line }]

/-- A fault in the place of a token. -/
def fault (line : Nat) (brackets : List Bracket) (grave : Bool) (message : String) : List Token :=
  [{ kind := .broken grave message, level := brackets.length, line }]

/-- A blank within a line. -/
def isGap (c : Char) : Bool := c == ' ' || c == '\t' || c == '\x0c'

/-- Cuts a text into tokens. At the start of a line blanks are an indent, if they do not end in a form feed. -/
def scan (atStart : Bool) (line : Nat) (brackets : List Bracket) : Nat → List Char → List Token
  | 0, _ => []
  | _, [] => endTokens line brackets
  | bound + 1, c :: rest =>
    let level := brackets.length
    let token (kind : Kind) (after : List Char) : List Token :=
      let chars := (c :: rest).take (rest.length + 1 - after.length)
      match kind with
      | .broken grave message => fault line brackets grave message
      | _ => { kind, chars, level, line } :: scan false (line + lineEnds chars) brackets bound after
    if isGap c then
      let after := rest.dropWhile isGap
      let blank : Bool := match after with
        | [] => true
        | d :: _ => d == '\n' || d == '#'
      let indents : Bool := ((c :: rest).takeWhile isGap).getLast? != some '\x0c'
      if atStart && indents && !blank then { kind := .indent, line } :: scan false line brackets bound after
      else scan atStart line brackets bound after
    else if c == '#' then scan atStart line brackets bound (rest.dropWhile (· != '\n'))
    else if c == '\n' then
      if level = 0 && !atStart then { kind := .lineEnd, line } :: scan true (line + 1) brackets bound rest
      else scan atStart (line + 1) brackets bound rest
    else if c == '\\' then
      match rest with
      | ['\n'] =>
        if level = 0 then fault line brackets false "unexpected EOF while parsing" else endTokens line brackets
      | '\n' :: more => scan false (line + 1) brackets bound more
      | _ => fault line brackets false "unexpected character after line continuation character"
    else if c.isDigit || (c == '.' && rest.head?.any Char.isDigit) then
      match numberTail (c :: rest) with
      | .ok after => token .number after
      | .error message => fault line brackets true message
    else
      match textStart? (c :: rest) with
      | some (marks, quote) =>
        match textTail line quote ((c :: rest).drop (marks.length + 1)) with
        | .ok after => token .text after
        | .error message => fault line brackets true message
      | none =>
        if continuesName c then
          let after := rest.dropWhile continuesName
          token (nameToken ((c :: rest).take (rest.length + 1 - after.length))) after
        else if c.toNat < 0x20 || c.toNat == 0x7F then fault line brackets true (strangeChar c)
        else
          let chars := sign (c :: rest)
          match bracketsAfter line brackets c with
          | .error message => fault line brackets true message
          | .ok brackets =>
            { kind := .word, chars, level := brackets.length, line } ::
              scan false line brackets bound ((c :: rest).drop chars.length)

/-- The tokens of a text. -/
def tokens (cs : List Char) : List Token :=
  if cs.contains '\x00' then [{ kind := .broken true "source code string cannot contain null bytes" }]
  else
    let cs := Text.unifyNewlines cs
    scan true 1 [] (cs.length + 1) cs

end RequirePath.Action
