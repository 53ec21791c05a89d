import RequirePath.Yaml.Source

/-! The tokens of a YAML document. Blocks are marked by indentation: a deeper column opens a block and a
shallower one closes it. Whether a text is the key of a mapping shows only at the colon after it, so a key
is marked afterwards, at the place where it started, and a token is there for a reader once no key can be
marked before it. A fault ends the tokens. -/

namespace RequirePath.Yaml

/-- How a scalar is written, as far as its value depends on it. -/
inductive Style
  | plain
  | quoted
  deriving DecidableEq, Repr

/-- One token. -/
inductive Token
  | versionDirective (major : Nat)
  | tagDirective (handle lead : String)
  | otherDirective
  | documentStart
  | documentEnd
  | blockSequence
  | blockMapping
  | blockEnd
  | flowSequence
  | flowSequenceEnd
  | flowMapping
  | flowMappingEnd
  | entry
  | separator
  | key
  | value
  | alias (name : String)
  | anchor (name : String)
  | tag (handle : Option String) (suffix : String)
  | scalar (text : String) (style : Style)
  | broken (fault : Fault)
  deriving DecidableEq, Repr

namespace Token

/-- A place where a key may have started: the number of tokens before it, and where it is. A key that stands
first in its block must be one. -/
structure KeyStart where
  tokens : Nat
  required : Bool
  offset : Nat
  line : Nat
  column : Nat

/-- How far the document has been read. -/
structure Scan where
  left : List Char
  ending : Option Fault := none
  offset : Nat := 0
  line : Nat := 0
  column : Nat := 0
  indent : Int := -1
  indents : List Int := []
  keyAllowed : Bool := true
  keyStarts : List (Option KeyStart) := [none]
  tokens : Array Token := #[]

namespace Scan

/-- The nesting of flow collections. -/
def depth (s : Scan) : Nat := s.keyStarts.length - 1

/-- Inside a flow collection. -/
def inFlow (s : Scan) : Bool := 0 < s.depth

/-- Goes past characters one by one; line ends start a new line and a byte order mark takes no column. -/
def pass (s : Scan) : Nat → Scan
  | 0 => s
  | n + 1 =>
    match s.left with
    | [] => s
    | c :: rest =>
      let next :=
        if isBreak c then { s with left := rest, offset := s.offset + 1, line := s.line + 1, column := 0 }
        else if c == '\ufeff' then { s with left := rest, offset := s.offset + 1 }
        else { s with left := rest, offset := s.offset + 1, column := s.column + 1 }
      pass next n

/-- Goes on to where only `rest` is left. -/
def passTo (s : Scan) (rest : List Char) : Scan :=
  s.pass (s.left.length - rest.length)

/-- Adds a token. -/
def emit (s : Scan) (t : Token) : Scan :=
  { s with tokens := s.tokens.push t }

/-- Forgets the place where a key may have started in the innermost collection, unless it must be one. -/
def dropKeyStart (s : Scan) : Except Fault Scan :=
  match s.keyStarts with
  | some k :: outer => if k.required then .error .malformed else .ok { s with keyStarts := none :: outer }
  | _ => .ok s

/-- A place from which the current one is too far away to be its colon. -/
def isStale (s : Scan) (k : KeyStart) : Bool :=
  k.line != s.line || 1024 < s.offset - k.offset

/-- Forgets the places that are too far away, unless one must be a key. -/
def dropStale (s : Scan) : Except Fault Scan :=
  if s.keyStarts.any fun k => k.any fun k => s.isStale k && k.required then .error .malformed
  else .ok { s with keyStarts := s.keyStarts.map fun k => k.filter fun k => !s.isStale k }

/-- Notes that a key may start here. -/
def noteKeyStart (s : Scan) : Except Fault Scan :=
  if s.keyAllowed then
    match s.dropKeyStart with
    | .error e => .error e
    | .ok s =>
      let start : KeyStart :=
        ⟨s.tokens.size, !s.inFlow && s.indent == (s.column : Int), s.offset, s.line, s.column⟩
      .ok { s with keyStarts := some start :: s.keyStarts.drop 1 }
  else .ok s

/-- Closes the blocks that are deeper than a column. -/
def closeBlocks (column : Int) : Nat → Scan → Scan
  | 0, s => s
  | bound + 1, s =>
    if column < s.indent then
      match s.indents with
      | outer :: more => closeBlocks column bound ({ s with indent := outer, indents := more }.emit .blockEnd)
      | [] => s
    else s

/-- Closes the blocks that are deeper than a column; flow collections ignore columns. -/
def unwind (s : Scan) (column : Int) : Scan :=
  if s.inFlow then s else closeBlocks column s.indents.length s

/-- Opens a block if the column is deeper than the current one. -/
def openBlock (s : Scan) (column : Nat) : Option Scan :=
  if s.indent < column then some { s with indents := s.indent :: s.indents, indent := column } else none

/-- Goes past blanks, comments and line ends. -/
def skipGap : Nat → Scan → Scan
  | 0, s => s
  | bound + 1, s =>
    let s := s.passTo (skipBlanks s.left)
    let s := if s.left.head? == some '#' then s.passTo (s.left.dropWhile (!isBreak ·)) else s
    match s.left with
    | c :: _ =>
      if isBreak c then
        let s := s.pass 1
        skipGap bound (if s.inFlow then s else { s with keyAllowed := true })
      else s
    | [] => s

/-- A letter, a digit, a hyphen or an underscore. -/
def isWord (c : Char) : Bool :=
  c.isAlphanum || c == '-' || c == '_'

/-- Characters of a tag besides escapes. -/
def isTagChar (c : Char) : Bool :=
  c.isAlphanum || "-;/?:@&=+$,_.!~*'()[]".toList.contains c

/-- Reads the characters of a tag, with escaped bytes that must be text together. -/
def tagText : Nat → List UInt8 → List Char → Except Fault (List Char × List Char)
  | 0, _, _ => .error .malformed
  | bound + 1, pending, cs =>
    let flush : Except Fault (List Char) :=
      match Utf8.decode? pending with
      | some text => .ok text
      | none => .error .malformed
    match cs with
    | '%' :: a :: b :: rest =>
      match Text.hexDigit? a, Text.hexDigit? b with
      | some x, some y => tagText bound (pending ++ [(x * 16 + y).toUInt8]) rest
      | _, _ => .error .malformed
    | '%' :: _ => .error .malformed
    | c :: rest =>
      if isTagChar c then
        match flush, tagText bound [] rest with
        | .ok before, .ok (text, left) => .ok (before ++ c :: text, left)
        | .error e, _ => .error e
        | _, .error e => .error e
      else flush.map fun before => (before, c :: rest)
    | [] => flush.map fun before => (before, [])

/-- Reads the characters of a tag, of which there is at least one. -/
def someTagText (cs : List Char) : Except Fault (String × List Char) :=
  match tagText (cs.length + 1) [] cs with
  | .error e => .error e
  | .ok (text, rest) =>
    if rest.length = cs.length then .error .malformed else .ok (String.ofList text, rest)

/-- Reads a handle of tags: an exclamation mark, or a word between two. -/
def tagHandle (cs : List Char) : Except Fault (String × List Char) :=
  match cs with
  | '!' :: rest =>
    if rest.head? == some ' ' then .ok ("!", rest)
    else
      let (word, after) := span isWord rest
      match after with
      | '!' :: more => .ok (String.ofList ('!' :: word ++ ['!']), more)
      | _ => .error .malformed
  | _ => .error .malformed

/-- Reads the number of a version. -/
def versionNumber (cs : List Char) : Except Fault (Nat × List Char) :=
  let (digits, rest) := span Char.isDigit cs
  if digits.isEmpty then .error .malformed else .ok (Text.digitsValue digits, rest)

/-- Reads a directive from its percent sign on. -/
def directive (cs : List Char) : Except Fault (Token × List Char) := do
  let (name, rest) := span isWord (cs.drop 1)
  if name.isEmpty || !atBlank rest then .error .malformed
  else
    let (token, after) ← match String.ofList name with
      | "YAML" => do
        let (major, rest) ← versionNumber (skipBlanks rest)
        match rest with
        | '.' :: rest => do
          let (_, rest) ← versionNumber rest
          if atBlank rest then pure (Token.versionDirective major, rest) else .error .malformed
        | _ => .error .malformed
      | "TAG" => do
        let (handle, rest) ← tagHandle (skipBlanks rest)
        if rest.head? != some ' ' then .error .malformed
        else
          let (lead, rest) ← someTagText (skipBlanks rest)
          if atBlank rest then pure (Token.tagDirective handle lead, rest) else .error .malformed
      | _ => pure (Token.otherDirective, rest.dropWhile (!isBreak ·))
    let after ← skipComment after
    pure (token, after)

/-- Reads the name of an anchor or an alias after its sign. -/
def anchorName (cs : List Char) : Except Fault (String × List Char) :=
  let (name, rest) := span isWord cs
  let ends : Bool := atGap rest || rest.head?.any fun c => ("?:,]\x7d%@".toList ++ [Char.ofNat 96]).contains c
  if name.isEmpty || !ends then .error .malformed else .ok (String.ofList name, rest)

/-- Reads a tag from its exclamation mark on. -/
def tag (cs : List Char) : Except Fault (Token × List Char) := do
  let (token, rest) ← match cs.drop 1 with
    | '<' :: rest => do
      let (suffix, after) ← someTagText rest
      match after with
      | '>' :: after => pure (Token.tag none suffix, after)
      | _ => .error .malformed
    | rest =>
      if atGap rest then pure (Token.tag none "!", rest)
      else if (rest.takeWhile fun c => c != ' ' && !isBreak c).contains '!' then do
        let (handle, after) ← tagHandle cs
        let (suffix, after) ← someTagText after
        pure (Token.tag (some handle) suffix, after)
      else do
        let (suffix, after) ← someTagText rest
        pure (Token.tag (some "!") suffix, after)
  if atBlank rest then pure (token, rest) else .error .malformed

/-- Opens a flow collection. -/
def openFlow (s : Scan) (t : Token) : Except Fault Scan := do
  let s ← s.noteKeyStart
  pure ({ s with keyStarts := none :: s.keyStarts, keyAllowed := true }.emit t |>.pass 1)

/-- Closes a flow collection, of which there must be one. -/
def closeFlow (s : Scan) (t : Token) : Except Fault Scan := do
  let s ← s.dropKeyStart
  if s.inFlow then
    pure ({ s with keyStarts := s.keyStarts.drop 1, keyAllowed := false }.emit t |>.pass 1)
  else .error .malformed

/-- Inserts a token before the token of a number. -/
def insert (s : Scan) (place : Nat) (t : Token) : Scan :=
  { s with tokens := s.tokens.insertIdxIfInBounds place t }

/-- A colon: what started at the noted place is a key, or the key is empty or was marked. -/
def colon (s : Scan) : Except Fault Scan := do
  match s.keyStarts with
  | some k :: outer =>
    let s := { s with keyStarts := none :: outer }.insert k.tokens .key
    let s := if s.inFlow then s else
      match s.openBlock k.column with
      | some s => s.insert k.tokens .blockMapping
      | none => s
    pure ({ s with keyAllowed := false }.emit .value |>.pass 1)
  | _ =>
    if !s.inFlow && !s.keyAllowed then .error .malformed
    else
      let s := if s.inFlow then s else
        match s.openBlock s.column with
        | some s => s.emit .blockMapping
        | none => s
      let s := { s with keyAllowed := !s.inFlow }
      pure (s.emit .value |>.pass 1)

/-- A question mark, which marks a key. -/
def question (s : Scan) : Except Fault Scan := do
  if !s.inFlow && !s.keyAllowed then .error .malformed
  else
    let s := if s.inFlow then s else
      match s.openBlock s.column with
      | some s => s.emit .blockMapping
      | none => s
    let s ← { s with keyAllowed := !s.inFlow }.dropKeyStart
    pure (s.emit .key |>.pass 1)

/-- A hyphen, which starts an entry of a sequence. -/
def hyphen (s : Scan) : Except Fault Scan := do
  if !s.inFlow && !s.keyAllowed then .error .malformed
  else
    let s := if s.inFlow then s else
      match s.openBlock s.column with
      | some s => s.emit .blockSequence
      | none => s
    let s ← { s with keyAllowed := true }.dropKeyStart
    pure (s.emit .entry |>.pass 1)

/-- A plain scalar may start here. -/
def startsPlain (s : Scan) : Bool :=
  match s.left with
  | [] => false
  | c :: rest =>
    let mark : Bool := ("-?:,[]\x7b\x7d#&*!|>'\"%@".toList ++ [Char.ofNat 96]).contains c
    (!mark && !atGap s.left) ||
      (!atGap rest && (c == '-' || (!s.inFlow && (c == '?' || c == ':'))))

/-- Reads one token, or several if blocks end here, at a place that is no gap. -/
def token (s : Scan) : Except Fault Scan := do
  let s ← s.dropStale
  let s := s.unwind s.column
  match s.left with
  | [] => pure s
  | c :: rest =>
    if c == '%' && s.column == 0 then
      let s ← (s.unwind (-1)).dropKeyStart
      let (t, after) ← directive s.left
      pure ({ s with keyAllowed := false }.emit t |>.passTo after)
    else if s.column == 0 && atDocumentMark s.left then
      let s ← (s.unwind (-1)).dropKeyStart
      pure ({ s with keyAllowed := false }.emit (if c == '-' then .documentStart else .documentEnd) |>.pass 3)
    else if c == '[' then s.openFlow .flowSequence
    else if c == '\x7b' then s.openFlow .flowMapping
    else if c == ']' then s.closeFlow .flowSequenceEnd
    else if c == '\x7d' then s.closeFlow .flowMappingEnd
    else if c == ',' then
      let s ← { s with keyAllowed := true }.dropKeyStart
      pure (s.emit .separator |>.pass 1)
    else if c == '-' && atGap rest then s.hyphen
    else if c == '?' && (s.inFlow || atGap rest) then s.question
    else if c == ':' && (s.inFlow || atGap rest) then s.colon
    else if c == '*' || c == '&' then
      let s ← s.noteKeyStart
      let (name, after) ← anchorName rest
      pure ({ s with keyAllowed := false }.emit (if c == '*' then .alias name else .anchor name) |>.passTo after)
    else if c == '!' then
      let s ← s.noteKeyStart
      let (t, after) ← tag s.left
      pure ({ s with keyAllowed := false }.emit t |>.passTo after)
    else if (c == '|' || c == '>') && !s.inFlow then
      let s ← { s with keyAllowed := true }.dropKeyStart
      let (text, after) ← block (c == '>') s.indent rest
      pure (s.emit (.scalar (String.ofList text) .quoted) |>.passTo after)
    else if c == '\x27' || c == '\x22' then
      let s ← s.noteKeyStart
      let (text, after) ← quoted (c == '\x22') (rest.length + 1) rest
      pure ({ s with keyAllowed := false }.emit (.scalar (String.ofList text) .quoted) |>.passTo after)
    else if s.startsPlain then
      let s ← s.noteKeyStart
      let (text, crossed, after) := plain s.inFlow (s.indent + 1) (s.left.length + 1) s.left
      pure ({ s with keyAllowed := crossed }.emit (.scalar (String.ofList text) .plain) |>.passTo after)
    else .error .malformed

/-- Closes all blocks at the end of the document. -/
def finish (s : Scan) : Except Fault Scan := do
  let s ← s.dropStale
  (s.unwind (-1)).dropKeyStart

/-- Goes on past what comes after a gap, if that can be read to its end and beyond. -/
def advance (s : Scan) : Except Fault Scan :=
  match s.token, s.ending with
  | .ok next, some fault => if next.left.isEmpty then .error fault else .ok next
  | .error .unended, some fault => .error fault
  | result, _ => result

/-- The number of tokens before which no key can be marked any more. -/
def settled (s : Scan) : Nat :=
  s.keyStarts.foldl (fun n k =>
    match k with
    | some k => if s.isStale k then n else min n k.tokens
    | none => n) s.tokens.size

/-- The tokens that are there before a fault. -/
def broken (s : Scan) (fault : Fault) : List Token :=
  s.tokens.toList.take s.settled ++ [.broken fault]

/-- Reads tokens up to the end of the document or up to a fault. -/
def run : Nat → Scan → List Token
  | 0, s => s.broken .malformed
  | bound + 1, s =>
    let next := skipGap (s.left.length + 1) s
    if next.left.isEmpty then
      match next.ending, next.finish with
      | none, .ok last => last.tokens.toList
      | none, .error fault | some fault, _ => s.broken fault
    else
      match next.advance with
      | .ok next => run bound next
      | .error fault => s.broken fault

end Scan

/-- The tokens of a document. A byte order mark at its start is left out. -/
def scan (source : Source) : List Token :=
  let s : Scan := { left := source.chars, ending := source.ending }
  let s := if source.chars.head? == some '\ufeff' then s.pass 1 else s
  Scan.run (source.chars.length + 1) s

end Token

end RequirePath.Yaml
