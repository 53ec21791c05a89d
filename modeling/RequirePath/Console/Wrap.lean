import RequirePath.Console.Glyph

/-! Lines of a bounded width: a text is broken between words, and a word that is too long for a line is
folded or cut off. -/

namespace RequirePath.Wrap

/-- What becomes of a word that is too long for a line. -/
inductive Overflow
  | fold
  | ellipsis
  deriving DecidableEq, Repr

/-- The columns of the console. -/
def consoleWidth : Nat := 1000

/-- The character at the end of a line that is cut off. -/
def cutMark : Char := '…'

/-- The words of a line with the blanks around them; blanks belong to the word before them. -/
def wordsFrom : Nat → List Char → List (List Char)
  | 0, _ => []
  | bound + 1, cs =>
    let lead := cs.takeWhile Text.isBlank
    let rest := cs.drop lead.length
    let body := rest.takeWhile fun c => !Text.isBlank c
    if body.isEmpty then []
    else
      let rest := rest.drop body.length
      let gap := rest.takeWhile Text.isBlank
      (lead ++ body ++ gap) :: wordsFrom bound (rest.drop gap.length)

/-- The words of a line with the blanks around them. -/
def words (cs : List Char) : List (List Char) :=
  wordsFrom (cs.length + 1) cs

/-- The pieces of a word that is folded, by their lengths; `count` characters with `filled` columns stand in
the piece so far. -/
def foldFrom (limit count filled : Nat) : List Text.Cluster → List Nat
  | [] => if filled = 0 then [] else [count]
  | k :: rest =>
    if limit < filled + k.columns then count :: foldFrom limit k.count k.columns rest
    else foldFrom limit (count + k.count) (filled + k.columns) rest

/-- The pieces of a word that is folded, with the places where they start. -/
def foldedFrom (start : Nat) (word : List Char) : List Nat → List (Nat × List Char)
  | [] => []
  | count :: rest => (start, word.take count) :: foldedFrom (start + count) (word.drop count) rest

/-- The places before which a line is broken; `start` is the place of the first of the words, and `filled`
the columns of the line that are taken before it. -/
def breaksFrom (limit : Nat) (overflow : Overflow) (start filled : Nat) : List (List Char) → List Nat
  | [] => []
  | word :: rest =>
    let next := start + word.length
    let columns := Text.width word
    let least := Text.width (Text.trimEnd word)
    if filled + least ≤ limit then breaksFrom limit overflow next (filled + columns) rest
    else if limit < least && overflow == .fold then
      let pieces := foldedFrom start word (foldFrom limit 0 0 (Text.clusters word))
      let filled := (pieces.getLast?.map fun p => Text.width p.2).getD 0
      (pieces.map Prod.fst).filter (· != 0) ++ breaksFrom limit overflow next filled rest
    else (if start = 0 then [] else [start]) ++ breaksFrom limit overflow next columns rest

/-- Cuts a line before the given places, which increase; `start` is where it starts. -/
def cutFrom (start : Nat) (line : Glyphs) : List Nat → List Glyphs
  | [] => [line]
  | place :: rest => line.take (place - start) :: cutFrom place (line.drop (place - start)) rest

/-- A line without the blanks at its end that stand behind as many characters as the line has columns. -/
def dropExcess (limit : Nat) (line : Glyphs) : Glyphs :=
  let blanks := (line.reverse.takeWhile fun g => Text.isBlank g.char).length
  line.take (line.length - min blanks (line.length - limit))

/-- A line cut off at a number of columns. -/
def cutOff (limit : Nat) (overflow : Overflow) (line : Glyphs) : Glyphs :=
  if line.width ≤ limit then line
  else
    match overflow with
    | .fold => line.crop limit
    | .ellipsis =>
      let kept := line.crop (limit - 1)
      kept ++ [⟨cutMark, ((line.drop kept.length).head?.map Glyph.styles).getD []⟩]

/-- The lines of a text on a number of columns. -/
def lines (limit : Nat) (overflow : Overflow) (text : Glyphs) : List Glyphs :=
  (Text.splitWhere (fun g : Glyph => g.char == '\n') text).flatMap fun line =>
    let line : Glyphs := Glyphs.expandTabs line
    (cutFrom 0 line (breaksFrom limit overflow 0 0 (words line.chars))).map fun part =>
      cutOff limit overflow (dropExcess limit part)

end RequirePath.Wrap
