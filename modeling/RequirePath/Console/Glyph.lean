import RequirePath.Text.Width
import RequirePath.Text.Line

/-! Text with styles: characters, each with the numbers of the styles that it has. What is shown of a text
does not depend on its styles, but characters of different styles are measured apart. -/

namespace RequirePath

/-- A character and the styles that it has, by their numbers. -/
structure Glyph where
  char : Char
  styles : List Nat := []
  deriving DecidableEq, Repr

/-- Text with styles. -/
abbrev Glyphs := List Glyph

namespace Glyphs

/-- The characters of a text. -/
def chars (gs : Glyphs) : List Char :=
  gs.map Glyph.char

/-- Characters that all have the same styles. -/
def ofChars (styles : List Nat) (cs : List Char) : Glyphs :=
  cs.map fun c => ⟨c, styles⟩

/-- Blanks that all have the same styles. -/
def blanks (styles : List Nat) (count : Nat) : Glyphs :=
  List.replicate count ⟨' ', styles⟩

/-- The columns of a text. -/
def width (gs : Glyphs) : Nat :=
  Text.width gs.chars

/-- The longest parts of a text with the same styles. -/
def runs (gs : Glyphs) : List Glyphs :=
  gs.splitBy fun a b => a.styles == b.styles

/-- The columns between two places of a tabulator. -/
def tabWidth : Nat := 8

/-- A line with blanks in the place of tabs, up to the next place of the tabulator after each; `part` holds
the characters since the last tab, the last one first, and `column` is where they start. -/
def expandTabsFrom (column : Nat) (part : Glyphs) : Glyphs → Glyphs
  | [] => part.reverse
  | g :: rest =>
    if g.char = '\t' then
      let shown : Glyphs := (⟨' ', g.styles⟩ :: part).reverse
      let column := column + shown.width
      let count := (tabWidth - column % tabWidth) % tabWidth
      shown ++ blanks g.styles count ++ expandTabsFrom (column + count) [] rest
    else expandTabsFrom column (g :: part) rest

/-- A line with blanks in the place of tabs. -/
def expandTabs (line : Glyphs) : Glyphs :=
  expandTabsFrom 0 [] line

/-- How many characters the clusters take that fit into a number of columns, and the columns that are left. -/
def fitting (columns : Nat) : List Text.Cluster → Nat × Nat
  | [] => (0, columns)
  | k :: rest =>
    if k.columns ≤ columns then
      let (count, left) := fitting (columns - k.columns) rest
      (k.count + count, left)
    else (0, columns)

/-- The start of a text that fits into a number of columns; a wide character at the edge leaves a blank. -/
def crop (columns : Nat) (gs : Glyphs) : Glyphs :=
  if columns = 0 then []
  else
    let (count, left) := fitting columns (Text.clusters gs.chars)
    gs.take count ++
      match gs[count]? with
      | some g => blanks g.styles left
      | none => []

/-- A text cut to a number of columns part by part, or filled with blanks. -/
def fill (columns : Nat) (gs : Glyphs) : Glyphs :=
  let total := (gs.runs.map width).foldl (· + ·) 0
  if total ≤ columns then gs ++ blanks [] (columns - total)
  else cropRuns columns gs.runs
where
  /-- The start of some parts that fits into a number of columns. -/
  cropRuns (columns : Nat) : List Glyphs → Glyphs
    | [] => []
    | run :: rest =>
      if run.width < columns then run ++ cropRuns (columns - run.width) rest else crop columns run

end Glyphs

end RequirePath
