import RequirePath.Console.Markup
import RequirePath.Number.Binary64

/-! A table of rows with lines around its cells: columns are as wide as their widest cells, as far as the
console is wide enough, and the title stands over the middle. -/

namespace RequirePath.Table

/-- The width of a cell: that of its widest line. -/
def cellWidth (cell : Glyphs) : Nat :=
  ((Text.lines cell.chars).map Text.width).foldl max 0

/-- A row of two cells. -/
abbrev Row := Glyphs × Glyphs

/-- The columns of the blanks beside the text of a cell. -/
def padding : Nat := 2

/-- The columns of the three lines that go down. -/
def ruled : Nat := 3

/-- Two widths whose sum is no more than a limit: the greater one gives way first, then both do. -/
def shrink (limit first second : Nat) : Nat × Nat :=
  let cut := min (first + second - limit) (max first second - min first second)
  let (a, b) := if second < first then (first - cut, second) else (first, second - cut)
  let half := roundDiv (a + b - limit) 2
  (a - half, b - (a + b - limit - half))

/-- The widths of the two columns. -/
def widths (rows : List Row) : Nat × Nat :=
  let widest (cell : Row → Glyphs) : Nat := (rows.map fun r => cellWidth (cell r)).foldl max 0 + padding
  let limit := Wrap.consoleWidth - ruled
  let (a, b) := shrink limit (min limit (widest Prod.fst)) (min limit (widest Prod.snd))
  (a - padding, b - padding)

/-- The lines of a cell, each of the width of its column. -/
def cellLines (width : Nat) (cell : Glyphs) : List (List Char) :=
  (Wrap.lines width .ellipsis cell).map fun line =>
    (Glyphs.fill width (line ++ Glyphs.blanks [] (width - line.width))).chars

/-- The lines of a row. -/
def rowLines (first second : Nat) (row : Row) : List (List Char) :=
  let left := cellLines first row.1
  let right := cellLines second row.2
  let blank (n : Nat) : List Char := List.replicate n ' '
  (List.range (max left.length right.length)).map fun i =>
    ['│', ' '] ++ left[i]?.getD (blank first) ++ [' ', '│', ' '] ++ right[i]?.getD (blank second) ++ [' ', '│']

/-- A line between rows. -/
def rule (first second : Nat) (left middle right : Char) : List Char :=
  left :: List.replicate (first + padding) '─' ++ middle :: List.replicate (second + padding) '─' ++ [right]

/-- The lines of a table of two columns with a title over it. -/
def lines (title : List Char) (rows : List Row) : List (List Char) :=
  let (first, second) := widths rows
  let margin := (first + second + 2 * padding + ruled - Text.width title) / 2
  [List.replicate margin ' ' ++ title, rule first second '┌' '┬' '┐'] ++
    rows.flatMap (rowLines first second) ++ [rule first second '└' '┴' '┘']

end RequirePath.Table
