import RequirePath.Text.Digits
import RequirePath.Text.Printable

/-! Quoted text, as messages show names and values: between single quotes, or between double quotes if the
text holds a single quote and no double quote; the quote, backslashes and unprintable characters are
spelled out. -/

namespace RequirePath.Text

/-- A character spelled out by its number. -/
def numberedChar (c : Char) : List Char :=
  if c.toNat < 0x100 then '\\' :: 'x' :: hexDigits 2 c.toNat
  else if c.toNat < 0x10000 then '\\' :: 'u' :: hexDigits 4 c.toNat
  else '\\' :: 'U' :: hexDigits 8 c.toNat

/-- The spelling of one character between quotes of the given kind. -/
def quotedChar (quote c : Char) : List Char :=
  if c = quote ∨ c = '\\' then ['\\', c]
  else if c = '\n' then ['\\', 'n']
  else if c = '\r' then ['\\', 'r']
  else if c = '\t' then ['\\', 't']
  else if isPrintable c then [c]
  else numberedChar c

/-- The quote that a text is put between. -/
def quoteFor (cs : List Char) : Char :=
  if cs.contains '\x27' && !cs.contains '\x22' then '\x22' else '\x27'

/-- A text between quotes. -/
def quotedChars (cs : List Char) : List Char :=
  let quote := quoteFor cs
  quote :: cs.flatMap (quotedChar quote) ++ [quote]

/-- A text between quotes. -/
def quoted (s : String) : String :=
  String.ofList (quotedChars s.toList)

/-- A text with every character that is not ASCII spelled out. -/
def asciiChars (cs : List Char) : List Char :=
  cs.flatMap fun c => if c.toNat < 0x80 then [c] else numberedChar c

end RequirePath.Text
