import RequirePath.Text.Line

/-! Decimal digits of all scripts, and the plain form of a text that is to be read as a number. The table is
that of Unicode 14. -/

namespace RequirePath.Text

/-- The code points of the digits zero; the other nine digits of a script follow its zero. -/
def zeroDigits : List Nat :=
  [48, 1632, 1776, 1984, 2406, 2534, 2662, 2790, 2918, 3046, 3174, 3302, 3430, 3558, 3664, 3792, 3872,
    4160, 4240, 6112, 6160, 6470, 6608, 6784, 6800, 6992, 7088, 7232, 7248, 42528, 43216, 43264,
    43472, 43504, 43600, 44016, 65296, 66720, 68912, 69734, 69872, 69942, 70096, 70384, 70736, 70864,
    71248, 71360, 71472, 71904, 72016, 72784, 73040, 73120, 92768, 92864, 93008, 120782, 120792,
    120802, 120812, 120822, 123200, 123632, 125264, 130032]

/-- The value of a decimal digit of any script. -/
def decimalDigit? (c : Char) : Option Nat :=
  (zeroDigits.find? fun z => z ≤ c.toNat && c.toNat ≤ z + 9).map fun z => c.toNat - z

/-- The plain form of a character in a text that is to be read as a number: a digit as the one of ASCII, a
blank as a space. -/
def plainNumberChar (c : Char) : Char :=
  if c.toNat < 0x7F then c
  else if isBlank c then ' '
  else
    match decimalDigit? c with
    | some d => Char.ofNat ('0'.toNat + d)
    | none => c

/-- The blanks that may stand around a number. -/
def isNumberBlank (c : Char) : Bool :=
  c == ' ' || (0x09 ≤ c.toNat && c.toNat ≤ 0x0D)

/-- A text that is to be read as a number in its plain form, without the blanks around it. -/
def plainNumber (cs : List Char) : List Char :=
  dropEndWhile isNumberBlank ((cs.map plainNumberChar).dropWhile isNumberBlank)

end RequirePath.Text
