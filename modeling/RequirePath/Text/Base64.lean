/-! Bytes written in base 64: each letter stands for six bits, and equals signs fill up the last four
letters. Other characters are left out. -/

namespace RequirePath.Text.Base64

/-- The value of a letter. -/
def sextet? (c : Char) : Option Nat :=
  if c.isUpper then some (c.toNat - 65)
  else if c.isLower then some (c.toNat - 71)
  else if c.isDigit then some (c.toNat + 4)
  else if c = '+' then some 62
  else if c = '/' then some 63
  else none

/-- The bytes of the values of letters. -/
def ofSextets : List Nat → List UInt8
  | a :: b :: c :: d :: rest =>
    (a * 4 + b / 16).toUInt8 :: (b % 16 * 16 + c / 4).toUInt8 :: (c % 4 * 64 + d).toUInt8 :: ofSextets rest
  | [a, b, c] => [(a * 4 + b / 16).toUInt8, (b % 16 * 16 + c / 4).toUInt8]
  | [a, b] => [(a * 4 + b / 16).toUInt8]
  | _ => []

/-- The values of the letters of a text that does not end in the middle of a byte. Equals signs that fill up
the last four letters end the text. `count` letters, and then `pads` such signs, came before. -/
def sextets (count pads : Nat) : List Char → Option (List Nat)
  | [] => if count % 4 = 0 then some [] else none
  | c :: rest =>
    if c = '=' then
      if count % 4 < 2 then sextets count pads rest
      else if count % 4 + pads + 1 < 4 then sextets count (pads + 1) rest
      else some []
    else
      match sextet? c with
      | none => sextets count pads rest
      | some n => (sextets (count + 1) 0 rest).map (n :: ·)

/-- The bytes that a text of ASCII characters writes. -/
def decode? (cs : List Char) : Option (List UInt8) :=
  if cs.any fun c => 0x80 ≤ c.toNat then none else (sextets 0 0 cs).map ofSextets

end RequirePath.Text.Base64
