import RequirePath.Number.Binary64

/-! The shortest decimal that reads back as a given number. For each number of digits the two decimals next
to the value are tried; the first length with a hit wins, and of two hits the nearer one, or the even one if
both are equally near. -/

namespace RequirePath.Binary64

/-- A positive decimal that has `digits` digits next to a value `num / den`, as numerator and exponent of
ten: the one below and the one above. -/
def neighbours (num den digits : Nat) (exponent : Int) : Nat × Nat × Int :=
  let e := exponent - digits + 1
  let (n, d) := if 0 ≤ e then (num, den * tenTo e.toNat) else (num * tenTo (-e).toNat, den)
  (n / d, n / d + 1, e)

/-- The exponent of ten of the first digit of a positive quotient. -/
def floorLog10 (num den : Nat) : Int :=
  let estimate : Int := (floorLog2 num den * 30103) / 100000
  let atLeast (e : Int) : Bool := if 0 ≤ e then den * tenTo e.toNat ≤ num else den ≤ num * tenTo (-e).toNat
  if atLeast (estimate + 1) then estimate + 1
  else if atLeast estimate then estimate
  else estimate - 1

/-- A decimal reads back as the number with the given significand and exponent. -/
def readsBack (digits : Nat) (e : Int) (value : Dyadic) : Bool :=
  ofDecimal false digits e == .finite value

/-- The numerator and denominator of a positive value. -/
def ratio (d : Dyadic) : Nat × Nat :=
  match d with
  | .zero => (0, 1)
  | .ofOdd n k _ => if 0 ≤ k then (n.natAbs, 1 <<< k.toNat) else (n.natAbs <<< (-k).toNat, 1)

/-- A number of digits with which every number has a decimal that reads back. -/
def sufficientLength : Nat := 17

/-- The shortest decimal among those of at least `length` digits; the last number bounds how many lengths
are tried. -/
def shortestFrom (value : Dyadic) (num den : Nat) (exponent : Int) (length : Nat) : Nat → Nat × Int
  | 0 =>
    let (low, _, e) := neighbours num den length exponent
    (low, e)
  | steps + 1 =>
    let (low, high, e) := neighbours num den length exponent
    let distance (x : Nat) : Nat :=
      let (n, d) := if 0 ≤ e then (x * tenTo e.toNat * den, num) else (x * den, num * tenTo (-e).toNat)
      if n ≤ d then d - n else n - d
    match readsBack low e value, readsBack high e value with
    | true, true =>
      let highWins := distance high < distance low || (distance high == distance low && high % 2 == 0)
      (if highWins then high else low, e)
    | true, false => (low, e)
    | false, true => (high, e)
    | false, false => shortestFrom value num den exponent (length + 1) steps

/-- The digits and the exponent of ten of the shortest decimal of a positive number. -/
def shortest (value : Dyadic) : Nat × Int :=
  let (num, den) := ratio value
  shortestFrom value num den (floorLog10 num den) 1 sufficientLength

/-- Decimal digits of a number without the zeros at their end, and how many of those there were. -/
def stripZeros (digits : List Char) : List Char :=
  (digits.reverse.dropWhile (· == '0')).reverse

/-- The text of a number: positional with at least one digit after the point if its first digit stands
between the fourth place after the point and the sixteenth before it, else with an exponent of at least
two digits. -/
def text : Binary64 → String
  | .nan => "nan"
  | .infinite negative => if negative then "-inf" else "inf"
  | .negativeZero => "-0.0"
  | .finite value =>
    if value = 0 then "0.0"
    else
      let magnitude := if value < 0 then -value else value
      let (n, e) := shortest magnitude
      let all := Nat.toDigits 10 n
      let point : Int := all.length + e
      let digits := stripZeros all
      let count : Int := digits.length
      let body :=
        if point ≤ -4 ∨ 16 < point then
          let shift := point - 1
          let size := Nat.toDigits 10 shift.natAbs
          let tail := match digits with
            | first :: [] => [first]
            | first :: more => first :: '.' :: more
            | [] => []
          tail ++ 'e' :: (if shift < 0 then '-' else '+') ::
            (if size.length < 2 then '0' :: size else size)
        else if point ≤ 0 then '0' :: '.' :: List.replicate (-point).toNat '0' ++ digits
        else if count ≤ point then digits ++ List.replicate (point - count).toNat '0' ++ ['.', '0']
        else digits.take point.toNat ++ '.' :: digits.drop point.toNat
      String.ofList (if value < 0 then '-' :: body else body)

end RequirePath.Binary64
