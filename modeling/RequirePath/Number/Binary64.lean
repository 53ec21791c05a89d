/-! Numbers in binary floating point with 53 significant bits. A finite number is kept by value, as a dyadic
rational, so that order and sums are those of the rationals; `nearest` is the one rounding rule, to the
nearest such number and to the even neighbour in the middle. -/

namespace RequirePath

/-- The quotient of two numbers rounded to the nearest integer, a half to the even one. -/
def roundDiv (num den : Nat) : Nat :=
  let q := num / den
  let r := num % den
  if 2 * r < den then q
  else if den < 2 * r then q + 1
  else if q % 2 = 0 then q else q + 1

/-- A power of ten. -/
def tenTo (n : Nat) : Nat := Nat.pow 10 n

/-- The numbers of a double word. -/
inductive Binary64
  | finite (value : Dyadic)
  | negativeZero
  | infinite (negative : Bool)
  | nan
  deriving DecidableEq

namespace Binary64

/-- The number of significant bits. -/
def precision : Nat := 53

/-- The exponent of the smallest positive number. -/
def leastExponent : Int := -1074

/-- The exponent of two below which a positive quotient is at least that power. -/
def floorLog2 (num den : Nat) : Int :=
  let e : Int := num.log2 - den.log2
  let atLeast : Bool := if 0 ≤ e then den <<< e.toNat ≤ num else den ≤ num <<< (-e).toNat
  if atLeast then e else e - 1

/-- A positive quotient as a significand of at most `precision` bits times a power of two, rounded. -/
def significand (num den : Nat) : Nat × Int :=
  let e := max (floorLog2 num den - (precision - 1)) leastExponent
  let m := if 0 ≤ e then roundDiv num (den <<< e.toNat) else roundDiv (num <<< (-e).toNat) den
  (m, e)

/-- The number nearest to a quotient, with no bound on its size. -/
def nearest (num : Int) (den : Nat) : Dyadic :=
  if num = 0 then 0
  else
    let (m, e) := significand num.natAbs den
    let d := Dyadic.ofIntWithPrec m (-e)
    if num < 0 then -d else d

/-- The number nearest to a dyadic rational. -/
def round (d : Dyadic) : Dyadic :=
  match d with
  | .zero => 0
  | .ofOdd n k _ => if 0 ≤ k then nearest n (1 <<< k.toNat) else nearest (n * (1 <<< (-k).toNat : Nat)) 1

/-- The significand and the exponent of a finite number that is not zero: a significand shorter than
`precision` bits has the least exponent. -/
def parts (d : Dyadic) : Nat × Int :=
  match d with
  | .zero => (0, leastExponent)
  | .ofOdd n k _ =>
    if 0 ≤ k then significand n.natAbs (1 <<< k.toNat) else significand (n.natAbs <<< (-k).toNat) 1

/-- The number nearest to `±digits · 10 ^ exponent`. -/
def ofDecimal (negative : Bool) (digits : Nat) (exponent : Int) : Binary64 :=
  if digits = 0 then if negative then .negativeZero else .finite 0
  else if exponent + (Nat.toDigits 10 digits).length < -400 then
    if negative then .negativeZero else .finite 0
  else if 400 < exponent then .infinite negative
  else
    let num := if 0 ≤ exponent then digits * tenTo exponent.toNat else digits
    let den := if 0 ≤ exponent then 1 else tenTo (-exponent).toNat
    let (m, e) := significand num den
    if m = 0 then if negative then .negativeZero else .finite 0
    else if 1024 ≤ e + m.log2 then .infinite negative
    else .finite (Dyadic.ofIntWithPrec (if negative then -(m : Int) else m) (-e))

/-- The number nearest to a dyadic rational; one that is too large is infinite. -/
def ofDyadic (d : Dyadic) : Binary64 :=
  let r := round d
  let (m, e) := parts r
  if 1024 ≤ e + m.log2 then .infinite (r < 0) else .finite r

/-- The value of a number that is finite. -/
def value? : Binary64 → Option Dyadic
  | .finite d => some d
  | .negativeZero => some 0
  | _ => none

/-- The sum of two numbers, rounded. -/
def add : Binary64 → Binary64 → Binary64
  | .nan, _ | _, .nan => .nan
  | .infinite a, .infinite b => if a = b then .infinite a else .nan
  | .infinite a, _ | _, .infinite a => .infinite a
  | a, b => ofDyadic ((a.value?.getD 0) + (b.value?.getD 0))

/-- A number times a positive one, rounded. -/
def scale (x : Binary64) (factor : Dyadic) : Binary64 :=
  match x.value? with
  | some d => ofDyadic (d * factor)
  | none => x

/-- A number with the other sign. -/
def negate : Binary64 → Binary64
  | .finite d => if d = 0 then .negativeZero else .finite (-d)
  | .negativeZero => .finite 0
  | .infinite negative => .infinite (!negative)
  | .nan => .nan

/-- Two numbers of one value. -/
def same (a b : Binary64) : Bool :=
  match a.value?, b.value? with
  | some x, some y => x = y
  | none, none => a = b
  | _, _ => false

/-- The 64 bits of a finite number: sign, exponent and significand. -/
def bits (d : Dyadic) : Nat :=
  match d with
  | .zero => 0
  | .ofOdd n _ _ =>
    let (m, e) := parts d
    let sign := if n < 0 then 1 <<< 63 else 0
    let (m, e) := if m = 1 <<< precision then (1 <<< (precision - 1), e + 1) else (m, e)
    if m < 1 <<< (precision - 1) then sign + m
    else sign + (e + 1075).toNat * 1 <<< (precision - 1) + (m - 1 <<< (precision - 1))

/-- The greatest integer that is not above a value. -/
def floor (d : Dyadic) : Int :=
  match d with
  | .zero => 0
  | .ofOdd n k _ => if 0 ≤ k then n / (1 <<< k.toNat : Nat) else n * (1 <<< (-k).toNat : Nat)

/-- The integer nearest to a value, a half to the even one. -/
def roundToInt (d : Dyadic) : Int :=
  match d with
  | .zero => 0
  | .ofOdd n k _ =>
    if 0 ≤ k then
      let m : Int := roundDiv n.natAbs (1 <<< k.toNat)
      if n < 0 then -m else m
    else n * (1 <<< (-k).toNat : Nat)

/-- The integer toward zero from a value. -/
def truncate (d : Dyadic) : Int :=
  match d with
  | .zero => 0
  | .ofOdd n k _ => if 0 ≤ k then Int.tdiv n (1 <<< k.toNat : Nat) else n * (1 <<< (-k).toNat : Nat)

end Binary64

end RequirePath
