/-! Dates of the calendar that is in use today, run back and forth without end, and the time of day. -/

namespace RequirePath.Calendar

/-- A date and a time of day. -/
structure DateTime where
  year : Int
  month : Nat
  day : Nat
  hour : Nat
  minute : Nat
  second : Nat
  deriving DecidableEq, Repr

/-- The date that lies a number of days after the first of January 1970. The year is taken to start in
March, so that the day a leap year adds is its last one; 146097 days are 400 years. -/
def civil (days : Int) : Int × Nat × Nat :=
  let z := days + 719468
  let era := z / 146097
  let dayOfEra := (z % 146097).toNat
  let yearOfEra := (dayOfEra - dayOfEra / 1460 + dayOfEra / 36524 - dayOfEra / 146096) / 365
  let dayOfYear := dayOfEra - (365 * yearOfEra + yearOfEra / 4 - yearOfEra / 100)
  let shifted := (5 * dayOfYear + 2) / 153
  let day := dayOfYear - (153 * shifted + 2) / 5 + 1
  let month := if shifted < 10 then shifted + 3 else shifted - 9
  let year := era * 400 + yearOfEra
  (if month ≤ 2 then year + 1 else year, month, day)

/-- The number of days from the first of January 1970 to a date. -/
def dayNumber (year : Int) (month day : Nat) : Int :=
  let shiftedYear := if month ≤ 2 then year - 1 else year
  let era := shiftedYear / 400
  let yearOfEra := (shiftedYear % 400).toNat
  let dayOfYear := (153 * ((month + 9) % 12) + 2) / 5 + day - 1
  let dayOfEra := yearOfEra * 365 + yearOfEra / 4 - yearOfEra / 100 + dayOfYear
  era * 146097 + dayOfEra - 719468

/-- The date and time of day of a second since the start of 1970. -/
def ofSecond (second : Int) : DateTime :=
  let (year, month, day) := civil (second / 86400)
  let time := (second % 86400).toNat
  ⟨year, month, day, time / 3600, time / 60 % 60, time % 60⟩

/-- A number with zeros in front up to a width. -/
def padded (width n : Nat) : String :=
  let digits := Nat.toDigits 10 n
  String.ofList (List.replicate (width - digits.length) '0' ++ digits)

/-- The time of day. -/
def DateTime.clock (t : DateTime) : String :=
  padded 2 t.hour ++ ":" ++ padded 2 t.minute ++ ":" ++ padded 2 t.second

/-- The month and the day. -/
def DateTime.monthDay (t : DateTime) : String :=
  padded 2 t.month ++ "-" ++ padded 2 t.day

/-- A year that a date can be shown in. -/
def isShownYear (year : Int) : Bool :=
  1 ≤ year && year ≤ 9999

/-- The date and the time of day as people read them. -/
def DateTime.text (t : DateTime) : String :=
  s!"{t.year}-{t.monthDay} {t.clock}"

/-- The number of days of a month. -/
def daysIn (year : Int) (month : Nat) : Nat :=
  if month = 2 then if year % 4 = 0 ∧ (year % 100 ≠ 0 ∨ year % 400 = 0) then 29 else 28
  else if month = 4 ∨ month = 6 ∨ month = 9 ∨ month = 11 then 30
  else 31

end RequirePath.Calendar
