import RequirePath.Number.Binary64

/-! Times of files: whole seconds and nanoseconds, and the double word in which times are compared. Close
times may be one double word, and then neither is the later one. -/

namespace RequirePath

/-- A time since the epoch. -/
structure Timestamp where
  seconds : Int
  nanoseconds : Nat := 0
  deriving DecidableEq, Repr

namespace Timestamp

/-- One nanosecond as a double word. -/
def nanosecond : Dyadic :=
  Binary64.nearest 1 1000000000

/-- A time in seconds as a double word: the nanoseconds are scaled and rounded, then added and rounded. -/
def inSeconds (t : Timestamp) : Dyadic :=
  Binary64.round (Binary64.nearest t.seconds 1 + Binary64.round (nanosecond * (t.nanoseconds : Dyadic)))

/-- The number of microseconds in a second. -/
def million : Nat := 1000000

/-- The whole second that a time in seconds is shown as: the part after the point is rounded to
microseconds, a half to the even one, and what then is a full second counts. -/
def shownSecond (time : Dyadic) : Int :=
  let whole := Binary64.truncate time
  let part := time - (whole : Dyadic)
  let micros := Binary64.roundToInt (Binary64.round (part * (million : Dyadic)))
  if (million : Int) ≤ micros then whole + 1 else if micros < 0 then whole - 1 else whole

end Timestamp

end RequirePath
