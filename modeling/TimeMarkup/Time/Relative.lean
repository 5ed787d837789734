import TimeMarkup.Time.Instant
import TimeMarkup.Time.Rounding
/-!
Relative times such as `3 hours ago`: the distance between two instants in the unit that suits it.
-/

namespace TimeMarkup

inductive TimeUnit
  | second
  | minute
  | hour
  | day
  deriving DecidableEq, Repr

namespace TimeUnit

/-- The length of the unit in seconds. -/
def seconds : TimeUnit → Nat
  | second => 1
  | minute => 60
  | hour => 3600
  | day => 86400

def name : TimeUnit → String
  | second => "second"
  | minute => "minute"
  | hour => "hour"
  | day => "day"

/-- The longest unit that fits into a number of seconds. -/
def forDistance (n : Nat) : TimeUnit :=
  if n < 60 then second
  else if n < 3600 then minute
  else if n < 86400 then hour
  else day

theorem seconds_pos (u : TimeUnit) : 0 < u.seconds := by
  cases u <;> decide

theorem seconds_forDistance_le {n : Nat} (h : 0 < n) : (forDistance n).seconds ≤ n := by
  simp only [forDistance]
  repeat' split
  all_goals simp only [seconds]; omega

end TimeUnit

namespace Instant

/-- Nanoseconds from `now` to `target`. Of two seconds of the day the earlier one lasts a second
longer if its instant is in a leap second. -/
def nanosecondsTo (target now : Instant) : Int :=
  let elapsed := target.seconds - now.seconds
  let leap : Int :=
    if now.secondOfDay < target.secondOfDay then (if now.isLeap then 1 else 0)
    else if target.secondOfDay < now.secondOfDay then (if target.isLeap then -1 else 0)
    else 0
  (elapsed + leap) * 1000000000 + target.nanos - now.nanos

/-- Whole seconds from `now` to `target`. The distance is cut to milliseconds, divided by a thousand
with 53 binary digits, and rounded to seconds with halves away from zero. -/
def wholeSecondsTo (target now : Instant) : Int :=
  let ms := (target.nanosecondsTo now).tdiv 1000000
  ms.sign * (Rounding.binaryQuotient 53 ms.natAbs 1000 : Nat)

theorem wholeSecondsTo_self (i : Instant) : i.wholeSecondsTo i = 0 := by
  simp [wholeSecondsTo, nanosecondsTo]

end Instant

structure RelativeTime where
  magnitude : Nat
  unit : TimeUnit
  past : Bool
  deriving DecidableEq, Repr

namespace RelativeTime

def ofSeconds (n : Int) : RelativeTime :=
  let unit := TimeUnit.forDistance n.natAbs
  { magnitude := Rounding.binaryQuotient 53 n.natAbs unit.seconds
    unit := unit
    past := n < 0 }

/-- The relative time of `target` as seen at `now`. -/
def between (target now : Instant) : RelativeTime :=
  ofSeconds (target.wholeSecondsTo now)

/-- The phrase, as in `1 day ago` or `5 minutes from now`. -/
def text (r : RelativeTime) : List Char :=
  Nat.toDigits 10 r.magnitude ++ ' ' :: r.unit.name.toList
    ++ (if r.magnitude = 1 then [] else ['s'])
    ++ (if r.past then " ago" else " from now").toList

theorem between_self (i : Instant) : between i i = ⟨0, .second, false⟩ := by
  simp [between, Instant.wholeSecondsTo_self, ofSeconds, TimeUnit.forDistance, TimeUnit.seconds,
    Rounding.binaryQuotient_zero]

end RelativeTime

end TimeMarkup
