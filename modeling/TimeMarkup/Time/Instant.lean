import TimeMarkup.Time.Date
/-!
Instants of time, to the nanosecond. A leap second is the continuation of second fifty-nine: its
nanoseconds run on from one thousand million.
-/

namespace TimeMarkup

/-- A reading of a clock, where second sixty is a leap second. -/
structure TimeOfDay where
  hour : Nat
  minute : Nat
  second : Nat
  nanos : Nat
  hour_le : hour ≤ 23
  minute_le : minute ≤ 59
  second_le : second ≤ 60
  nanos_lt : nanos < 1000000000
  deriving DecidableEq

namespace TimeOfDay

/-- The clock reading of an hour, minute, second and nanosecond, if a clock can show it. -/
def of? (hour minute second nanos : Nat) : Option TimeOfDay :=
  if h : hour ≤ 23 ∧ minute ≤ 59 ∧ second ≤ 60 ∧ nanos < 1000000000 then
    some ⟨hour, minute, second, nanos, h.1, h.2.1, h.2.2.1, h.2.2.2⟩
  else none

/-- Seconds since midnight, a leap second counted with the second that it follows. -/
def secondOfDay (t : TimeOfDay) : Nat :=
  3600 * t.hour + 60 * t.minute + min t.second 59

/-- Nanoseconds since the start of that second. -/
def subsecond (t : TimeOfDay) : Nat :=
  if t.second = 60 then t.nanos + 1000000000 else t.nanos

theorem secondOfDay_lt (t : TimeOfDay) : t.secondOfDay < 86400 := by
  have := t.hour_le
  have := t.minute_le
  simp only [secondOfDay]
  omega

theorem subsecond_lt (t : TimeOfDay) : t.subsecond < 2000000000 := by
  have := t.nanos_lt
  simp only [subsecond]
  split <;> omega

end TimeOfDay

/-- Seconds since 1970-01-01T00:00:00Z and nanoseconds since that second. -/
structure Instant where
  seconds : Int
  nanos : Nat
  deriving DecidableEq, Repr

namespace Instant

/-- The first day that has instants: -262143-01-01. -/
def firstDay : Int := Calendar.daysBeforeYear (-262143) - Calendar.epoch

/-- The last day that has instants: 262142-12-31. -/
def lastDay : Int := Calendar.daysBeforeYear 262143 - Calendar.epoch - 1

def hasDay (n : Int) : Bool :=
  firstDay ≤ n && n ≤ lastDay

/-- The day number of the instant, in UTC. -/
def dayNumber (i : Instant) : Int :=
  i.seconds / 86400

/-- Seconds since midnight, in UTC. -/
def secondOfDay (i : Instant) : Int :=
  i.seconds % 86400

/-- Whether the instant lies in a leap second. -/
def isLeap (i : Instant) : Bool :=
  1000000000 ≤ i.nanos

/-- Instants within the range of days, with leap seconds only at the end of a minute. -/
def IsRepresentable (i : Instant) : Prop :=
  hasDay i.dayNumber ∧ i.nanos < 2000000000 ∧ (i.isLeap → i.seconds % 60 = 59)

instance (i : Instant) : Decidable i.IsRepresentable :=
  inferInstanceAs (Decidable (_ ∧ _ ∧ _))

/-- The date in a zone that is `offset` seconds east of UTC. -/
def dateAt (offset : Int) (i : Instant) : Date :=
  Date.ofDayNumber ((i.seconds + offset) / 86400)

/-- The instant at which a zone `offset` seconds east of UTC has a date and a clock reading. There
is none if the date falls outside the range of days there or in UTC. -/
def of? (date : Date) (time : TimeOfDay) (offset : Int) : Option Instant :=
  let seconds := 86400 * date.dayNumber + time.secondOfDay - offset
  if hasDay date.dayNumber && hasDay (seconds / 86400) then some ⟨seconds, time.subsecond⟩ else none

/-- The clock in a zone `offset` seconds east of UTC, as in `12:00:00`. -/
def clockText (offset : Int) (i : Instant) : List Char :=
  let s := ((i.seconds + offset) % 86400).toNat
  Text.padded 2 (s / 3600) ++ ':' :: Text.padded 2 (s / 60 % 60) ++ ':' :: Text.padded 2 (s % 60)

/-- A fraction of a second in three, six or nine digits, as few as are exact. -/
def fractionText (nanos : Nat) : List Char :=
  if nanos = 0 then []
  else if nanos % 1000000 = 0 then '.' :: Text.padded 3 (nanos / 1000000)
  else if nanos % 1000 = 0 then '.' :: Text.padded 6 (nanos / 1000)
  else '.' :: Text.padded 9 nanos

/-- The instant in UTC, as in `2024-06-15T12:00:00Z`. -/
def text (i : Instant) : List Char :=
  let s := i.secondOfDay.toNat
  let second := if i.isLeap then s % 60 + 1 else s % 60
  let nanos := if i.isLeap then i.nanos - 1000000000 else i.nanos
  (i.dateAt 0).text ++ 'T' :: Text.padded 2 (s / 3600) ++ ':' :: Text.padded 2 (s / 60 % 60)
    ++ ':' :: Text.padded 2 second ++ fractionText nanos ++ ['Z']

theorem of?_nanos_lt {date : Date} {time : TimeOfDay} {offset : Int} {i : Instant}
    (h : of? date time offset = some i) : i.nanos < 2000000000 := by
  simp only [of?, Option.ite_none_right_eq_some, Option.some.injEq] at h
  rw [← h.2]
  exact time.subsecond_lt

end Instant

end TimeMarkup
