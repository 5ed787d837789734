import TimeMarkup.Time.Instant

/-!
# Dates and clock readings of an instant

In a zone that is ahead of UTC by whole minutes, an instant has a date and a clock reading, and is
the only one that has both. A leap second shows as second sixty there too.
-/

namespace TimeMarkup

theorem TimeOfDay.of?_self (t : TimeOfDay) : of? t.hour t.minute t.second t.nanos = some t := by
  simp [of?, t.hour_le, t.minute_le, t.second_le, t.nanos_lt]

namespace Date
open Calendar

/-- The day lies within its year. -/
theorem dayOfYear_lt (d : Date) : daysBefore (isLeap d.year) d.month + (d.day - 1) < 366 := by
  obtain ⟨year, month, day, ⟨hmonth, hmonth'⟩, hday, hday'⟩ := d
  have hyear : ∀ leap, ∀ m < 13, daysBefore leap (m + 1) ≤ 366 := by decide
  have hnext := hyear (isLeap year) month (by omega)
  simp only [daysIn] at hday'
  dsimp only
  omega

theorem hasDay_of_year {d : Date} (h : 0 ≤ d.year) (h' : d.year ≤ 9999) :
    Instant.hasDay d.dayNumber = true := by
  have hday := d.dayOfYear_lt
  have hfirst : Instant.firstDay = -96465292 := by decide
  have hlast : Instant.lastDay = 95026236 := by decide
  simp only [Instant.hasDay, dayNumber, daysBeforeYear, epoch, Bool.and_eq_true, decide_eq_true_eq,
    hfirst, hlast]
  omega

end Date

namespace Instant

/-- The clock reading in a zone `offset` seconds east of UTC. -/
def timeAt (offset : Int) (i : Instant) : TimeOfDay :=
  let s := ((i.seconds + offset) % 86400).toNat
  { hour := s / 3600
    minute := s / 60 % 60
    second := if i.isLeap then s % 60 + 1 else s % 60
    nanos := i.nanos % 1000000000
    hour_le := by omega
    minute_le := by omega
    second_le := by split <;> omega
    nanos_lt := Nat.mod_lt _ (by decide) }

@[simp] theorem nanos_timeAt (offset : Int) (i : Instant) :
    (i.timeAt offset).nanos = i.nanos % 1000000000 := rfl

variable {i : Instant} (hi : i.IsRepresentable) (minutes : Int)
include hi

theorem secondOfDay_timeAt :
    ((i.timeAt (60 * minutes)).secondOfDay : Int) = (i.seconds + 60 * minutes) % 86400 := by
  have hleap := hi.2.2
  simp only [timeAt, TimeOfDay.secondOfDay]
  split
  · have hlast := hleap ‹_›
    omega
  · omega

theorem subsecond_timeAt : (i.timeAt (60 * minutes)).subsecond = i.nanos := by
  have hnanos := hi.2.1
  by_cases h : i.isLeap = true
  · have hlast := hi.2.2 h
    simp only [isLeap, decide_eq_true_eq] at h
    have hsixty : (i.timeAt (60 * minutes)).second = 60 := by
      simp only [timeAt, isLeap, h, decide_true, if_true]
      omega
    rw [TimeOfDay.subsecond, if_pos hsixty]
    show i.nanos % 1000000000 + 1000000000 = i.nanos
    omega
  · have hsecond : (i.timeAt (60 * minutes)).second ≠ 60 := by
      simp only [timeAt, if_neg h]
      omega
    simp only [isLeap, decide_eq_true_eq] at h
    rw [TimeOfDay.subsecond, if_neg hsecond]
    show i.nanos % 1000000000 = i.nanos
    omega

theorem of?_dateAt_timeAt (hday : hasDay (i.dateAt (60 * minutes)).dayNumber = true) :
    of? (i.dateAt (60 * minutes)) (i.timeAt (60 * minutes)) (60 * minutes) = some i := by
  have hseconds : 86400 * (i.dateAt (60 * minutes)).dayNumber +
      (i.timeAt (60 * minutes)).secondOfDay - 60 * minutes =
      i.seconds := by
    rw [secondOfDay_timeAt hi, dateAt, Date.dayNumber_ofDayNumber]
    omega
  have hutc : hasDay (i.seconds / 86400) = true := hi.1
  simp only [of?, hseconds, hday, hutc, subsecond_timeAt hi, Bool.and_self, if_true]

end Instant
end TimeMarkup
