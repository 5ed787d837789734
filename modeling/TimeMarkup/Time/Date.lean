import TimeMarkup.Text.Numeral
/-!
Days of the proleptic Gregorian calendar. Every date has a day number, counted from 1970-01-01, and
every day number a date.
-/

namespace TimeMarkup

namespace Calendar

/-- Leap years are those divisible by four, save the centuries not divisible by four hundred. -/
def isLeap (year : Int) : Bool :=
  year % 4 == 0 && (year % 100 != 0 || year % 400 == 0)

/-- Days in the months of a year before a month. -/
def daysBefore (leap : Bool) (month : Nat) : Nat :=
  let l := if leap then 1 else 0
  match month with
  | 0 | 1 => 0
  | 2 => 31
  | 3 => 59 + l
  | 4 => 90 + l
  | 5 => 120 + l
  | 6 => 151 + l
  | 7 => 181 + l
  | 8 => 212 + l
  | 9 => 243 + l
  | 10 => 273 + l
  | 11 => 304 + l
  | 12 => 334 + l
  | _ => 365 + l

/-- Days in a month; none in a month that does not exist. -/
def daysIn (leap : Bool) (month : Nat) : Nat :=
  daysBefore leap (month + 1) - daysBefore leap month

/-- The month of the day with that many days of its year before it. -/
def monthOf (leap : Bool) (day : Nat) : Nat :=
  if day < daysBefore leap 2 then 1
  else if day < daysBefore leap 3 then 2
  else if day < daysBefore leap 4 then 3
  else if day < daysBefore leap 5 then 4
  else if day < daysBefore leap 6 then 5
  else if day < daysBefore leap 7 then 6
  else if day < daysBefore leap 8 then 7
  else if day < daysBefore leap 9 then 8
  else if day < daysBefore leap 10 then 9
  else if day < daysBefore leap 11 then 10
  else if day < daysBefore leap 12 then 11
  else 12

/-- Days from 0001-01-01 to the first day of a year. -/
def daysBeforeYear (year : Int) : Int :=
  365 * (year - 1) + (year - 1) / 4 - (year - 1) / 100 + (year - 1) / 400

/-- The year that has the day with that many days since 0001-01-01, and the days of that year before
it. -/
def yearOf (day : Int) : Int × Nat :=
  let q400 := day / 146097
  let r400 := day % 146097
  let q100 := min (r400 / 36524) 3
  let r100 := r400 - 36524 * q100
  let q4 := r100 / 1461
  let r4 := r100 % 1461
  let q1 := min (r4 / 365) 3
  (400 * q400 + 100 * q100 + 4 * q4 + q1 + 1, (r4 - 365 * q1).toNat)

/-- Days from 0001-01-01 to 1970-01-01. -/
def epoch : Int := 719162

theorem daysIn_pos {leap : Bool} {month : Nat} (h : 1 ≤ month) (h' : month ≤ 12) :
    0 < daysIn leap month := by
  have : month = 1 ∨ month = 2 ∨ month = 3 ∨ month = 4 ∨ month = 5 ∨ month = 6 ∨ month = 7 ∨
      month = 8 ∨ month = 9 ∨ month = 10 ∨ month = 11 ∨ month = 12 := by omega
  cases leap <;>
    rcases this with rfl | rfl | rfl | rfl | rfl | rfl | rfl | rfl | rfl | rfl | rfl | rfl <;>
    decide

theorem monthOf_mem (leap : Bool) (day : Nat) : 1 ≤ monthOf leap day ∧ monthOf leap day ≤ 12 := by
  fun_cases monthOf leap day
  all_goals decide

theorem daysBefore_monthOf_le (leap : Bool) (day : Nat) :
    daysBefore leap (monthOf leap day) ≤ day := by
  fun_cases monthOf leap day with
  | case1 => exact Nat.zero_le day
  | _ => exact Nat.le_of_not_lt ‹_›

theorem lt_daysBefore_monthOf_succ {leap : Bool} {day : Nat} (h : day < daysBefore leap 13) :
    day < daysBefore leap (monthOf leap day + 1) := by
  fun_cases monthOf leap day
  all_goals assumption

/-- A count of days splits into 400-year cycles, centuries, four-year cycles, years and days. -/
theorem yearOf_parts (day : Int) :
    ∃ a g b f k : Int, (0 ≤ g ∧ g ≤ 3) ∧ (0 ≤ b ∧ b ≤ 24) ∧ (0 ≤ f ∧ f ≤ 3) ∧ (0 ≤ k ∧ k ≤ 365) ∧
      (k = 365 → f = 3 ∧ (b < 24 ∨ g = 3)) ∧
      day = 146097 * a + 36524 * g + 1461 * b + 365 * f + k ∧
      yearOf day = (400 * a + 100 * g + 4 * b + f + 1, k.toNat) := by
  obtain ⟨r, hr⟩ : ∃ r, r = day % 146097 := ⟨_, rfl⟩
  obtain ⟨g, hg⟩ : ∃ g, g = min (r / 36524) 3 := ⟨_, rfl⟩
  obtain ⟨c, hc⟩ : ∃ c, c = r - 36524 * g := ⟨_, rfl⟩
  obtain ⟨f, hf⟩ : ∃ f, f = min (c % 1461 / 365) 3 := ⟨_, rfl⟩
  have hr' : 0 ≤ r ∧ r < 146097 := by omega
  have hg' : (0 ≤ g ∧ g ≤ 3) ∧ 0 ≤ c ∧ c ≤ 36524 ∧ (c = 36524 → g = 3) := by omega
  refine ⟨day / 146097, g, c / 1461, f, c % 1461 - 365 * f, ?_, ?_, ?_, ?_, ?_, ?_, ?_⟩
  · omega
  · omega
  · omega
  · omega
  · omega
  · omega
  · simp only [yearOf, ← hr, ← hg, ← hc, ← hf]

theorem yearOf_day_lt (day : Int) :
    (yearOf day).2 < daysBefore (isLeap (yearOf day).1) 13 := by
  obtain ⟨a, g, b, f, k, hg, hb, hf, hk, hlast, -, h⟩ := yearOf_parts day
  rw [h]
  simp only [daysBefore]
  by_cases h365 : k = 365
  · have hleap : isLeap (400 * a + 100 * g + 4 * b + f + 1) = true := by
      simp only [isLeap, Bool.and_eq_true, Bool.or_eq_true, beq_iff_eq, bne_iff_ne, ne_eq]
      omega
    simp only [hleap, if_true]
    omega
  · omega

theorem daysBeforeYear_yearOf (day : Int) :
    daysBeforeYear (yearOf day).1 + (yearOf day).2 = day := by
  obtain ⟨a, g, b, f, k, hg, hb, hf, hk, -, hday, h⟩ := yearOf_parts day
  have h4 : (400 * a + 100 * g + 4 * b + f) / 4 = 100 * a + 25 * g + b := by omega
  have h100 : (400 * a + 100 * g + 4 * b + f) / 100 = 4 * a + g := by omega
  have h400 : (400 * a + 100 * g + 4 * b + f) / 400 = a := by omega
  rw [h]
  simp only [daysBeforeYear, Int.add_sub_cancel, h4, h100, h400]
  omega

end Calendar

/-- A day of the proleptic Gregorian calendar. -/
structure Date where
  year : Int
  month : Nat
  day : Nat
  month_mem : 1 ≤ month ∧ month ≤ 12
  day_mem : 1 ≤ day ∧ day ≤ Calendar.daysIn (Calendar.isLeap year) month
  deriving DecidableEq

namespace Date

open Calendar

/-- The date of a year, month and day, if the calendar has it. -/
def of? (year : Int) (month day : Nat) : Option Date :=
  if h : (1 ≤ month ∧ month ≤ 12) ∧ 1 ≤ day ∧ day ≤ daysIn (isLeap year) month then
    some ⟨year, month, day, h.1, h.2⟩
  else none

/-- Days from 1970-01-01 to the date. -/
def dayNumber (d : Date) : Int :=
  daysBeforeYear d.year + daysBefore (isLeap d.year) d.month + (d.day - 1 : Nat) - epoch

/-- The date that many days after 1970-01-01. -/
def ofDayNumber (n : Int) : Date :=
  let y := yearOf (n + epoch)
  let leap := isLeap y.1
  let m := monthOf leap y.2
  { year := y.1
    month := m
    day := y.2 - daysBefore leap m + 1
    month_mem := monthOf_mem leap y.2
    day_mem := by
      have h := lt_daysBefore_monthOf_succ (yearOf_day_lt (n + epoch))
      have h' := daysBefore_monthOf_le leap y.2
      constructor
      · omega
      · simp only [daysIn, m, leap, y] at *
        omega }

@[simp] theorem dayNumber_ofDayNumber (n : Int) : (ofDayNumber n).dayNumber = n := by
  have h := daysBeforeYear_yearOf (n + epoch)
  have h' := daysBefore_monthOf_le (isLeap (yearOf (n + epoch)).1) (yearOf (n + epoch)).2
  simp only [dayNumber, ofDayNumber]
  omega

/-- Days since Sunday, from 0 to 6. -/
def weekday (d : Date) : Nat :=
  ((d.dayNumber + 4) % 7).toNat

/-- A year with at least four digits, with a sign outside the years 0 to 9999. -/
def yearText (year : Int) : List Char :=
  if year < 0 then '-' :: Text.padded 4 year.natAbs
  else if 9999 < year then '+' :: Text.padded 4 year.natAbs
  else Text.padded 4 year.natAbs

/-- The date as in `2024-06-15`. -/
def text (d : Date) : List Char :=
  yearText d.year ++ '-' :: Text.padded 2 d.month ++ '-' :: Text.padded 2 d.day

theorem of?_self (d : Date) : of? d.year d.month d.day = some d := by
  simp [of?, d.month_mem, d.day_mem]

end Date

end TimeMarkup
