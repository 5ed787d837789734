import TimeMarkup.Proofs.Text.Trimming
import TimeMarkup.Proofs.Time.Clocks
import TimeMarkup.Timestamp.Plain

/-!
# Texts that an instant is written as

`Writes i text` says that `text` is one of the ways to write `i`: as an internet timestamp or a mail
header's date in any zone that is whole minutes ahead or behind, or plainly in UTC. Each way has its
condition: a year of four digits, no fraction of a second, midnight.
-/

namespace TimeMarkup
open Text (padded StartsSolid)

namespace TimeOfDay

/-- Hours and minutes, as in `12:00`. -/
def minuteText (t : TimeOfDay) : List Char :=
  padded 2 t.hour ++ ':' :: padded 2 t.minute

/-- Hours, minutes and seconds, as in `12:00:00`. -/
def secondText (t : TimeOfDay) : List Char :=
  t.minuteText ++ ':' :: padded 2 t.second

end TimeOfDay

theorem Date.weekday_lt (d : Date) : d.weekday < 7 := by
  simp only [weekday]
  omega

theorem Date.startsSolid_text (d : Date) : StartsSolid d.text := by
  have hyear : StartsSolid (yearText d.year) := by
    simp only [yearText]
    split
    · exact Text.startsSolid_cons (by decide) _
    · split
      · exact Text.startsSolid_cons (by decide) _
      · exact Text.startsSolid_padded (by decide) _
  exact (hyear.append _).append _

/-- The year has four digits and no sign. -/
def Date.HasShortYear (d : Date) : Prop :=
  0 ≤ d.year ∧ d.year ≤ 9999

namespace Timestamp

/-- The short names of weekdays and months with a capital letter. -/
def weekdayTexts : List String := ["Sun", "Mon", "Tue", "Wed", "Thu", "Fri", "Sat"]

def monthTexts : List String :=
  ["Jan", "Feb", "Mar", "Apr", "May", "Jun", "Jul", "Aug", "Sep", "Oct", "Nov", "Dec"]

def weekdayText (d : Date) : List Char := (weekdayTexts.getD d.weekday "").toList

def monthText (d : Date) : List Char := (monthTexts.getD (d.month - 1) "").toList

/-- Fractions of a second: one to nine digits that are enough, or none if there is no fraction. -/
inductive WritesFraction (nanos : Nat) : List Char → Prop
  | absent (hnanos : nanos = 0) : WritesFraction nanos []
  | digits {width : Nat} (hwidth : 1 ≤ width ∧ width ≤ 9)
      (henough : nanos % Nat.pow 10 (9 - width) = 0) :
      WritesFraction nanos ('.' :: padded width (nanos / Nat.pow 10 (9 - width)))

/-- Offsets of whole minutes east of UTC, less than a day: a sign, hours and minutes. Zero has
either sign. -/
inductive WritesOffset (colon : List Char) : Int → List Char → Prop
  | east {minutes : Nat} (h : minutes < 1440) :
      WritesOffset colon minutes
        ('+' :: padded 2 (minutes / 60) ++ colon ++ padded 2 (minutes % 60))
  | west {minutes : Nat} (h : minutes < 1440) :
      WritesOffset colon (-minutes)
        ('-' :: padded 2 (minutes / 60) ++ colon ++ padded 2 (minutes % 60))

/-- Zones of internet timestamps. -/
inductive WritesZone : Int → List Char → Prop
  | utc : WritesZone 0 ['Z']
  | offset {minutes : Int} {zone : List Char} (h : WritesOffset [':'] minutes zone) :
      WritesZone minutes zone

/-- What a mail header writes in front of the day: nothing, or the weekday. -/
inductive WritesWeekday (d : Date) : List Char → Prop
  | absent : WritesWeekday d []
  | named : WritesWeekday d (weekdayText d ++ [',', ' '])

/-- Days of the month in a mail header, with or without a leading zero. -/
inductive WritesDay (d : Date) : List Char → Prop
  | short : WritesDay d (padded 1 d.day)
  | long : WritesDay d (padded 2 d.day)

/-- What a mail header writes after the minute: the second, which may be left out if it is zero. -/
inductive WritesSecond (t : TimeOfDay) : List Char → Prop
  | absent (hsecond : t.second = 0) : WritesSecond t []
  | present : WritesSecond t (':' :: padded 2 t.second)

/-- What stands between a date and a time in a plain timestamp. -/
def Separator.mark : Separator → Char
  | letterT => 'T'
  | space => ' '

/-- The ways to write an instant. -/
inductive Writes (i : Instant) : List Char → Prop
  | internet {minutes : Int} {mark : Char} {fraction zone : List Char}
      (hyear : (i.dateAt (60 * minutes)).HasShortYear) (hmark : mark ∈ ['T', 't', ' '])
      (hfraction : WritesFraction (i.nanos % 1000000000) fraction)
      (hzone : WritesZone minutes zone) :
      Writes i
        ((i.dateAt (60 * minutes)).text ++ mark :: (i.timeAt (60 * minutes)).secondText ++
          fraction ++ zone)
  | mail {minutes : Int} {weekday day second zone : List Char}
      (hyear : (i.dateAt (60 * minutes)).HasShortYear) (hwhole : i.nanos % 1000000000 = 0)
      (hweekday : WritesWeekday (i.dateAt (60 * minutes)) weekday)
      (hday : WritesDay (i.dateAt (60 * minutes)) day)
      (hsecond : WritesSecond (i.timeAt (60 * minutes)) second)
      (hzone : WritesOffset [] minutes zone) :
      Writes i
        (weekday ++ day ++ ' ' :: monthText (i.dateAt (60 * minutes)) ++
          ' ' :: padded 4 (i.dateAt (60 * minutes)).year.natAbs ++ ' ' ::
            (i.timeAt (60 * minutes)).minuteText ++
          second ++ ' ' :: zone)
  | plainSeconds {separator : Separator} {fraction : List Char}
      (hfraction : WritesFraction (i.nanos % 1000000000) fraction) :
      Writes i ((i.dateAt 0).text ++ separator.mark :: (i.timeAt 0).secondText ++ fraction)
  | plainMinutes {separator : Separator} (hsecond : (i.timeAt 0).second = 0)
      (hnanos : i.nanos = 0) :
      Writes i ((i.dateAt 0).text ++ separator.mark :: (i.timeAt 0).minuteText)
  | dateOnly (hmidnight : i.secondOfDay = 0) (hnanos : i.nanos = 0) : Writes i (i.dateAt 0).text

theorem startsSolid_weekdayText (d : Date) : StartsSolid (weekdayText d) := by
  have hall : ∀ n < 7, StartsSolid (weekdayTexts.getD n "").toList := by decide
  exact hall d.weekday d.weekday_lt

theorem Writes.startsSolid {i : Instant} {text : List Char} (h : Writes i text) :
    StartsSolid text := by
  cases h with
  | internet => exact (((Date.startsSolid_text _).append _).append _).append _
  | mail _ _ hweekday hday =>
    simp only [List.append_assoc]
    cases hweekday with
    | absent =>
      cases hday with
      | short => exact (Text.startsSolid_padded (by decide) _).append _
      | long => exact (Text.startsSolid_padded (by decide) _).append _
    | named => exact ((startsSolid_weekdayText _).append _).append _
  | plainSeconds => exact ((Date.startsSolid_text _).append _).append _
  | plainMinutes => exact (Date.startsSolid_text _).append _
  | dateOnly => exact Date.startsSolid_text _

theorem WritesOffset.endsSolid {colon zone : List Char} {minutes : Int}
    (h : WritesOffset colon minutes zone) :
    StartsSolid zone.reverse := by
  cases h with
  | east => exact Text.startsSolid_reverse_append (Text.startsSolid_reverse_padded (by decide) _) _
  | west => exact Text.startsSolid_reverse_append (Text.startsSolid_reverse_padded (by decide) _) _

theorem Writes.endsSolid {i : Instant} {text : List Char} (h : Writes i text) :
    StartsSolid text.reverse := by
  cases h with
  | internet _ _ _ hzone =>
    refine Text.startsSolid_reverse_append ?_ _
    cases hzone with
    | utc => decide
    | offset hzone => exact hzone.endsSolid
  | mail _ _ _ _ _ hzone =>
    exact Text.startsSolid_reverse_append (Text.startsSolid_reverse_append hzone.endsSolid [' ']) _
  | @plainSeconds separator fraction hfraction =>
    have hfield (front : List Char) (c : Char) :=
      Text.startsSolid_reverse_field (by decide : 0 < 2) (i.timeAt 0).second c front
    cases hfraction with
    | absent =>
      rw [List.append_nil]
      exact Text.startsSolid_reverse_append
        (hfield (separator.mark :: (i.timeAt 0).minuteText) ':') _
    | digits hwidth => exact Text.startsSolid_reverse_field hwidth.1 _ _ _
  | plainMinutes =>
    exact Text.startsSolid_reverse_append (Text.startsSolid_reverse_field (by decide) _ ':'
      (_ :: padded 2 _)) _
  | dateOnly => exact Text.startsSolid_reverse_field (by decide) _ _ _

end Timestamp
end TimeMarkup
