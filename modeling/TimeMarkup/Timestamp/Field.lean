import TimeMarkup.Text.Blank
import TimeMarkup.Text.Numeral
import TimeMarkup.Time.Instant
/-!
Fields that the timestamp formats share. A reader takes its field from the front of a text and
gives back what follows it.
-/

namespace TimeMarkup.Timestamp

def char (c : Char) : List Char → Option (List Char)
  | d :: cs => if d = c then some cs else none
  | [] => none

/-- Takes at least one blank, and all that follow it. -/
def blanks : List Char → Option (List Char)
  | c :: cs => if isBlank c then some (Text.trimLeft cs) else none
  | [] => none

/-- Takes a fraction of a second in nanoseconds; digits after the ninth do not count. -/
def nanosecond (cs : List Char) : Option (Nat × List Char) :=
  (Text.readNumber 1 9 cs).map fun (n, rest) =>
    (n * Nat.pow 10 (9 - (cs.length - rest.length)), rest.dropWhile Char.isDigit)

/-- Takes a point and a fraction of a second, if there is a point. -/
def fraction : List Char → Option (Nat × List Char)
  | '.' :: cs => nanosecond cs
  | cs => some (0, cs)

/-- Takes two digits of hours, what `colon` takes, and two digits of minutes below sixty; gives
seconds. -/
def hoursMinutes (colon : List Char → Option (List Char)) (cs : List Char) :
    Option (Nat × List Char) := do
  let (hours, cs) ← Text.readNumber 2 2 cs
  let cs ← colon cs
  let (minutes, cs) ← Text.readNumber 2 2 cs
  if minutes < 60 then some (3600 * hours + 60 * minutes, cs) else none

/-- Whether an offset from UTC is less than a day. -/
def isOffset (seconds : Int) : Bool :=
  -86400 < seconds && seconds < 86400

/-- The instant of the fields, where nothing may be left to read. -/
def finish (year : Int) (month day hour minute second nanos : Nat) (offset : Int) :
    List Char → Option Instant
  | _ :: _ => none
  | [] => do
    let date ← Date.of? year month day
    let time ← TimeOfDay.of? hour minute second nanos
    Instant.of? date time offset

theorem char_cons_self (c : Char) (cs : List Char) : char c (c :: cs) = some cs := by
  simp [char]

end TimeMarkup.Timestamp
