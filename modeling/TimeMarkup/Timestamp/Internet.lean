import TimeMarkup.Timestamp.Field
/-!
Internet timestamps in the manner of RFC 3339: `2024-06-15T12:00:00.5+02:00`.
-/

namespace TimeMarkup.Timestamp

/-- Takes `Z`, or a sign, hours, a colon and minutes; the minus sign may be U+2212. -/
def numericOffset : List Char → Option (Int × List Char)
  | 'Z' :: cs => some (0, cs)
  | 'z' :: cs => some (0, cs)
  | '+' :: cs => (hoursMinutes (char ':') cs).map fun (n, rest) => ((n : Int), rest)
  | '-' :: cs => (hoursMinutes (char ':') cs).map fun (n, rest) => (-(n : Int), rest)
  | '\u2212' :: cs => (hoursMinutes (char ':') cs).map fun (n, rest) => (-(n : Int), rest)
  | _ => none

def dateTimeMark : List Char → Option (List Char)
  | 'T' :: cs => some cs
  | 't' :: cs => some cs
  | ' ' :: cs => some cs
  | _ => none

def internet? (cs : List Char) : Option Instant := do
  let (year, cs) ← Text.readNumber 4 4 cs
  let cs ← char '-' cs
  let (month, cs) ← Text.readNumber 2 2 cs
  let cs ← char '-' cs
  let (day, cs) ← Text.readNumber 2 2 cs
  let cs ← dateTimeMark cs
  let (hour, cs) ← Text.readNumber 2 2 cs
  let cs ← char ':' cs
  let (minute, cs) ← Text.readNumber 2 2 cs
  let cs ← char ':' cs
  let (second, cs) ← Text.readNumber 2 2 cs
  let (nanos, cs) ← fraction cs
  let (offset, cs) ← numericOffset cs
  if isOffset offset then finish year month day hour minute second nanos offset cs else none

end TimeMarkup.Timestamp
