import TimeMarkup.Timestamp.Field
/-!
Plain timestamps without a zone, taken as UTC: a date, alone or with a time after `T` or a space.
Fields need no leading zeros and may have blanks in front of them.
-/

namespace TimeMarkup.Timestamp

/-- What stands between the date and the time; a space stands for any number of blanks, even
none. -/
inductive Separator
  | letterT
  | space
  deriving DecidableEq

inductive Precision
  | minutes
  | seconds
  deriving DecidableEq

/-- Takes a number of one or two digits, after any blanks. -/
def plainField (cs : List Char) : Option (Nat × List Char) :=
  Text.readNumber 1 2 (Text.trimLeft cs)

/-- Takes a year: a sign and any number of digits, or up to four digits. -/
def plainYear (cs : List Char) : Option (Int × List Char) :=
  match Text.trimLeft cs with
  | '-' :: rest => (Text.readDigits 1 rest).map fun (n, _, rest) => (-(n : Int), rest)
  | '+' :: rest => (Text.readDigits 1 rest).map fun (n, _, rest) => ((n : Int), rest)
  | rest => (Text.readNumber 1 4 rest).map fun (n, rest) => ((n : Int), rest)

/-- Takes year, month and day with hyphens between them. -/
def plainDate (cs : List Char) : Option (Int × Nat × Nat × List Char) := do
  let (year, cs) ← plainYear cs
  let cs ← char '-' cs
  let (month, cs) ← plainField cs
  let cs ← char '-' cs
  let (day, cs) ← plainField cs
  some (year, month, day, cs)

def Separator.take : Separator → List Char → Option (List Char)
  | letterT, cs => char 'T' cs
  | space, cs => some (Text.trimLeft cs)

/-- Takes seconds and a fraction, as far as the precision asks for them. -/
def Precision.take : Precision → List Char → Option (Nat × Nat × List Char)
  | minutes, cs => some (0, 0, cs)
  | seconds, cs => do
    let cs ← char ':' cs
    let (second, cs) ← plainField cs
    let (nanos, cs) ← fraction cs
    some (second, nanos, cs)

def plain? (separator : Separator) (precision : Precision) (cs : List Char) : Option Instant := do
  let (year, month, day, cs) ← plainDate cs
  let cs ← separator.take cs
  let (hour, cs) ← plainField cs
  let cs ← char ':' cs
  let (minute, cs) ← plainField cs
  let (second, nanos, cs) ← precision.take cs
  finish year month day hour minute second nanos 0 cs

def dateOnly? (cs : List Char) : Option Instant := do
  let (year, month, day, cs) ← plainDate cs
  finish year month day 0 0 0 0 0 cs

end TimeMarkup.Timestamp
