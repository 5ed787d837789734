import TimeMarkup.Timestamp.Field
/-!
Timestamps of mail headers in the manner of RFC 2822: `Sat, 15 Jun 2024 12:00:00 +0200 (CEST)`.
-/

namespace TimeMarkup.Timestamp

def weekdayNames : List String := ["sun", "mon", "tue", "wed", "thu", "fri", "sat"]

def monthNames : List String :=
  ["jan", "feb", "mar", "apr", "may", "jun", "jul", "aug", "sep", "oct", "nov", "dec"]

/-- Takes a three-letter name in any case; gives its place in the list. -/
def shortName (names : List String) (cs : List Char) : Option (Nat × List Char) :=
  (names.findIdx? fun name => name.toList = (cs.take 3).map Char.toLower).map (·, cs.drop 3)

/-- Takes a weekday and a comma, if a weekday is there. -/
def weekday (cs : List Char) : Option (Option Nat × List Char) :=
  match shortName weekdayNames cs with
  | none => some (none, cs)
  | some (n, rest) => (char ',' rest).map (some n, ·)

/-- Takes a year; two digits stand for 1950 to 2049, three for a year from 1900 on. -/
def mailYear (cs : List Char) : Option (Nat × List Char) :=
  (Text.readDigits 2 cs).map fun (year, digits, rest) =>
    (if digits = 2 then (if year ≤ 49 then year + 2000 else year + 1900)
      else if digits = 3 then year + 1900 else year, rest)

/-- Takes a colon and seconds, if a colon is there. -/
def mailSecond (cs : List Char) : Option (Nat × List Char) :=
  match char ':' (Text.trimLeft cs) with
  | some rest => Text.readNumber 2 2 rest
  | none => some (0, cs)

/-- Hours east of UTC of a zone name in small letters. A single letter, save J, counts as UTC. -/
def zoneHours? (name : String) : Option Int :=
  match name with
  | "gmt" | "ut" => some 0
  | "edt" => some (-4)
  | "est" | "cdt" => some (-5)
  | "cst" | "mdt" => some (-6)
  | "mst" | "pdt" => some (-7)
  | "pst" => some (-8)
  | _ => if name.length = 1 ∧ name ≠ "j" then some 0 else none

/-- Takes a zone: a name, or a sign and four digits. -/
def mailOffset (cs : List Char) : Option (Int × List Char) :=
  match cs.takeWhile Char.isAlpha, cs with
  | [], '+' :: rest => (hoursMinutes some rest).map fun (n, rest) => ((n : Int), rest)
  | [], '-' :: rest => (hoursMinutes some rest).map fun (n, rest) => (-(n : Int), rest)
  | [], _ => none
  | name, _ =>
    (zoneHours? (String.ofList (name.map Char.toLower))).map fun h =>
      (3600 * h, cs.dropWhile Char.isAlpha)

/-- Takes the rest of a comment in which `depth` more brackets are open than closed. -/
def commentTail : Nat → List Char → Option (List Char)
  | _, [] => none
  | _, ['\\'] => none
  | depth, '\\' :: _ :: cs => commentTail depth cs
  | depth, '(' :: cs => commentTail (depth + 1) cs
  | 0, ')' :: cs => some cs
  | depth + 1, ')' :: cs => commentTail depth cs
  | depth, _ :: cs => commentTail depth cs

theorem commentTail_length {depth : Nat} {cs rest : List Char}
    (h : commentTail depth cs = some rest) :
    rest.length < cs.length := by
  fun_induction commentTail depth cs <;> simp_all <;> omega

/-- Takes all comments; blanks may stand in front of each. -/
def comments (cs : List Char) : List Char :=
  match _ht : Text.trimLeft cs with
  | '(' :: inner =>
    match _hc : commentTail 0 inner with
    | some rest => comments rest
    | none => cs
  | _ => cs
termination_by cs.length
decreasing_by
  have h := Text.trimLeft_length_le cs
  have h' := commentTail_length _hc
  rw [_ht, List.length_cons] at h
  omega

/-- Reads an RFC 2822 timestamp. A weekday that is given has to be that of the date. -/
def mail? (cs : List Char) : Option Instant := do
  let (named, cs) ← weekday (Text.trimLeft cs)
  let (day, cs) ← Text.readNumber 1 2 (Text.trimLeft cs)
  let cs ← blanks cs
  let (month, cs) ← shortName monthNames cs
  let cs ← blanks cs
  let (year, cs) ← mailYear cs
  let cs ← blanks cs
  let (hour, cs) ← Text.readNumber 2 2 cs
  let cs ← char ':' (Text.trimLeft cs)
  let (minute, cs) ← Text.readNumber 2 2 (Text.trimLeft cs)
  let (second, cs) ← mailSecond cs
  let cs ← blanks cs
  let (offset, cs) ← mailOffset cs
  let date ← Date.of? year (month + 1) day
  if named.all (· = date.weekday) && isOffset offset then
    finish year (month + 1) day hour minute second 0 offset (comments cs)
  else none

end TimeMarkup.Timestamp
