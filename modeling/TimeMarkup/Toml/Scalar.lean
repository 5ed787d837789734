import TimeMarkup.Settings.Value
import TimeMarkup.Time.Date
import TimeMarkup.Toml.Lexeme
/-!
Numbers, truth values and dates of TOML. Of dates and fractions only the kind of value is kept.
-/

namespace TimeMarkup.Toml

open Settings (Value)

/-- Takes digits of a base, with an underscore allowed between two of them. -/
def digitRun (base : Nat) : List Char → List Char × List Char
  | '_' :: c :: cs =>
    if (Text.digitValue? base c).isSome then
      let (ds, rest) := digitRun base cs
      (c :: ds, rest)
    else ([], '_' :: c :: cs)
  | c :: cs =>
    if (Text.digitValue? base c).isSome then
      let (ds, rest) := digitRun base cs
      (c :: ds, rest)
    else ([], c :: cs)
  | [] => ([], [])

def digits? (base : Nat) : List Char → Option (List Char × List Char)
  | '_' :: _ => none
  | cs =>
    match digitRun base cs with
    | ([], _) => none
    | r => some r

/-- Takes decimal digits, the first of which is zero only if it is the only one. -/
def decimal? : List Char → Option (List Char × List Char)
  | '0' :: cs => some (['0'], cs)
  | cs => digits? 10 cs

/-- Takes a sign, if there is one; says whether it is a minus. -/
def sign : List Char → Bool × List Char
  | '+' :: cs => (false, cs)
  | '-' :: cs => (true, cs)
  | cs => (false, cs)

/-- The integer of a sign and digits, if it has at most 64 bits. -/
def integerOf? (negative : Bool) (base : Nat) (ds : List Char) : Option Int := do
  let n ← Text.digits? base ds
  if negative then (if n ≤ Nat.pow 2 63 then some (-(n : Int)) else none)
  else (if n < Nat.pow 2 63 then some (n : Int) else none)

def integer? (cs : List Char) : Option (Value × List Char) :=
  let based (base : Nat) (rest : List Char) : Option (Value × List Char) := do
    let (ds, rest) ← digits? base rest
    let n ← integerOf? false base ds
    some (.integer n, rest)
  match cs with
  | '0' :: 'x' :: rest => based 16 rest
  | '0' :: 'o' :: rest => based 8 rest
  | '0' :: 'b' :: rest => based 2 rest
  | _ => do
    let (negative, cs) := sign cs
    let (ds, rest) ← decimal? cs
    let n ← integerOf? negative 10 ds
    some (.integer n, rest)

/-- Whether `m · 10 ^ e`, where `m` has a number of digits, is beyond the largest binary fraction
with 53 digits and an exponent of eleven. -/
def isInfinite (m digits : Nat) (e : Int) : Bool :=
  let bound := Nat.pow 2 1024 - Nat.pow 2 970
  let magnitude := digits + e
  if m = 0 || magnitude < 309 then false
  else if 310 < magnitude then true
  else if 0 ≤ e then bound ≤ m * Nat.pow 10 e.toNat
  else bound * Nat.pow 10 (-e).toNat ≤ m

def exponent? : List Char → Option (Int × List Char)
  | c :: cs =>
    if c = 'e' ∨ c = 'E' then do
      let (negative, cs) := sign cs
      let (ds, rest) ← digits? 10 cs
      let n ← Text.digits? 10 ds
      some (if negative then -(n : Int) else n, rest)
    else none
  | [] => none

/-- Takes a fraction: digits with a point, an exponent or both, or a word for one that is not
finite. -/
def fraction? (cs : List Char) : Option (Value × List Char) :=
  let (negative, cs) := sign cs
  match cs with
  | 'i' :: 'n' :: 'f' :: rest => some (.fraction, rest)
  | 'n' :: 'a' :: 'n' :: rest => some (.fraction, rest)
  | _ => do
    let (ds, cs) ← decimal? cs
    let (fs, e, rest) ← match cs with
      | '.' :: cs => do
        let (fs, cs) ← digits? 10 cs
        let (e, rest) := (exponent? cs).getD (0, cs)
        some (fs, e, rest)
      | _ => do
        let (e, rest) ← exponent? cs
        some ([], e, rest)
    let m ← Text.digits? 10 (ds ++ fs)
    let significant := (Nat.toDigits 10 m).length
    if !negative && isInfinite m significant (e - fs.length) then none else some (.fraction, rest)

def hourMinute? (cs : List Char) : Option (List Char) := do
  let (hour, cs) ← Text.readNumber 2 2 cs
  match cs with
  | ':' :: cs =>
    let (minute, cs) ← Text.readNumber 2 2 cs
    if hour < 24 ∧ minute < 60 then some cs else none
  | _ => none

/-- Takes a time of day, perhaps with a fraction of a second. -/
def time? (cs : List Char) : Option (List Char) := do
  let cs ← hourMinute? cs
  match cs with
  | ':' :: cs =>
    let (second, cs) ← Text.readNumber 2 2 cs
    if second ≤ 60 then
      match cs with
      | '.' :: rest => (Text.readDigits 1 rest).map fun r => r.2.2
      | _ => some cs
    else none
  | _ => none

def offset? : List Char → Option (List Char)
  | 'Z' :: cs => some cs
  | 'z' :: cs => some cs
  | '+' :: cs => hourMinute? cs
  | '-' :: cs => hourMinute? cs
  | _ => none

def date? (cs : List Char) : Option (List Char) := do
  let (year, cs) ← Text.readNumber 4 4 cs
  match cs with
  | '-' :: cs =>
    let (month, cs) ← Text.readNumber 2 2 cs
    match cs with
    | '-' :: cs =>
      let (day, cs) ← Text.readNumber 2 2 cs
      let _ ← Date.of? year month day
      some cs
    | _ => none
  | _ => none

/-- Takes a date, a time of day, or both, then perhaps with an offset. -/
def moment? (cs : List Char) : Option (Value × List Char) :=
  match date? cs with
  | none => (time? cs).map (.moment, ·)
  | some rest =>
    let mark := match rest with
      | c :: rest' => if c = 'T' ∨ c = 't' ∨ c = ' ' then time? rest' else none
      | [] => none
    match mark with
    | none => some (.moment, rest)
    | some rest' => some (.moment, (offset? rest').getD rest')

def boolean? : List Char → Option (Value × List Char)
  | 't' :: 'r' :: 'u' :: 'e' :: cs => some (.boolean true, cs)
  | 'f' :: 'a' :: 'l' :: 's' :: 'e' :: cs => some (.boolean false, cs)
  | _ => none

def scalar? (cs : List Char) : Option (Value × List Char) :=
  (string? cs).map (fun (s, rest) => (.text s, rest)) <|> boolean? cs <|> moment? cs <|>
    fraction? cs <|> integer? cs

end TimeMarkup.Toml
