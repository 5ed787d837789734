import TimeMarkup.Text.Numeral
/-!
Blanks, comments, line ends and strings of TOML. A reader takes its lexeme from the front of a text
and gives back what follows it.
-/

namespace TimeMarkup.Toml

/-- Blanks within a line. -/
def isSpace (c : Char) : Bool :=
  c == ' ' || c == '\t'

def skipSpaces (cs : List Char) : List Char :=
  cs.dropWhile isSpace

def newline? : List Char → Option (List Char)
  | '\n' :: cs => some cs
  | '\r' :: '\n' :: cs => some cs
  | _ => none

/-- Characters that may stand for themselves in comments and strings: no controls save the
tabulator. -/
def isShown (c : Char) : Bool :=
  c == '\t' || (0x20 ≤ c.toNat && c.toNat != 0x7F)

def skipComment : List Char → List Char
  | '#' :: cs => cs.dropWhile isShown
  | cs => cs

/-- Takes blanks, perhaps a comment, and a line end or the end of the text. -/
def lineEnd? (cs : List Char) : Option (List Char) :=
  match skipComment (skipSpaces cs) with
  | [] => some []
  | rest => newline? rest

/-- The text without leading blanks, comments and line ends. -/
def skipLines : Nat → List Char → List Char
  | 0, cs => cs
  | fuel + 1, cs =>
    match skipComment (skipSpaces cs) with
    | [] => []
    | rest =>
      match newline? rest with
      | some rest' => skipLines fuel rest'
      | none => rest

/-- Takes a character by its code point in a number of hexadecimal digits. -/
def codePoint? (digits : Nat) (cs : List Char) : Option (Char × List Char) := do
  let ds := cs.take digits
  if ds.length = digits then
    let n ← Text.digits? 16 ds
    if n.isValidChar then some (Char.ofNat n, cs.drop digits) else none
  else none

def escape? : List Char → Option (Char × List Char)
  | 'b' :: cs => some ('\x08', cs)
  | 't' :: cs => some ('\t', cs)
  | 'n' :: cs => some ('\n', cs)
  | 'f' :: cs => some ('\x0c', cs)
  | 'r' :: cs => some ('\r', cs)
  | '"' :: cs => some ('"', cs)
  | '\\' :: cs => some ('\\', cs)
  | 'u' :: cs => codePoint? 4 cs
  | 'U' :: cs => codePoint? 8 cs
  | _ => none

/-- Takes the rest of a basic string, to its closing mark. -/
def basicString? : Nat → List Char → Option (List Char × List Char)
  | 0, _ => none
  | _, [] => none
  | _, '"' :: cs => some ([], cs)
  | fuel + 1, '\\' :: cs => do
    let (c, cs) ← escape? cs
    let (s, rest) ← basicString? fuel cs
    some (c :: s, rest)
  | fuel + 1, c :: cs => do
    if isShown c then
      let (s, rest) ← basicString? fuel cs
      some (c :: s, rest)
    else none

/-- Takes the rest of a literal string, to its closing mark. -/
def literalString? (cs : List Char) : Option (List Char × List Char) :=
  let s := cs.takeWhile fun c => isShown c && c != '\x27'
  match cs.drop s.length with
  | '\x27' :: rest => some (s, rest)
  | _ => none

/-- Takes a run of marks inside a string of several lines: fewer than three are part of the string,
and of more the last three close it, but at most two are part of it. Says whether the string is
closed. -/
def marks (mark : Char) (cs : List Char) : List Char × Bool × List Char :=
  let n := (cs.takeWhile (· == mark)).length
  if n < 3 then (List.replicate n mark, false, cs.drop n)
  else
    let kept := min (n - 3) 2
    (List.replicate kept mark, true, cs.drop (kept + 3))

def skipBlankLines : List Char → List Char
  | '\n' :: cs => skipBlankLines cs
  | '\r' :: '\n' :: cs => skipBlankLines cs
  | c :: cs => if isSpace c then skipBlankLines cs else c :: cs
  | [] => []

/-- Takes a line break that is escaped, and all blanks and line ends after it. -/
def escapedBreak? (cs : List Char) : Option (List Char) :=
  (newline? (skipSpaces cs)).map skipBlankLines

/-- Takes the rest of a string of several lines between marks, in which a backslash may have a
meaning. -/
def longString? (mark : Char) (escapes : Bool) : Nat → List Char → Option (List Char × List Char)
  | 0, _ => none
  | _, [] => none
  | fuel + 1, c :: cs =>
    if c = mark then
      let (s, closed, rest) := marks mark (c :: cs)
      if closed then some (s, rest)
      else (longString? mark escapes fuel rest).map fun (t, rest) => (s ++ t, rest)
    else if escapes && c == '\\' then
      match escapedBreak? cs with
      | some rest => longString? mark escapes fuel rest
      | none => do
        let (d, rest) ← escape? cs
        let (t, rest) ← longString? mark escapes fuel rest
        some (d :: t, rest)
    else match newline? (c :: cs) with
      | some rest => (longString? mark escapes fuel rest).map fun (t, rest) => ('\n' :: t, rest)
      | none =>
        if isShown c then (longString? mark escapes fuel cs).map fun (t, rest) => (c :: t, rest)
        else none

def skipNewline (cs : List Char) : List Char :=
  (newline? cs).getD cs

def string? (cs : List Char) : Option (String × List Char) :=
  let chars := match cs with
    | '"' :: '"' :: '"' :: rest => longString? '"' true rest.length (skipNewline rest)
    | '\x27' :: '\x27' :: '\x27' :: rest => longString? '\x27' false rest.length (skipNewline rest)
    | '"' :: rest => basicString? rest.length rest
    | '\x27' :: rest => literalString? rest
    | _ => none
  chars.map fun (s, rest) => (String.ofList s, rest)

def isKeyChar (c : Char) : Bool :=
  c.isAlphanum || c == '-' || c == '_'

def simpleKey? : List Char → Option (String × List Char)
  | '"' :: cs => (basicString? cs.length cs).map fun (s, rest) => (String.ofList s, rest)
  | '\x27' :: cs => (literalString? cs).map fun (s, rest) => (String.ofList s, rest)
  | cs =>
    match cs.takeWhile isKeyChar with
    | [] => none
    | k => some (String.ofList k, cs.drop k.length)

/-- How many keys a dotted key may have, and how deep values may be nested. -/
def nestingLimit : Nat := 79

/-- Takes keys with dots between them, and the blanks around each. -/
def keyPath? : Nat → List Char → Option (List String × List Char)
  | 0, _ => none
  | fuel + 1, cs => do
    let (k, cs) ← simpleKey? (skipSpaces cs)
    match skipSpaces cs with
    | '.' :: rest =>
      let (ks, rest) ← keyPath? fuel rest
      some (k :: ks, rest)
    | rest => some ([k], rest)

/-- Takes a dotted key; gives the keys in front and the last one. -/
def key? (cs : List Char) : Option (List String × String × List Char) := do
  let (ks, rest) ← keyPath? nestingLimit cs
  let last ← ks.getLast?
  some (ks.dropLast, last, rest)

end TimeMarkup.Toml
