import TimeMarkup.Text.Blank
import TimeMarkup.Text.Numeral
/-!
Symbols of regular expressions: characters, classes of characters and assertions about a place. Most
are escapes. The braces of counts and long names are no part of the expressions here, which have no
closing brace.
-/

namespace TimeMarkup.Expression

/-- How an expression is read: whether its blanks and comments are skipped, and whether it is about
all characters or only about those of one byte. -/
structure Mode where
  skipsBlanks : Bool
  isUnicode : Bool
  deriving DecidableEq

inductive Symbol
  | literal (c : Char)
  | characterClass (isNegated : Bool)
  | category (name : Char)
  | edge
  | wordBoundary
  deriving DecidableEq

/-- The text after blanks and comments; `inComment` says whether a comment has begun. -/
def skipBlanks : Bool → List Char → List Char
  | _, [] => []
  | true, c :: cs => skipBlanks (c != '\n') cs
  | false, c :: cs =>
    if c = '#' then skipBlanks true cs
    else if isBlank c then skipBlanks false cs
    else c :: cs

namespace Mode

def skip (m : Mode) (cs : List Char) : List Char :=
  if m.skipsBlanks then skipBlanks false cs else cs

/-- Whether a symbol may be used: without Unicode, only one that has no characters of several bytes;
with it, all but unknown categories. -/
def allows (m : Mode) : Symbol → Bool
  | .literal c => m.isUnicode || c.toNat < 128
  | .characterClass isNegated => m.isUnicode || !isNegated
  | .category name => m.isUnicode && ['c', 'l', 'm', 'n', 'p', 's', 'z'].contains name.toLower
  | .edge | .wordBoundary => true

end Mode

namespace Symbol

def isMember : Symbol → Bool
  | edge | wordBoundary => false
  | _ => true

/-- The characters that letters after a backslash stand for. -/
def namedCharacters : List (Char × Char) :=
  [('a', '\x07'), ('f', '\x0c'), ('n', '\n'), ('r', '\r'), ('t', '\t'), ('v', '\x0b')]

/-- Takes the digits of a code point, of which there are `n` more. -/
def codePoint? (m : Mode) : Nat → Nat → List Char → Option (Nat × List Char)
  | 0, value, cs => some (value, cs)
  | n + 1, value, cs =>
    match m.skip cs with
    | c :: rest => do codePoint? m n (16 * value + (← Text.digitValue? 16 c)) rest
    | [] => none

/-- Takes a character that is written by its code point in `n` digits. -/
def numbered? (m : Mode) (n : Nat) (cs : List Char) : Option (Symbol × List Char) := do
  let (value, rest) ← codePoint? m n 0 cs
  if value.isValidChar then some (literal (Char.ofNat value), rest) else none

def escape? (m : Mode) : List Char → Option (Symbol × List Char)
  | [] => none
  | c :: cs =>
    match namedCharacters.lookup c with
    | some d => some (literal d, cs)
    | none =>
      match c with
      | 'x' => numbered? m 2 cs
      | 'u' => numbered? m 4 cs
      | 'U' => numbered? m 8 cs
      | 'p' | 'P' => match m.skip cs with
        | name :: rest => some (category name, rest)
        | [] => none
      | 'd' | 's' | 'w' => some (characterClass false, cs)
      | 'D' | 'S' | 'W' => some (characterClass true, cs)
      | 'A' | 'z' => some (edge, cs)
      | 'b' | 'B' | '<' | '>' => some (wordBoundary, cs)
      | _ => if c.toNat < 128 && !c.isAlphanum then some (literal c, cs) else none

@[simp] theorem escape?_nil (m : Mode) : escape? m [] = none := rfl

end Symbol

theorem length_skipBlanks_le (b : Bool) (cs : List Char) :
    (skipBlanks b cs).length ≤ cs.length := by
  fun_induction skipBlanks b cs <;> simp_all <;> omega

theorem Mode.length_skip_le (m : Mode) (cs : List Char) : (m.skip cs).length ≤ cs.length := by
  simp only [skip]
  split
  · exact length_skipBlanks_le false cs
  · exact Nat.le_refl _

end TimeMarkup.Expression
