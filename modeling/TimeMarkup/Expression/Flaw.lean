import TimeMarkup.Expression.CharacterSet
import TimeMarkup.Text.Alphanumeric
/-!
Which texts are regular expressions that can be compiled. Groups, alternatives and repetitions are
read from left to right; flags hold up to the end of the group in which they stand.
-/

namespace TimeMarkup.Expression

inductive Flaw
  | malformed
  | wordBoundary
  deriving DecidableEq

def Flaw.message : Flaw → String
  | malformed => "error building NFA"
  | wordBoundary =>
    "unsupported regex feature for DFAs: cannot build DFAs for regexes with Unicode word " ++
      "boundaries; switch to ASCII word boundaries, or heuristically enable Unicode word " ++
      "boundaries or use a different regex engine"

/-- How many parts of an expression may lie inside each other. -/
def maxHeight : Nat := 250

/-- What has been read at one level of grouping: the heights of the finished alternatives, and those
of the items of the present one, the last item first. Flags are items without height. -/
structure Level where
  finished : List Nat
  items : List (Option Nat)

namespace Level

def empty : Level := ⟨[], []⟩

def add (l : Level) (item : Option Nat) : Level :=
  { l with items := item :: l.items }

def itemsHeight (l : Level) : Nat :=
  heightOfParts (l.items.map (·.getD 0))

def branch (l : Level) : Level :=
  ⟨l.itemsHeight :: l.finished, []⟩

def height (l : Level) : Nat :=
  heightOfParts (l.itemsHeight :: l.finished)

/-- The level with its last item repeated. There has to be one, and it must not be flags. -/
def repeated? (l : Level) : Option Level :=
  match l.items with
  | some h :: items => some { l with items := some (h + 1) :: items }
  | _ => none

end Level

/-- Flags that are set and, after a hyphen, flags that are cleared; each occurs once. -/
abbrev Flags := List Char

namespace Flags

def isValid (f : Flags) : Bool :=
  f.all (['i', 'm', 's', 'U', 'u', 'R', 'x', '-'].contains ·)
    && f.all (fun c => f.count c == 1) && f.getLast? != some '-'

/-- The value of a flag, or the present one if it is not among them. -/
def value (f : Flags) (name : Char) (present : Bool) : Bool :=
  if f.contains name then (f.takeWhile (· != '-')).contains name else present

def apply (f : Flags) (m : Mode) : Mode :=
  ⟨f.value 'x' m.skipsBlanks, f.value 'u' m.isUnicode⟩

end Flags

/-- What has been read of an expression: the innermost open level and its mode, the levels around it
with their modes, the names of groups, and whether there is a boundary between words of all
scripts. -/
structure Progress where
  mode : Mode
  level : Level
  outer : List (Mode × Level)
  names : List (List Char)
  hasWordBoundary : Bool

namespace Progress

def start : Progress := ⟨⟨false, true⟩, .empty, [], [], false⟩

def add (p : Progress) (height : Nat) : Progress :=
  { p with level := p.level.add (some height) }

/-- The progress after a symbol, if its mode has it. -/
def addSymbol? (p : Progress) (s : Symbol) : Option Progress :=
  if p.mode.allows s then
    some { p.add 0 with
      hasWordBoundary := p.hasWordBoundary || (p.mode.isUnicode && s == .wordBoundary) }
  else none

/-- The progress inside a new group that is read in a mode. -/
def enter (p : Progress) (inside : Mode) : Progress :=
  { p with mode := inside, level := .empty, outer := (p.mode, p.level) :: p.outer }

def leave? (p : Progress) : Option Progress :=
  match p.outer with
  | (mode, level) :: outer =>
    some { p with mode := mode, level := level.add (some (p.level.height + 1)), outer := outer }
  | [] => none

/-- Whether a text may name a group: it starts with a letter, and no other group has it. -/
def isFreshName (p : Progress) (name : List Char) : Bool :=
  match name with
  | [] => false
  | c :: cs =>
    (c == '_' || Text.isAlphabetic c)
      && cs.all (fun c => ['_', '.', '[', ']'].contains c || Text.isAlphanumeric c)
      && !p.names.contains name

/-- The progress inside a group with a name, which ends at an angle bracket. -/
def enterNamed? (p : Progress) (cs : List Char) : Option (Progress × List Char) :=
  let name := cs.takeWhile (· != '>')
  match cs.drop name.length with
  | _ :: rest =>
    if p.isFreshName name then
      some ({ p.enter p.mode with names := name :: p.names }, rest)
    else
      none
  | [] => none

/-- The progress after flags, which are for the rest of the present group or for a group of their
own. -/
def addFlags? (p : Progress) (cs : List Char) : Option (Progress × List Char) :=
  let flags : Flags := cs.takeWhile fun c => c != ':' && c != ')'
  if flags.isValid then
    match cs.drop flags.length with
    | ':' :: rest => some (p.enter (flags.apply p.mode), rest)
    | ')' :: rest =>
      if flags.isEmpty then none
      else some ({ p with mode := flags.apply p.mode, level := p.level.add none }, rest)
    | _ => none
  else none

/-- The progress after the start of a group behind its parenthesis, or after flags. -/
def open? (p : Progress) (cs : List Char) : Option (Progress × List Char) :=
  match p.mode.skip cs with
  | '?' :: 'P' :: '<' :: rest => p.enterNamed? rest
  | '?' :: '<' :: rest => p.enterNamed? rest
  | '?' :: rest => p.addFlags? rest
  | rest => some (p.enter p.mode, rest)

def step? (p : Progress) : List Char → Option (Progress × List Char)
  | [] => none
  | c :: cs =>
    match c with
    | '(' => p.open? cs
    | ')' => p.leave?.map (·, cs)
    | '|' => some ({ p with level := p.level.branch }, cs)
    | '[' => (set? p.mode cs).map fun (height, rest) => (p.add height, rest)
    | '?' | '*' | '+' =>
      p.level.repeated?.map fun l =>
        ({ p with level := l }, if cs.head? = some '?' then cs.drop 1 else cs)
    | '{' => none
    | '.' => (p.addSymbol? (.characterClass true)).map (·, cs)
    | '^' | '$' => (p.addSymbol? .edge).map (·, cs)
    | '\\' => do
      let (s, rest) ← Symbol.escape? p.mode cs
      (p.addSymbol? s).map (·, rest)
    | c => (p.addSymbol? (.literal c)).map (·, cs)

/-- The progress after a whole text. Each step takes at least one character, so that there are at
most as many steps as characters. -/
def read? : Nat → Progress → List Char → Option Progress
  | fuel, p, cs =>
    match p.mode.skip cs, fuel with
    | [], _ => some p
    | _ :: _, 0 => none
    | c :: cs, fuel + 1 => do
      let (p, rest) ← p.step? (c :: cs)
      read? fuel p rest

end Progress

def flaw? (cs : List Char) : Option Flaw :=
  match Progress.start.read? cs.length cs with
  | none => some .malformed
  | some p =>
    if !p.outer.isEmpty || maxHeight < p.level.height then some .malformed
    else if p.hasWordBoundary then some .wordBoundary
    else none

@[simp] theorem flaw?_nil : flaw? [] = none := rfl

end TimeMarkup.Expression
