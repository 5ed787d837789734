import TimeMarkup.Expression.Symbol
/-!
Sets of characters between brackets. Sets hold characters, ranges, classes and other sets, and are
joined by operators; of a set only its height is kept, that is, how many sets, lists of members and
operators lie inside each other at most.
-/

namespace TimeMarkup.Expression

/-- The height of a list of parts: what has one part is no higher than that. -/
def heightOfParts : List Nat → Nat
  | [] => 0
  | [h] => h
  | hs => hs.foldl max 0 + 1

/-- A set that is being read: the heights of its members since the last operator, and of all before
it. -/
structure OpenSet where
  members : List Nat
  left : Option Nat

namespace OpenSet

def add (s : OpenSet) (height : Nat) : OpenSet :=
  { s with members := height :: s.members }

def height (s : OpenSet) : Nat :=
  match s.left with
  | none => heightOfParts s.members
  | some left => max left (heightOfParts s.members) + 1

def operate (s : OpenSet) : OpenSet :=
  ⟨[], some s.height⟩

/-- Takes the hyphens at the start of a set, which stand for themselves. -/
def takeHyphens (m : Mode) : Nat → OpenSet → List Char → OpenSet × List Char
  | fuel + 1, s, '-' :: cs => takeHyphens m fuel (s.add 0) (m.skip cs)
  | _, s, cs => (s, cs)

/-- Takes the start of a set after its bracket: whether it is negated, hyphens, and a closing
bracket that stands for itself where the set would be empty. -/
def begin? (m : Mode) (cs : List Char) : Option (OpenSet × List Char) :=
  let cs := m.skip cs
  let isNegated := cs.head? == some '^'
  if m.allows (.characterClass isNegated) then
    let cs := if isNegated then m.skip (cs.drop 1) else cs
    match takeHyphens m cs.length ⟨[], none⟩ cs with
    | (⟨[], _⟩, ']' :: rest) => some (⟨[0], none⟩, rest)
    | start => some start
  else none

end OpenSet

def classNames : List String :=
  ["alnum", "alpha", "ascii", "blank", "cntrl", "digit", "graph", "lower", "print", "punct",
    "space", "upper", "word", "xdigit"]

/-- Takes the name of a class of ASCII characters between colons, after its bracket. -/
def namedClass? : List Char → Option (Symbol × List Char)
  | ':' :: cs =>
    let isNegated := cs.head? == some '^'
    let cs := if isNegated then cs.drop 1 else cs
    let name := cs.takeWhile (· != ':')
    match cs.drop name.length with
    | ':' :: ']' :: rest =>
      if classNames.contains (String.ofList name) then
        some (.characterClass isNegated, rest)
      else
        none
    | _ => none
  | _ => none

/-- Takes a symbol in a set, where only escapes are no characters that stand for themselves. -/
def memberSymbol? (m : Mode) : List Char → Option (Symbol × List Char)
  | [] => none
  | '\\' :: cs => do
    let (s, rest) ← Symbol.escape? m cs
    if s.isMember && m.allows s then some (s, rest) else none
  | c :: cs => if m.allows (.literal c) then some (.literal c, cs) else none

/-- Takes a member of a set, or a range of characters from a smaller to a larger one. A hyphen
before the end of the set or before another hyphen makes no range. -/
def member? (m : Mode) (cs : List Char) : Option (List Char) := do
  let (first, rest) ← memberSymbol? m cs
  match m.skip rest with
  | '-' :: after =>
    match m.skip after with
    | ']' :: _ | '-' :: _ => some ('-' :: after)
    | after =>
      match first, ← memberSymbol? m after with
      | .literal a, (.literal b, rest) => if a.toNat ≤ b.toNat then some rest else none
      | _, _ => none
  | rest => some rest

/-- Takes the rest of a set up to its closing bracket, inside the sets that are open around it, and
gives the height of the outermost. Each step takes at least one character, so that there are at most
as many steps as characters. -/
def closeSet? (m : Mode) : Nat → OpenSet → List OpenSet → List Char → Option (Nat × List Char)
  | 0, _, _, _ => none
  | fuel + 1, s, outer, cs =>
    match m.skip cs with
    | '[' :: rest =>
      match namedClass? rest with
      | some (c, rest) => if m.allows c then closeSet? m fuel (s.add 0) outer rest else none
      | none => do
        let (inner, rest) ← OpenSet.begin? m rest
        closeSet? m fuel inner (s :: outer) rest
    | ']' :: rest =>
      match outer with
      | [] => some (s.height + 1, rest)
      | o :: outer => closeSet? m fuel (o.add (s.height + 1)) outer rest
    | '&' :: '&' :: rest | '-' :: '-' :: rest | '~' :: '~' :: rest =>
      closeSet? m fuel s.operate outer rest
    | cs => do closeSet? m fuel (s.add 0) outer (← member? m cs)

/-- Takes a set after its opening bracket, and gives its height. -/
def set? (m : Mode) (cs : List Char) : Option (Nat × List Char) := do
  let (s, rest) ← OpenSet.begin? m cs
  closeSet? m (rest.length + 1) s [] rest

end TimeMarkup.Expression
