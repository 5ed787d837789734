/-!
Glob patterns for names: `?` is any character, `*` any number of characters, and a bracket
expression any one character of a class. A pattern that is `**` between slashes stands for any
directories.
-/

namespace TimeMarkup

inductive ClassItem
  | single (c : Char)
  | range (first last : Char)
  deriving DecidableEq

inductive GlobToken
  | literal (c : Char)
  | anyChar
  | anySequence
  | anyDirectories
  | within (items : List ClassItem)
  | except (items : List ClassItem)
  deriving DecidableEq

inductive PatternFlaw
  | wildcards
  | recursiveWildcards
  | invalidRange
  deriving DecidableEq

/-- A flaw and the number of characters in front of it. -/
structure PatternError where
  position : Nat
  flaw : PatternFlaw
  deriving DecidableEq

def PatternError.message (e : PatternError) : String :=
  let flaw := match e.flaw with
    | .wildcards => "wildcards are either regular \x60*\x60 or recursive \x60**\x60"
    | .recursiveWildcards => "recursive wildcards must form a single path component"
    | .invalidRange => "invalid range pattern"
  "Pattern syntax error near position " ++ toString e.position ++ ": " ++ flaw

abbrev Glob := List GlobToken

namespace ClassItem

/-- The items of a bracket expression, where a hyphen between two characters makes a range. -/
def parse : List Char → List ClassItem
  | a :: '-' :: b :: cs => range a b :: parse cs
  | a :: cs => single a :: parse cs
  | [] => []

def contains (c : Char) : ClassItem → Bool
  | single a => a == c
  | range a b => a ≤ c && c ≤ b

end ClassItem

namespace GlobToken

/-- Whether the symbol takes a character, if it is one that takes a single character. -/
def takes (c : Char) : GlobToken → Bool
  | literal a => a == c
  | within items => items.any (·.contains c)
  | except items => !items.any (·.contains c)
  | _ => true

/-- Whether the symbol takes any number of characters. -/
def isSequence : GlobToken → Bool
  | anySequence | anyDirectories => true
  | _ => false

/-- For each place, whether it or any later one holds. -/
def orLater (bs : List Bool) : List Bool :=
  bs.foldr (fun b later => (b || later.headD false) :: later) []

/-- The places in a name from which a pattern matches, with the symbol put in front of the
pattern. -/
def extend (t : GlobToken) (cs : List Char) (ends : List Bool) : List Bool :=
  if t.isSequence then orLater ends
  else List.zipWith (fun c b => t.takes c && b) cs ends.tail ++ [false]

theorem orLater_cons (b : Bool) (bs : List Bool) :
    orLater (b :: bs) = (b || (orLater bs).headD false) :: orLater bs := rfl

@[simp] theorem length_orLater (bs : List Bool) : (orLater bs).length = bs.length := by
  induction bs with
  | nil => rfl
  | cons b bs ih => simp [orLater_cons, ih]

theorem length_extend {t : GlobToken} {cs : List Char} {ends : List Bool}
    (h : ends.length = cs.length + 1) : (t.extend cs ends).length = cs.length + 1 := by
  simp only [extend]
  split <;> simp [h]

end GlobToken

namespace Glob

/-- Takes a bracket expression after its opening bracket. The class has at least one character,
which may be a closing bracket. -/
def bracket? : List Char → Option (GlobToken × List Char)
  | '!' :: c :: cs =>
    match cs.dropWhile (· != ']') with
    | _ :: rest => some (.except (ClassItem.parse (c :: cs.takeWhile (· != ']'))), rest)
    | [] => none
  | '!' :: [] => none
  | c :: cs =>
    match cs.dropWhile (· != ']') with
    | _ :: rest => some (.within (ClassItem.parse (c :: cs.takeWhile (· != ']'))), rest)
    | [] => none
  | [] => none

theorem bracket?_length {cs rest : List Char} {t : GlobToken} (h : bracket? cs = some (t, rest)) :
    rest.length < cs.length := by
  have key : ∀ {ds : List Char} {x : Char}, ds.dropWhile (· != ']') = x :: rest →
      rest.length < ds.length := by
    intro ds x hd
    have := (List.dropWhile_sublist (l := ds) (· != ']')).length_le
    rw [hd, List.length_cons] at this
    omega
  simp only [bracket?] at h
  split at h
  · split at h
    · rename_i hd
      simp only [Option.some.injEq, Prod.mk.injEq] at h
      rw [h.2] at hd
      have := key hd
      simp only [List.length_cons]
      omega
    · simp at h
  · simp at h
  · split at h
    · rename_i hd
      simp only [Option.some.injEq, Prod.mk.injEq] at h
      rw [h.2] at hd
      have := key hd
      simp only [List.length_cons]
      omega
    · simp at h
  · simp at h

/-- The symbols of a text from a position on; `previous` is the character in front of it. -/
def parseFrom (position : Nat) (previous : Option Char) : List Char → Except PatternError Glob
  | [] => .ok []
  | '?' :: cs => (parseFrom (position + 1) (some '?') cs).map (.anyChar :: ·)
  | '*' :: '*' :: '*' :: _ => .error ⟨position + 2, .wildcards⟩
  | '*' :: '*' :: cs =>
    if previous = none ∨ previous = some '/' then
      match cs with
      | [] => .ok [.anyDirectories]
      | '/' :: rest => (parseFrom (position + 3) (some '/') rest).map (.anyDirectories :: ·)
      | _ => .error ⟨position + 2, .recursiveWildcards⟩
    else .error ⟨position - 1, .recursiveWildcards⟩
  | '*' :: cs => (parseFrom (position + 1) (some '*') cs).map (.anySequence :: ·)
  | '[' :: cs =>
    match _h : bracket? cs with
    | some (t, rest) =>
      (parseFrom (position + 1 + (cs.length - rest.length)) (some ']') rest).map (t :: ·)
    | none => .error ⟨position, .invalidRange⟩
  | c :: cs => (parseFrom (position + 1) (some c) cs).map (.literal c :: ·)
termination_by cs => cs.length
decreasing_by
  all_goals simp only [List.length_cons]
  all_goals first | omega | exact Nat.lt_succ_of_lt (bracket?_length _h)

def parse (cs : List Char) : Except PatternError Glob :=
  parseFrom 0 none cs

/-- Whether a pattern matches a name, the name without its first character, and so on to the empty
name. -/
def matchedEnds : Glob → List Char → List Bool
  | [], cs => cs.map (fun _ => false) ++ [true]
  | t :: g, cs => t.extend cs (matchedEnds g cs)

def matchesName (g : Glob) (cs : List Char) : Bool :=
  (g.matchedEnds cs).headD false

/-- The text that is the only one to match, if the pattern has no wildcards. -/
def literal? (g : Glob) : Option (List Char) :=
  g.mapM fun
    | .literal c => some c
    | _ => none

def isRecursive (g : Glob) : Bool :=
  g.contains .anyDirectories

theorem length_matchedEnds (g : Glob) (cs : List Char) :
    (g.matchedEnds cs).length = cs.length + 1 := by
  induction g with
  | nil => simp [matchedEnds]
  | cons t g ih => exact GlobToken.length_extend ih

theorem matchedEnds_eq (g : Glob) (cs : List Char) :
    g.matchedEnds cs = g.matchesName cs :: (g.matchedEnds cs).tail := by
  have h := length_matchedEnds g cs
  unfold matchesName
  cases hb : g.matchedEnds cs with
  | nil => simp [hb] at h
  | cons b bs => rfl

theorem tail_matchedEnds (g : Glob) (c : Char) (cs : List Char) :
    (g.matchedEnds (c :: cs)).tail = g.matchedEnds cs := by
  induction g with
  | nil => rfl
  | cons t g ih =>
    simp only [matchedEnds, GlobToken.extend]
    split
    · rw [matchedEnds_eq g (c :: cs), ih, GlobToken.orLater_cons, List.tail_cons]
    · rw [ih, matchedEnds_eq g cs, List.zipWith_cons_cons, List.cons_append, List.tail_cons,
        List.tail_cons]

/-- A symbol for one character takes the first one; the pattern goes on behind it. -/
theorem matchesName_takes {t : GlobToken} (h : t.isSequence = false) (g : Glob) (c : Char)
    (cs : List Char) : matchesName (t :: g) (c :: cs) = (t.takes c && g.matchesName cs) := by
  simp only [matchesName, matchedEnds, GlobToken.extend, h]
  rw [tail_matchedEnds, matchedEnds_eq g cs]
  rfl

/-- A symbol for any number of characters takes none, or the first one and any number of further
ones. -/
theorem matchesName_sequence {t : GlobToken} (h : t.isSequence = true) (g : Glob) (c : Char)
    (cs : List Char) :
    matchesName (t :: g) (c :: cs) = (g.matchesName (c :: cs) || matchesName (t :: g) cs) := by
  simp only [matchesName, matchedEnds, GlobToken.extend, h]
  rw [matchedEnds_eq g (c :: cs), tail_matchedEnds]
  rfl

@[simp] theorem matchesName_nil (cs : List Char) : matchesName [] cs = cs.isEmpty := by
  cases cs <;> simp [matchesName, matchedEnds]

theorem matchesName_anySequence (cs : List Char) : matchesName [.anySequence] cs = true := by
  induction cs with
  | nil => rfl
  | cons c cs ih => rw [matchesName_sequence rfl, ih, Bool.or_true]

end Glob

end TimeMarkup
