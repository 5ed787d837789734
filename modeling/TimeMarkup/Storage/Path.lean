import TimeMarkup.Text.Order
import TimeMarkup.Text.Split
/-!
Paths as they are spelled, the steps that a path takes through directories, and its components, by
which paths are compared.
-/

namespace TimeMarkup

abbrev Path := List Char

namespace Path

/-- One step of a path: to the same directory, to its parent, or to an entry. -/
inductive Step
  | here
  | up
  | entry (name : List Char)
  deriving DecidableEq

def Step.of (name : List Char) : Step :=
  if name = ['.'] then here else if name = ['.', '.'] then up else entry name

def isAbsolute (p : Path) : Bool :=
  p.head? == some '/'

/-- Whether the path ends in a slash, and so has to lead to a directory. -/
def hasTrailingSlash (p : Path) : Bool :=
  p.getLast? == some '/'

/-- The steps of the path; a slash at the end counts as a step to the same directory. -/
def steps (p : Path) : List Step :=
  (Text.words (· == '/') p).map Step.of ++ (if p.hasTrailingSlash then [.here] else [])

def join (base p : Path) : Path :=
  if p.isAbsolute || base.isEmpty then p
  else if base.hasTrailingSlash then base ++ p
  else base ++ '/' :: p

/-- A component of a path, by which paths are compared. -/
inductive Component
  | root
  | here
  | up
  | entry (name : List Char)
  deriving DecidableEq

namespace Component

def ofStep : Step → Component
  | .here => here
  | .up => up
  | .entry name => entry name

/-- The place of the kind of component in the order. -/
def rank : Component → Nat
  | root => 0
  | here => 1
  | up => 2
  | entry _ => 3

/-- The order of components: by kind, and entries by name. -/
def le (a b : Component) : Bool :=
  match a, b with
  | entry m, entry n => Text.le m n
  | _, _ => a.rank ≤ b.rank

end Component

/-- The components of the path: the root if it starts there, a leading step to the same directory,
and all entries and steps up. -/
def components (p : Path) : List Component :=
  let cs := p.steps.map Component.ofStep
  if p.isAbsolute then .root :: cs.filter (· ≠ .here)
  else match cs with
    | .here :: rest => .here :: rest.filter (· ≠ .here)
    | _ => cs.filter (· ≠ .here)

def Component.text : Component → List Char
  | .root => ['/']
  | .here => ['.']
  | .up => ['.', '.']
  | .entry name => name

def ofComponents (cs : List Component) : Path :=
  cs.foldl (fun p c => p.join c.text) []

/-- The path and those of the directories in which it lies, down from the longest, without the
directory at which all of them start. -/
def ancestors (p : Path) : List Path :=
  let cs := p.components
  let shortest := if p.isAbsolute then 2 else 1
  if cs.length < shortest then []
  else p :: ((List.range cs.length).drop shortest).reverse.map fun n => ofComponents (cs.take n)

/-- Whether two spellings are the same path. -/
def same (p q : Path) : Bool :=
  p.components == q.components

/-- The order of lists of components, entry by entry. -/
def leComponents : List Component → List Component → Bool
  | [], _ => true
  | _ :: _, [] => false
  | a :: as, b :: bs => if a = b then leComponents as bs else a.le b

def le (p q : Path) : Bool :=
  leComponents p.components q.components

/-- The name of what the path leads to, unless it ends in a step up. -/
def fileName? (p : Path) : Option (List Char) :=
  match p.components.getLast? with
  | some (.entry name) => some name
  | _ => none

theorem same_iff {p q : Path} : p.same q = true ↔ p.components = q.components := by
  simp [same]

theorem same_refl (p : Path) : p.same p = true := by
  simp [same]

end Path

end TimeMarkup
