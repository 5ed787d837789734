import TimeMarkup.Storage.FileSystem
import TimeMarkup.Storage.Glob
/-!
Input files. An input that names an existing path stands for itself; any other input is a pattern
and stands for the files that match it. No path is listed twice.
-/

namespace TimeMarkup

namespace Discovery

/-- A pattern for paths: the path at which matching starts, a pattern for each component, and
whether only directories match. -/
structure PathPattern where
  scope : Path
  segments : List Glob
  onlyDirectories : Bool

/-- The parts of a text before each slash, and after the last one if something is there. -/
def segmentTexts (cs : List Char) : List (List Char) :=
  let fs := Text.fields (· == '/') cs
  if fs.getLast? = some [] then fs.dropLast else fs

/-- The pattern that an input writes. The whole of it has to be a pattern, and each component. -/
def PathPattern.parse (input : Path) : Except PatternError PathPattern := do
  let _ ← Glob.parse input
  let inner := if input.isAbsolute then input.drop 1 else input
  let segments ← (segmentTexts inner).mapM Glob.parse
  .ok
    { scope := if input.isAbsolute then ['/'] else ['.']
      segments := if inner.isEmpty then [[]] else segments
      onlyDirectories := input.hasTrailingSlash }

mutual

def below (fs : FileSystem) (onlyDirectories : Bool) : Nat → List Glob → Path → List Path
  | 0, _, _ => []
  | _ + 1, [], _ => []
  | fuel + 1, g :: gs, p =>
    let atBase := Path.same p ['.']
    let go (next : Path) : List Path :=
      if gs.isEmpty then
        (if !onlyDirectories || fs.isDirectory next then [next] else [])
      else below fs onlyDirectories fuel gs next
    match g.literal? with
    | some s =>
      let isSpecial := s == ['.'] || s == ['.', '.']
      let next := if atBase then s else Path.join p s
      if (if isSpecial then fs.isDirectory p else fs.exists? next) then go next else []
    | none =>
      if fs.isDirectory p then
        let specials := if g.head? = some (.literal '.') then [['.'], ['.', '.']] else []
        let children := (fs.entries p).map fun name => if atBase then name else Path.join p name
        (specials.filter (g.matchesName ·)).flatMap (fun s => go (Path.join p s))
          ++ children.flatMap (visit fs onlyDirectories fuel (g :: gs))
      else []

/-- The paths at or below the entry `p` that match all segments, the first of which is for its
name. -/
def visit (fs : FileSystem) (onlyDirectories : Bool) : Nat → List Glob → Path → List Path
  | 0, _, _ => []
  | _ + 1, [], _ => []
  | fuel + 1, g :: gs, p =>
    if g.isRecursive then
      let rest := gs.dropWhile Glob.isRecursive
      let here := if rest.isEmpty then (if fs.isDirectory p then [p] else [])
        else visit fs onlyDirectories fuel rest p
      here ++ (if fs.isDirectory p then below fs onlyDirectories fuel (g :: rest) p else [])
    else
      match p.fileName? with
      | none => []
      | some name =>
        if g.matchesName name then
          (if gs.isEmpty then (if !onlyDirectories || fs.isDirectory p then [p] else [])
            else below fs onlyDirectories fuel gs p)
        else []

end

/-- More steps than any way through directories has. -/
def depthBound (fs : FileSystem) (segments : List Glob) : Nat :=
  2 * (fs.nodes.entries.length + 2) * (FileSystem.maxLinks + 2) + 2 * segments.length

/-- The paths that match a pattern. -/
def matching (fs : FileSystem) (pattern : PathPattern) : List Path :=
  below fs pattern.onlyDirectories (depthBound fs pattern.segments) pattern.segments pattern.scope

/-- The files that match a pattern, in the order of paths. -/
def matchingFiles (fs : FileSystem) (pattern : PathPattern) : List Path :=
  ((matching fs pattern).filter fs.isFile).mergeSort Path.le

/-- The paths with another one, unless one of them is the same. -/
def addNew (found : List Path) (p : Path) : List Path :=
  if found.any p.same then found else found ++ [p]

/-- The paths that have been found, with those for which further inputs stand. -/
def discoverFrom (fs : FileSystem) (found : List Path) : List Path → Except PatternError (List Path)
  | [] => .ok found
  | input :: inputs =>
    if fs.exists? input then discoverFrom fs (addNew found input) inputs
    else match PathPattern.parse input with
      | .error e => .error e
      | .ok pattern => discoverFrom fs ((matchingFiles fs pattern).foldl addNew found) inputs

/-- The paths for which inputs stand, in the order of the inputs. -/
def discover (fs : FileSystem) (inputs : List Path) : Except PatternError (List Path) :=
  discoverFrom fs [] inputs

/-- The paths for which one input stands. -/
def expand (fs : FileSystem) (input : Path) : Except PatternError (List Path) :=
  if fs.exists? input then .ok [input]
  else (PathPattern.parse input).map (matchingFiles fs)

/-- The inputs that are patterns without matches, up to the first malformed one. -/
def unmatched (fs : FileSystem) : List Path → List Path
  | [] => []
  | input :: inputs =>
    match expand fs input with
    | .error _ => []
    | .ok [] => input :: unmatched fs inputs
    | .ok _ => unmatched fs inputs

end Discovery

end TimeMarkup
