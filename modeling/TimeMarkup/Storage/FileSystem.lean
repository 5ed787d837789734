import TimeMarkup.Storage.Path
import TimeMarkup.Storage.Table
import TimeMarkup.Text.Bytes
import TimeMarkup.Text.Content
/-!
Files in directories. A location names a directory, a symbolic link, or a file by its number;
several locations may have the same file. Every change of a file or directory gets a modification
time of its own.
-/

namespace TimeMarkup

inductive IoError
  | noSuchFile
  | fileExists
  | notADirectory
  | isADirectory
  | notEmpty
  | notPermitted
  | busy
  | nameTooLong
  | tooManyLinks
  | invalidArgument
  | notUtf8
  | nulInName
  deriving DecidableEq

def IoError.message : IoError → String
  | noSuchFile => "No such file or directory (os error 2)"
  | fileExists => "File exists (os error 17)"
  | notADirectory => "Not a directory (os error 20)"
  | isADirectory => "Is a directory (os error 21)"
  | notEmpty => "Directory not empty (os error 39)"
  | notPermitted => "Operation not permitted (os error 1)"
  | busy => "Device or resource busy (os error 16)"
  | nameTooLong => "File name too long (os error 36)"
  | tooManyLinks => "Too many levels of symbolic links (os error 40)"
  | invalidArgument => "Invalid argument (os error 22)"
  | notUtf8 => "stream did not contain valid UTF-8"
  | nulInName => "file name contained an unexpected NUL byte"

/-- The names on the way from the root, without links. -/
abbrev Location := List (List Char)

/-- What a location has. -/
inductive Node
  | directory (modified : Int)
  | file (number : Nat)
  | link (target : Path)
  deriving DecidableEq

structure Stored where
  content : Content
  modified : Int
  deriving DecidableEq

/-- Nodes and files, the directory at which relative paths start, and the next modification time. -/
structure FileSystem where
  nodes : Table Location Node
  files : Table Nat Stored
  base : Location
  clock : Int

namespace FileSystem

/-- The directories on the way to a location and nothing else; relative paths start there. -/
def atBase (base : Location) (clock : Int) : FileSystem where
  nodes := (List.range base.length).foldl
    (fun t n => t.put (base.take (n + 1)) (.directory clock)) .empty
  files := .empty
  base := base
  clock := clock + 1

/-- What a location has; the root is always a directory. -/
def node? (fs : FileSystem) (l : Location) : Option Node :=
  if l = [] then some (.directory 0) else fs.nodes.get? l

def isDirectoryAt (fs : FileSystem) (l : Location) : Bool :=
  match fs.node? l with
  | some (.directory _) => true
  | _ => false

/-- How many symbolic links a path may lead through. -/
def maxLinks : Nat := 40

/-- The longest name of an entry, in bytes. -/
def maxName : Nat := 255

/-- The longest path, in bytes. -/
def maxPath : Nat := 4095

/-- The location, free of links, to which steps lead from a location, and how many more links may be
followed on from there. Every step has to start in a directory. -/
def walk (fs : FileSystem) (links : Nat) (l : Location) :
    List Path.Step → Except IoError (Location × Nat)
  | [] => .ok (l, links)
  | step :: rest =>
    if fs.isDirectoryAt l then
      match step with
      | .here => walk fs links l rest
      | .up => walk fs links l.dropLast rest
      | .entry name =>
        if maxName < Text.byteLength name then .error .nameTooLong
        else match fs.node? (l ++ [name]) with
          | none => .error .noSuchFile
          | some (.link target) =>
            match _h : links with
            | 0 => .error .tooManyLinks
            | fewer + 1 =>
              walk fs fewer (if target.isAbsolute then [] else l) (target.steps ++ rest)
          | some _ => walk fs links (l ++ [name]) rest
    else .error .notADirectory
termination_by steps => (links, steps.length)
decreasing_by
  all_goals simp_wf
  · exact .right _ (by omega)
  · exact .right _ (by omega)
  · exact .left _ _ (by omega)
  · exact .right _ (by omega)

theorem walk_links_le {fs : FileSystem} {links left : Nat} {l l' : Location}
    {steps : List Path.Step} (h : fs.walk links l steps = .ok (l', left)) : left ≤ links := by
  fun_induction walk fs links l steps with
  | case1 => simp_all
  | _ => simp_all <;> omega

/-- The location, free of links, to which steps lead from a location. -/
def follow (fs : FileSystem) (l : Location) (steps : List Path.Step) : Except IoError Location :=
  (fs.walk maxLinks l steps).map (·.1)

def start (fs : FileSystem) (p : Path) : Location :=
  if p.isAbsolute then [] else fs.base

def checkPath (p : Path) : Except IoError Unit :=
  if p.contains '\x00' then .error .nulInName
  else if p.isEmpty then .error .noSuchFile
  else if maxPath < Text.byteLength p then .error .nameTooLong
  else .ok ()

def resolve (fs : FileSystem) (p : Path) : Except IoError Location := do
  checkPath p
  fs.follow (fs.start p) p.steps

def lookup (fs : FileSystem) (p : Path) : Except IoError Node := do
  let l ← fs.resolve p
  match fs.node? l with
  | some node => .ok node
  | none => .error .noSuchFile

/-- The canonical location of a path, if it leads to anything. The path is taken step by step, so
that it may be longer than the longest path of a system call. -/
def canonical? (fs : FileSystem) (p : Path) : Option Location :=
  if p.isEmpty || p.contains '\x00' then none
  else match fs.follow (fs.start p) p.steps with
    | .ok l => if (fs.node? l).isSome then some l else none
    | .error _ => none

def exists? (fs : FileSystem) (p : Path) : Bool :=
  match fs.lookup p with
  | .ok _ => true
  | .error _ => false

def isDirectory (fs : FileSystem) (p : Path) : Bool :=
  match fs.lookup p with
  | .ok (.directory _) => true
  | _ => false

def isFile (fs : FileSystem) (p : Path) : Bool :=
  match fs.lookup p with
  | .ok (.file _) => true
  | _ => false

def modified? (fs : FileSystem) (p : Path) : Option Int :=
  match fs.lookup p with
  | .ok (.directory modified) => some modified
  | .ok (.file number) => (fs.files.get? number).map Stored.modified
  | _ => none

def read (fs : FileSystem) (p : Path) : Except IoError Content := do
  match ← fs.lookup p with
  | .directory _ => .error .isADirectory
  | .file number =>
    match fs.files.get? number with
    | some stored => .ok stored.content
    | none => .error .noSuchFile
  | .link _ => .error .tooManyLinks

def readText (fs : FileSystem) (p : Path) : Except IoError (List Char) := do
  match ← fs.read p with
  | .text cs => .ok cs
  | .bytes _ => .error .notUtf8

def entriesAt (fs : FileSystem) (l : Location) : List (List Char) :=
  fs.nodes.keys.filterMap fun k =>
    match k.getLast? with
    | some name => if k.dropLast = l then some name else none
    | none => none

/-- The names of the entries of the directory to which a path leads, in order. -/
def entries (fs : FileSystem) (p : Path) : List (List Char) :=
  match fs.resolve p with
  | .ok l => (fs.entriesAt l).mergeSort fun m n => Text.le m n
  | .error _ => []

end FileSystem

end TimeMarkup
