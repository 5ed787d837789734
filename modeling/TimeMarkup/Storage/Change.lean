import TimeMarkup.Storage.FileSystem
/-!
Changes of files and directories: writing, making, removing, renaming and linking. Each change of
one entry either fails and leaves everything as it is, or gives the file system after it; of several
directories, some can be made before one cannot.
-/

namespace TimeMarkup.FileSystem

/-- The file system with a new modification time for the directory at a location. -/
def stamp (fs : FileSystem) (l : Location) : FileSystem :=
  match fs.nodes.get? l with
  | some (.directory _) =>
    { fs with nodes := fs.nodes.put l (.directory fs.clock), clock := fs.clock + 1 }
  | _ => fs

/-- The file system with a new node in an existing directory. -/
def insert (fs : FileSystem) (l : Location) (node : Node) : FileSystem :=
  { fs with nodes := fs.nodes.put l node }.stamp l.dropLast

/-- A number that no file has. -/
def freshNumber (fs : FileSystem) : Nat :=
  fs.files.keys.foldl max 0 + 1

/-- Where writing through a path puts the content: the location of the file, which need not exist
yet. A link to a file that does not exist yet is followed, and counts with all links before it. -/
def writeLocation (fs : FileSystem) (links : Nat) (l : Location) (p : Path) :
    Except IoError Location :=
  match _h : fs.walk links l ((Text.words (· == '/') p).dropLast.map Path.Step.of) with
  | .error e => .error e
  | .ok (parent, left) =>
    if !fs.isDirectoryAt parent then .error .notADirectory
    else if p.hasTrailingSlash then .error .isADirectory
    else match p.steps.getLast? with
      | some (.entry name) =>
        if maxName < Text.byteLength name then .error .nameTooLong
        else match fs.node? (parent ++ [name]) with
          | some (.directory _) => .error .isADirectory
          | some (.link target) =>
            if _hl : left = 0 then .error .tooManyLinks
            else fs.writeLocation (left - 1) (if target.isAbsolute then [] else parent) target
          | _ => .ok (parent ++ [name])
      | _ => .error .isADirectory
termination_by links
decreasing_by
  have := walk_links_le _h
  omega

def write (fs : FileSystem) (p : Path) (content : Content) : Except IoError FileSystem := do
  checkPath p
  let l ← fs.writeLocation maxLinks (fs.start p) p
  let stored : Stored := ⟨content, fs.clock⟩
  match fs.node? l with
  | some (.file number) =>
    .ok { fs with files := fs.files.put number stored, clock := fs.clock + 1 }
  | _ =>
    let number := fs.freshNumber
    .ok ({ fs with files := fs.files.put number stored, clock := fs.clock + 1 }.insert
      l (.file number))

def setModified (fs : FileSystem) (p : Path) (modified : Int) : Except IoError FileSystem := do
  let l ← fs.resolve p
  match fs.node? l with
  | some (.directory _) => .ok { fs with nodes := fs.nodes.put l (.directory modified) }
  | some (.file number) =>
    match fs.files.get? number with
    | some stored =>
      .ok { fs with files := fs.files.put number { stored with modified := modified } }
    | none => .error .noSuchFile
  | _ => .error .noSuchFile

/-- The directory in which the last name of a path is looked up, and that name if it is one of an
entry. -/
def parentAndName (fs : FileSystem) (p : Path) :
    Except IoError (Location × Option (List Char)) := do
  checkPath p
  let steps := (Text.words (· == '/') p).map Path.Step.of
  let parent ← fs.follow (fs.start p) steps.dropLast
  if fs.isDirectoryAt parent then
    .ok (parent, match steps.getLast? with
      | some (.entry name) => some name
      | _ => none)
  else .error .notADirectory

def entryIn (parent : Location) (name : List Char) : Except IoError Location :=
  if maxName < Text.byteLength name then .error .nameTooLong else .ok (parent ++ [name])

/-- What a path leads to, where a link at its end is not followed unless a slash asks for a
directory. -/
def lookupEntry (fs : FileSystem) (p : Path) : Except IoError Node :=
  if p.hasTrailingSlash then fs.lookup p
  else do
    match ← fs.parentAndName p with
    | (_, none) => fs.lookup p
    | (parent, some name) =>
      match fs.node? (← entryIn parent name) with
      | some node => .ok node
      | none => .error .noSuchFile

/-- The location for a new entry, at which there must not be one. A slash at the end of its path is
for directories only. -/
def newEntry (fs : FileSystem) (p : Path) (isDirectory : Bool) : Except IoError Location := do
  match ← fs.parentAndName p with
  | (_, none) => .error .fileExists
  | (parent, some name) =>
    let l ← entryIn parent name
    if (fs.node? l).isSome then .error .fileExists
    else if p.hasTrailingSlash && !isDirectory then .error .noSuchFile
    else .ok l

def createDirectory (fs : FileSystem) (p : Path) : Except IoError FileSystem := do
  .ok (fs.insert (← fs.newEntry p true) (.directory fs.clock))

/-- The file system after making the first of some directories, each of which lies in the next, and
whether that was possible. Those that are missing are made too, and one that exists already is as
good as a new one. -/
def createNested (fs : FileSystem) : List Path → FileSystem × Except IoError Unit
  | [] => (fs, .ok ())
  | p :: above =>
    let settle (fs : FileSystem) : Except IoError FileSystem → FileSystem × Except IoError Unit
      | .ok fs => (fs, .ok ())
      | .error e => (fs, if e = .fileExists && fs.isDirectory p then .ok () else .error e)
    match fs.createDirectory p with
    | .error .noSuchFile =>
      match fs.createNested above with
      | (fs, .ok ()) => settle fs (fs.createDirectory p)
      | failed => failed
    | result => settle fs result

/-- The file system after making a directory and all those above it, and whether that was possible.
What was made before an error stays. -/
def createDirectories (fs : FileSystem) (p : Path) : FileSystem × Except IoError Unit :=
  fs.createNested p.ancestors

def remove (fs : FileSystem) (p : Path) : Except IoError FileSystem := do
  match ← fs.parentAndName p with
  | (_, none) => .error .isADirectory
  | (parent, some name) =>
    let l ← entryIn parent name
    match fs.node? l with
    | none => .error .noSuchFile
    | some (.directory _) => .error .isADirectory
    | some _ =>
      if p.hasTrailingSlash then .error .notADirectory
      else .ok ({ fs with nodes := fs.nodes.erase l }.stamp l.dropLast)

/-- The nodes with everything below one location moved to another. -/
def moved (nodes : Table Location Node) (source target : Location) : Table Location Node :=
  ⟨nodes.entries.map fun (l, node) =>
    if source.isPrefixOf l then (target ++ l.drop source.length, node) else (l, node)⟩

/-- The file system after moving the node at a location to another one; what was there is replaced.
A directory cannot be moved into itself, and of two names of one file both stay. -/
def move (fs : FileSystem) (source target : Location) (node : Node) : Except IoError FileSystem :=
  let done (nodes : Table Location Node) : FileSystem :=
    ({ fs with nodes := moved nodes source target }.stamp source.dropLast).stamp target.dropLast
  if source = target then .ok fs
  else if source.isPrefixOf target then .error .invalidArgument
  else if target.isPrefixOf source then .error .notEmpty
  else match node, fs.node? target with
    | _, none => .ok (done fs.nodes)
    | .directory _, some (.directory _) =>
      if (fs.entriesAt target).isEmpty then .ok (done (fs.nodes.erase target)) else .error .notEmpty
    | .directory _, some _ => .error .notADirectory
    | _, some (.directory _) => .error .isADirectory
    | .file m, some (.file n) => if m = n then .ok fs else .ok (done (fs.nodes.erase target))
    | _, some _ => .ok (done (fs.nodes.erase target))

/-- The file system after renaming. Only directories may be named with a slash at the end. -/
def rename (fs : FileSystem) (p q : Path) : Except IoError FileSystem := do
  match ← fs.parentAndName p, ← fs.parentAndName q with
  | (parent, some name), (parent', some name') =>
    let source ← entryIn parent name
    match fs.node? source with
    | none => .error .noSuchFile
    | some node =>
      let target ← entryIn parent' name'
      if !fs.isDirectoryAt source && (p.hasTrailingSlash || q.hasTrailingSlash) then
        .error .notADirectory
      else fs.move source target node
  | _, _ => .error .busy

def symlink (fs : FileSystem) (p target : Path) : Except IoError FileSystem := do
  checkPath target
  .ok (fs.insert (← fs.newEntry p false) (.link target))

/-- The file system with a new name for an existing file. -/
def hardLink (fs : FileSystem) (p target : Path) : Except IoError FileSystem := do
  let node ← fs.lookupEntry target
  let l ← fs.newEntry p false
  match node with
  | .directory _ => .error .notPermitted
  | _ => .ok (fs.insert l node)

end TimeMarkup.FileSystem
