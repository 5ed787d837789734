import Std.Async.Signal
import Std.Time.Zoned
import TimeMarkup.Command.Run
/-!
The program. Before each step it takes in the files that the step may look at; after the step it
makes the changes on the disk and prints what there is to print.
-/

namespace TimeMarkup.Disk

def spelling (l : Location) : String :=
  "/" ++ "/".intercalate (l.map String.ofList)

def location (name : String) : Location :=
  Text.words (· == '/') name.toList

/-- The location of the file to which a path leads, if it leads to any. -/
def real? (l : Location) : IO (Option Location) := do
  match ← (IO.FS.realPath (spelling l)).toBaseIO with
  | .ok p => return some (location p.toString)
  | .error _ => return none

/-- Takes in what is at a location; links have been followed. -/
def takeNode (fs : FileSystem) (l : Location) : IO FileSystem := do
  if (fs.nodes.get? l).isSome then return fs
  let path := System.mkFilePath [spelling l]
  let info ← path.metadata
  let modified := info.modified.sec * 1000000000 + info.modified.nsec.toNat
  match info.type with
  | .dir => return { fs with nodes := fs.nodes.put l (.directory modified) }
  | _ =>
    match ← (IO.FS.readBinFile path).toBaseIO with
    | .error _ => return fs
    | .ok raw =>
      let number := fs.freshNumber
      return { fs with
        nodes := fs.nodes.put l (.file number)
        files := fs.files.put number ⟨.ofBytes raw, modified⟩ }

/-- Takes in a location with all directories on the way to it. -/
def takeLocation (fs : FileSystem) (l : Location) : IO FileSystem :=
  (List.range l.length).foldlM (fun fs n => takeNode fs (l.take (n + 1))) fs

/-- Takes in what the steps of a path lead to, and the links on the way. -/
def takeSteps (fs : FileSystem) (l : Location) : List Path.Step → IO FileSystem
  | [] => return fs
  | .here :: rest => takeSteps fs l rest
  | .up :: rest => takeSteps fs l.dropLast rest
  | .entry name :: rest => do
    let child := l ++ [name]
    match ← real? child with
    | none => return fs
    | some target =>
      let fs ← takeLocation fs target
      if target = child then takeSteps fs child rest
      else
        let link := Node.link (spelling target).toList
        takeSteps { fs with nodes := fs.nodes.put child link } target rest

def takePath (fs : FileSystem) (p : Path) : IO FileSystem :=
  takeSteps fs (fs.start p) p.steps

/-- Takes in a path and what is below it, down to a depth. -/
def takeTree : Nat → FileSystem → Path → IO FileSystem
  | 0, fs, p => takePath fs p
  | depth + 1, fs, p => do
    let fs ← takePath fs p
    if fs.isDirectory p then
      let path := System.mkFilePath [String.ofList p]
      let entries ← path.readDir
      entries.foldlM (fun fs e => takeTree depth fs (Path.join p e.fileName.toList)) fs
    else return fs

/-- How many directories a pattern may lead down. -/
def patternDepth (input : Path) : Nat :=
  if (Text.fields (· == '/') input).contains ['*', '*'] then 64 else input.count '/' + 1

def takeInput (fs : FileSystem) (input : Path) : IO FileSystem := do
  let fs ← takePath fs input
  if fs.exists? input then return fs
  else
    let fixed :=
      (input.takeWhile fun c => !(['*', '?', '['].contains c)).reverse.dropWhile (· != '/')
    takeTree (patternDepth input) fs (if fixed.isEmpty then ['.'] else fixed.reverse)

def takeRequest (fs : FileSystem) : Request → IO FileSystem
  | .bind inputs (.file p) _ _ => do inputs.foldlM takeInput (← takePath fs p)
  | .bind inputs _ _ _ => inputs.foldlM takeInput fs
  | .watch input output _ _ => do takePath (← takePath fs input) output
  | .format .. => return fs

/-- The present state of the settings and the log. -/
def presentOwn (e : Environment) (today : Date) : IO FileSystem := do
  let base := location (← IO.FS.realPath ".").toString
  let fs ← takeLocation (.atBase base 0) base
  [e.configPath, e.stateDirectory, Log.dailyPath e today].foldlM takePath fs

/-- The present state of the files that a run with these arguments may look at. -/
def present (e : Environment) (today : Date) (args : List (List Char)) : IO FileSystem := do
  let fs ← presentOwn e today
  match Request.ofArguments args with
  | .ok request => takeRequest fs request
  | .error _ => return fs

/-- The present state of the files that the next step of a run may look at. -/
def presentNext (e : Environment) (today : Date) (args : List (List Char)) : Run → IO FileSystem
  | .binding t (p :: _) _ _ => do
    (p :: (Binding.target? t.destination p).toList).foldlM takePath (← presentOwn e today)
  | _ => present e today args

/-- Makes the changes that lead from one state of the files to another. -/
def commit (before after : FileSystem) : IO Unit := do
  for (l, node) in after.nodes.entries do
    match node with
    | .directory _ => if (before.node? l).isNone then IO.FS.createDirAll (spelling l)
    | _ => pure ()
  for (l, node) in after.nodes.entries do
    match node with
    | .file number =>
      let content (fs : FileSystem) := (fs.files.get? number).map Stored.content
      if before.node? l ≠ some node ∨ content before ≠ content after then
        match content after with
        | some (.text cs) => IO.FS.writeBinFile (spelling l) (String.ofList cs).toUTF8
        | some (.bytes raw) => IO.FS.writeBinFile (spelling l) ⟨raw.toArray⟩
        | none => pure ()
    | _ => pure ()

end TimeMarkup.Disk

namespace TimeMarkup.Process

def variableNames : List String :=
  ["HOME", "XDG_CONFIG_HOME", "XDG_STATE_HOME", "RUST_LOG"] ++ Environment.localeVariables

def environment : IO Environment := do
  let found ← variableNames.filterMapM fun name => do
    return (← IO.getEnv name).map fun value => (name, Content.text value.toList)
  return ⟨found⟩

def clock : IO Instant := do
  let n := (← Std.Time.Timestamp.now).toNanosecondsSinceUnixEpoch.val
  return ⟨n / 1000000000, (n % 1000000000).toNat⟩

def localOffset : IO Int := do
  match ← (Std.Time.Database.defaultGetLocalZoneRules).toBaseIO with
  | .ok rules => return (rules.timezoneAt (← Std.Time.Timestamp.now)).offset.second.val
  | .error _ => return 0

def log (e : Environment) (now : Instant) (events : List Event) : IO Unit := do
  if !events.isEmpty then
    let handle ← IO.FS.Handle.mk (String.ofList (Log.dailyPath e (now.dateAt 0))) .append
    for event in events do
      handle.putStrLn (event.datedLine now)

/-- Makes the changes of a session, prints, and gives the session without what has been printed. -/
def flush (e : Environment) (now : Instant) (before : FileSystem) (s : Session) : IO Session := do
  Disk.commit before s.fs
  (← IO.getStdout).putStr s.out
  (← IO.getStdout).flush
  (← IO.getStderr).putStr s.err
  log e now s.log.events
  return { s with log := { s.log with events := [] }, out := "", err := "" }

/-- Whether a watch has been told to stop. -/
def stopSignal : Run → IO (IO Bool)
  | .watching .. => do
    let interrupt ← Std.Async.Signal.Waiter.mk .sigint false
    let interrupted ← interrupt.wait
    return IO.hasFinished interrupted
  | _ => return pure false

/-- Goes on with a run until it ends or is told to stop. -/
partial def drive (e : Environment) (args : List (List Char)) (isStopped : IO Bool) (r : Run) :
    IO UInt32 := do
  match r with
  | .ended status _ => return UInt32.ofNat status
  | _ =>
    let pause := r.pause?
    if let some ms := pause then IO.sleep (UInt32.ofNat (min ms 4294967295))
    let now ← clock
    let before ← Disk.presentNext e (now.dateAt 0) args r
    let r := r.withSession { r.session with fs := before }
    let next := if pause.isSome && (← isStopped) then r.stop else r.step now
    let s ← flush e now before next.session
    drive e args isStopped (next.withSession s)

end TimeMarkup.Process

open TimeMarkup in
def main (args : List String) : IO UInt32 := do
  let args := args.map String.toList
  let e ← Process.environment
  let now ← Process.clock
  let before ← Disk.present e (now.dateAt 0) args
  let r := Run.ofArguments ⟨before, e, ← Process.localOffset, now⟩ args
  let s ← Process.flush e now before r.session
  let isStopped ← Process.stopSignal r
  Process.drive e args isStopped (r.withSession s)
