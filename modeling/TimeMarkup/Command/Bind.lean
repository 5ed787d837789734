import TimeMarkup.Command.Request
import TimeMarkup.Command.Session
import TimeMarkup.Storage.Discovery
/-!
Binding files once. The files are bound one after the other until one cannot be, each as of the time
when its turn comes; the reports are shown only when all are bound.
-/

namespace TimeMarkup

/-- What is done with the files that are bound: for whom and as of when they are, where their markup
goes, and how the reports are shown. -/
structure BindTask where
  formatter : Formatter
  now : Option Instant
  destination : Destination
  style : ReportStyle

namespace Binding

/-- Where the markup of the file at a path goes; nowhere if it is printed. -/
def target? (d : Destination) (p : Path) : Option Path :=
  match d with
  | .output => none
  | .file q => some q
  | .source => some p

def deliver (d : Destination) (b : BoundFile) (s : Session) : Session × Except Obstacle Unit :=
  match target? d b.path with
  | none => (s.print (String.ofList b.html), .ok ())
  | some p =>
    match s.write b p with
    | (s, .ok ()) => (s, .ok ())
    | (s, .error e) => (s, .error (.atPath "failed to write" p e))

def bindOne (f : Formatter) (now : Instant) (d : Destination) (p : Path) (s : Session) :
    Session × Except Obstacle BoundFile :=
  match s.bind f now .documentLoaded p with
  | (s, .error e) => (s, .error (.atPath "failed to bind" p e))
  | (s, .ok b) =>
    match deliver d b s with
    | (s, .ok ()) => (s, .ok b)
    | (s, .error o) => (s, .error o)

/-- The files for which inputs stand. Several of them can only be bound in place. -/
def select (fs : FileSystem) (inputs : List Path) (d : Destination) : Except Obstacle (List Path) :=
  match Discovery.discover fs inputs with
  | .error e => .error ⟨"failed to expand inputs", some (.pattern e)⟩
  | .ok [] =>
    .error ⟨"No input files matched: " ++ " ".intercalate (inputs.map String.ofList), none⟩
  | .ok files =>
    if 1 < files.length ∧ d ≠ .source then
      .error ⟨toString files.length ++ " inputs matched; use --in-place to rewrite several files",
        none⟩
    else .ok files

end Binding

namespace BindTask

/-- Finds out for which files the inputs stand. -/
def start (t : BindTask) (inputs : List Path) (s : Session) :
    Session × Except Obstacle (List Path) :=
  let s := s.record ((Discovery.unmatched s.fs inputs).map Event.nothingMatched)
  match Binding.select s.fs inputs t.destination with
  | .error o => (s, .error o)
  | .ok paths => (s.record [.settingsResolved t.formatter t.now], .ok paths)

/-- Binds one file, as of the time of day if no instant is given. -/
def bindNext (t : BindTask) (clock : Instant) (p : Path) (s : Session) :
    Session × Except Obstacle BoundFile :=
  Binding.bindOne t.formatter (t.now.getD clock) t.destination p s

/-- Shows the reports, when all files are bound. -/
def finish (t : BindTask) (bs : List BoundFile) (s : Session) : Session :=
  (s.report (BoundFile.listing t.style bs)).record [.bindCompleted bs.length]

end BindTask

end TimeMarkup
