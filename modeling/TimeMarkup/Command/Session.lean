import TimeMarkup.Binding.BoundFile
import TimeMarkup.Journal.Log
/-!
Sessions: all that a command can change, which are the files, the log, and what has been printed.
-/

namespace TimeMarkup

structure Session where
  fs : FileSystem
  log : Log
  out : String
  err : String

/-- Why a command failed: what it was doing, and the failure that stopped it. -/
structure Obstacle where
  context : String
  cause : Option Failure
  deriving DecidableEq

namespace Obstacle

/-- The causes below the context; they are numbered if there are several. -/
def causeLines (causes : List String) : List String :=
  match causes with
  | [] => []
  | [cause] => ["", "Caused by:", "    " ++ cause]
  | _ => "" :: "Caused by:" :: causes.mapIdx fun i cause => "    " ++ toString i ++ ": " ++ cause

def lines (o : Obstacle) : List String :=
  ("Error: " ++ o.context) :: causeLines (o.cause.elim [] Failure.causes)

/-- A failure of the system while something was done to a path. -/
def atPath (doing : String) (p : Path) (e : IoError) : Obstacle :=
  ⟨doing ++ " " ++ String.ofList p, some (.io e)⟩

end Obstacle

namespace Session

def joinLines (ls : List String) : String :=
  String.join (ls.map (· ++ "\n"))

def record (s : Session) (es : List Event) : Session :=
  { s with log := es.foldl Log.record s.log }

def print (s : Session) (text : String) : Session :=
  { s with out := s.out ++ text }

def printLines (s : Session) (ls : List String) : Session :=
  s.print (joinLines ls)

/-- The session after printing lines beside the output. -/
def report (s : Session) (ls : List String) : Session :=
  { s with err := s.err ++ joinLines ls }

def bind (f : Formatter) (now : Instant) (t : Trigger) (p : Path) (s : Session) :
    Session × Except IoError BoundFile :=
  match s.fs.readText p with
  | .error e => (s, .error e)
  | .ok text =>
    let b := BoundFile.ofText f now p text
    (s.record (Event.ofPass f now t (.parse text) ++ [.fileBound p t b.report]), .ok b)

def write (b : BoundFile) (p : Path) (s : Session) : Session × Except IoError Unit :=
  match b.write s.fs p with
  | .error e => (s, .error e)
  | .ok fs => ({ s with fs := fs }.record [.documentWritten p], .ok ())

@[simp] theorem toList_joinLines_nil : (joinLines []).toList = [] := rfl

@[simp] theorem toList_joinLines_cons (l : String) (ls : List String) :
    (joinLines (l :: ls)).toList = l.toList ++ '\n' :: (joinLines ls).toList := by
  simp [joinLines, String.toList_join]

@[simp] theorem err_record (s : Session) (es : List Event) : (s.record es).err = s.err := rfl

@[simp] theorem out_record (s : Session) (es : List Event) : (s.record es).out = s.out := rfl

@[simp] theorem fs_printLines (s : Session) (ls : List String) : (s.printLines ls).fs = s.fs := rfl

@[simp] theorem fs_report (s : Session) (ls : List String) : (s.report ls).fs = s.fs := rfl

/-- Binding leaves all files as they are and gives what reading bound gives. -/
theorem fs_bind (f : Formatter) (now : Instant) (t : Trigger) (p : Path) (s : Session) :
    (s.bind f now t p).1.fs = s.fs := by
  simp only [bind]
  split <;> rfl

theorem snd_bind (f : Formatter) (now : Instant) (t : Trigger) (p : Path) (s : Session) :
    (s.bind f now t p).2 = BoundFile.read f now s.fs p := by
  simp only [bind, BoundFile.read]
  split <;> simp_all [Except.map]

end Session

end TimeMarkup
