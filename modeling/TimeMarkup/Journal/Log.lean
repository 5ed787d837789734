import TimeMarkup.Journal.Account
import TimeMarkup.Settings.Environment
import TimeMarkup.Storage.Change
/-!
The log of a run: a filter, and the events that it has let through.
-/

namespace TimeMarkup

/-- A filter with the events that it has let through, the first one first. -/
structure Log where
  filter : Filter
  events : List Event

namespace Log

def silent : Log := ⟨[], []⟩

def record (l : Log) (e : Event) : Log :=
  if l.filter.admits e then { l with events := l.events ++ [e] } else l

def lines (l : Log) : List String :=
  l.events.map Event.line

/-- The filter for a level: the program's own events from that level on, and warnings of all
others. -/
def levelFilter (level : String) : Except Failure Filter :=
  let own := ["localtime_core", "localtime"].map fun target => target ++ "=" ++ level
  match Filter.parse (",".intercalate ("warn" :: own)).toList with
  | .ok f => .ok f
  | .error flaw => .error (.settings (.invalidLevel level flaw))

/-- The filter to use: that of the environment if it has a valid one, else that of the level. -/
def chooseFilter (e : Environment) (level : String) : Except Failure Filter :=
  match (e.text? "RUST_LOG").map Filter.parse with
  | some (.ok f) => .ok f
  | _ => levelFilter level

def dailyPath (e : Environment) (today : Date) : Path :=
  e.logPath ++ '.' :: today.text

/-- The file system after making room for the log of a day, and whether that was possible. -/
def makeRoom (fs : FileSystem) (e : Environment) (today : Date) :
    FileSystem × Except IoError Unit :=
  match fs.createDirectories e.stateDirectory with
  | (fs, .error error) => (fs, .error error)
  | (fs, .ok ()) =>
    if fs.exists? (dailyPath e today) then (fs, .ok ())
    else match fs.write (dailyPath e today) (.text []) with
      | .ok fs => (fs, .ok ())
      | .error error => (fs, .error error)

/-- The log with its first event, and the file system with room for it. -/
def start (fs : FileSystem) (e : Environment) (level : String) (today : Date) :
    FileSystem × Except Failure Log :=
  match makeRoom fs e today with
  | (fs, .error error) => (fs, .error (.io error))
  | (fs, .ok ()) =>
    (fs, (chooseFilter e level).map fun f => (⟨f, []⟩ : Log).record (.logOpened e.logPath level))

@[simp] theorem record_silent (e : Event) : silent.record e = silent := by
  simp [record, silent]

theorem filter_record (l : Log) (e : Event) : (l.record e).filter = l.filter := by
  simp only [record]
  split <;> rfl

end Log

end TimeMarkup
