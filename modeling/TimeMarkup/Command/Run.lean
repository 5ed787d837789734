import TimeMarkup.Command.Arguments
import TimeMarkup.Command.Bind
import TimeMarkup.Command.Watch
/-!
Runs of the program: from a command line and the state of the host to what is printed, changed and
logged.
-/

namespace TimeMarkup

/-- What a run finds: files, environment variables, seconds by which local time is ahead of UTC, and
the time of day. -/
structure Host where
  fs : FileSystem
  environment : Environment
  localOffset : Int
  clock : Instant

/-- What a run comes to: an end with an exit status, files of which some are left to be bound, or a
watch that goes on. -/
inductive Run
  | ended (status : Nat) (s : Session)
  | binding (t : BindTask) (left : List Path) (bound : List BoundFile) (s : Session)
  | watching (t : WatchTask) (w : WatchState) (s : Session)

namespace Run

def versionLine : String := "localtime 0.1.0"

def usage : List String :=
  ["Render UTC timestamps in HTML as local, human-readable time",
    "",
    "Usage: localtime bind [OPTIONS] <INPUTS>...",
    "       localtime watch [OPTIONS] --output <OUTPUT> <INPUT>",
    "       localtime format [OPTIONS] <TIMESTAMP>",
    "",
    "Options:",
    "  -o, --output <OUTPUT>  Write the result here instead of stdout (bind, watch)",
    "      --in-place         Write each result over its input file (bind)",
    "      --report <REPORT>  Format of the report: text or json (bind)",
    "      --poll <POLL>      Poll interval in milliseconds (watch)",
    "      --mode <MODE>      Display mode: relative or absolute-date (format)",
    "      --locale <LOCALE>  Locale tag for calendar dates",
    "      --zone <ZONE>      Zone for calendar dates: utc or local",
    "      --now <NOW>        Reference instant instead of the wall clock",
    "  -h, --help             Print help",
    "  -V, --version          Print version"]

def ofObstacle (o : Obstacle) (s : Session) : Run :=
  ended 1 (s.report o.lines)

def ofRefusal (r : Refusal) (s : Session) : Run :=
  match r with
  | .usage => ended 2 (s.report ("error: the arguments do not fit" :: "" :: usage))
  | .help => ended 0 (s.printLines usage)
  | .version => ended 0 (s.printLines [versionLine])

def format (f : Formatter) (now : Option Instant) (clock : Instant) (target : Instant) (mode : Mode)
    (s : Session) : Session :=
  let text := f.format target mode (now.getD clock)
  let events := .settingsResolved f now :: Event.ofOutcome f.locale 0 (.formatted mode text)
  (s.record events).printLines [String.ofList text]

def ofBind (t : BindTask) (inputs : List Path) (s : Session) : Run :=
  match t.start inputs s with
  | (s, .error o) => ofObstacle o s
  | (s, .ok paths) => binding t paths [] s

def ofWatch (t : WatchTask) (w : WatchState) (s : Session) : Run :=
  match w.phase with
  | .failed o => ofObstacle o s
  | _ => watching t w s

def ofRequest (h : Host) (c : Config) (s : Session) : Request → Run
  | .bind inputs destination style viewer =>
    let f := viewer.formatter c h.environment h.localOffset
    ofBind ⟨f, viewer.now, destination, style⟩ inputs s
  | .watch input output pollMs viewer =>
    let f := viewer.formatter c h.environment h.localOffset
    let t : WatchTask := ⟨input, output, f, viewer.now, max 1 (pollMs.getD c.pollMs)⟩
    watching t t.initial (s.record [.settingsResolved f viewer.now])
  | .format timestamp mode viewer =>
    let f := viewer.formatter c h.environment h.localOffset
    match Instant.ofInput timestamp with
    | .error e => ofObstacle ⟨"failed to parse timestamp", some e⟩ s
    | .ok target => ended 0 (format f viewer.now h.clock target mode s)

/-- The session with its log open, or with a warning that there is none. -/
def openLog (h : Host) (c : Config) (s : Session) : Session :=
  match Log.start s.fs h.environment c.level (h.clock.dateAt 0) with
  | (fs, .ok log) => { s with fs := fs, log := log }
  | (fs, .error e) => { s with fs := fs }.report ["warning: logging disabled: " ++ e.message]

/-- The run of a command line. The arguments come first, then the settings, then the log. -/
def ofArguments (h : Host) (args : List (List Char)) : Run :=
  let s : Session := ⟨h.fs, .silent, "", ""⟩
  match Request.ofArguments args with
  | .error r => ofRefusal r s
  | .ok request =>
    match Config.load h.fs h.environment with
    | .error e => ofObstacle ⟨"failed to load configuration", some e⟩ s
    | .ok c => ofRequest h c (openLog h c s) request

def step (clock : Instant) : Run → Run
  | ended status s => ended status s
  | binding t [] bound s => ended 0 (t.finish bound s)
  | binding t (p :: left) bound s =>
    match t.bindNext clock p s with
    | (s, .error o) => ofObstacle o s
    | (s, .ok b) => binding t left (bound ++ [b]) s
  | watching t w s =>
    let (w, s) := t.step clock w s
    ofWatch t w s

/-- The run after a number of steps, with the time of day at each of them. -/
def after (clock : Nat → Instant) : Nat → Run → Run
  | 0, r => r
  | n + 1, r => after (fun k => clock (k + 1)) n (r.step (clock 0))

/-- The run when it has ended or waits, if that takes no time. -/
def settle (clock : Instant) : Run → Run
  | ended status s => ended status s
  | binding t left bound s => (binding t left bound s).after (fun _ => clock) (left.length + 1)
  | watching t w s =>
    let (w, s) := t.settle clock WatchTask.passSteps w s
    ofWatch t w s

/-- The run after the next poll and the pass that follows a change. -/
def next (clock : Instant) (r : Run) : Run :=
  (r.step clock).settle clock

/-- The run after it is told to stop watching. -/
def stop : Run → Run
  | watching _ w s => ended 0 (WatchTask.stop w s)
  | r => r

/-- Whether the run waits before its next step, and for how many milliseconds. -/
def pause? : Run → Option Nat
  | watching t w _ => if WatchTask.isIdle w then some t.pollMs else none
  | _ => none

def session : Run → Session
  | ended _ s => s
  | binding _ _ _ s => s
  | watching _ _ s => s

def withSession (s : Session) : Run → Run
  | ended status _ => ended status s
  | binding t left bound _ => binding t left bound s
  | watching t w _ => watching t w s

end Run

end TimeMarkup
