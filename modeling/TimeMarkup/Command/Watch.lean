import TimeMarkup.Binding.Listing
import TimeMarkup.Command.Session
import TimeMarkup.Storage.FileWatch
/-!
Watching a file: it is bound at the start and again after every change. A watch advances by small
steps, each of which looks at the files or changes them once, so that others may change files in
between.
-/

namespace TimeMarkup

/-- What is watched: the file that is bound, where its markup goes, and for whom. -/
structure WatchTask where
  input : Path
  output : Path
  formatter : Formatter
  now : Option Instant
  pollMs : Nat

inductive WatchPhase
  /-- Take the present state of the input as seen. -/
  | start
  /-- Read the input and bind it. -/
  | bind (trigger : Trigger)
  /-- Write the bound file. -/
  | write (trigger : Trigger) (b : BoundFile)
  /-- Find out whether the output is the input. -/
  | compare (trigger : Trigger) (b : BoundFile)
  /-- Take the state of the input after writing it as seen. -/
  | refresh (trigger : Trigger) (b : BoundFile)
  /-- Tell of the pass. -/
  | announce (trigger : Trigger) (b : BoundFile)
  /-- Look for a change. -/
  | poll
  /-- Nothing, as something went wrong. -/
  | failed (o : Obstacle)
  deriving DecidableEq

/-- A watch that is going on: what it has seen of the input, what it does next, and how often it has
bound the input. -/
structure WatchState where
  watch : FileWatch
  phase : WatchPhase
  passes : Nat
  deriving DecidableEq

namespace WatchTask

def initial (t : WatchTask) : WatchState :=
  ⟨⟨t.input, none⟩, .start, 0⟩

def greeting (t : WatchTask) : String :=
  "Watching " ++ String.ofList t.input ++ " (poll every " ++ toString t.pollMs
    ++ "ms). Press Ctrl+C to stop."

/-- The lines about a pass after a change, the first one with the time of day. -/
def passLines (t : WatchTask) (clock : Instant) (r : Report) : List String :=
  ("[" ++ String.ofList (clock.clockText t.formatter.localOffset) ++ "] Rebound: "
    ++ toString r.updated ++ " updated, " ++ toString r.diagnostics.length ++ " diagnostic(s)")
    :: r.warnings

/-- Tells of a pass: of the first one beside the output, and that watching has begun. -/
def announce (t : WatchTask) (clock : Instant) (trigger : Trigger) (b : BoundFile) (passes : Nat)
    (s : Session) : Session :=
  match trigger with
  | .documentLoaded => (s.report b.lines).printLines [t.greeting]
  | .afterSwap => (s.printLines (t.passLines clock b.report)).record [.watchPassed passes]

def step (t : WatchTask) (clock : Instant) (w : WatchState) (s : Session) : WatchState × Session :=
  match w.phase with
  | .start => ({ w with watch := .start s.fs t.input, phase := .bind .documentLoaded }, s)
  | .bind trigger =>
    match s.bind t.formatter (t.now.getD clock) trigger t.input with
    | (s, .ok b) => ({ w with phase := .write trigger b }, s)
    | (s, .error e) =>
      match trigger with
      | .documentLoaded => ({ w with phase := .failed (.atPath "failed to bind" t.input e) }, s)
      | .afterSwap => ({ w with phase := .poll }, s.record [.rebindFailed t.input (.io e)])
  | .write trigger b =>
    match s.write b t.output with
    | (s, .ok ()) => ({ w with phase := .compare trigger b }, s)
    | (s, .error e) => ({ w with phase := .failed (.atPath "failed to write" t.output e) }, s)
  | .compare trigger b =>
    if w.watch.isSameFile s.fs t.output then ({ w with phase := .refresh trigger b }, s)
    else ({ w with phase := .announce trigger b }, s)
  | .refresh trigger b =>
    ({ w with watch := w.watch.refresh s.fs, phase := .announce trigger b }, s)
  | .announce trigger b =>
    ({ w with phase := .poll, passes := w.passes + 1 }, t.announce clock trigger b (w.passes + 1) s)
  | .poll =>
    match w.watch.changed s.fs with
    | (watch, true) => ({ w with watch := watch, phase := .bind .afterSwap }, s)
    | (watch, false) => ({ w with watch := watch }, s)
  | .failed _ => (w, s)

def isIdle (w : WatchState) : Bool :=
  match w.phase with
  | .poll | .failed _ => true
  | _ => false

/-- More steps than a watch takes between two polls. -/
def passSteps : Nat := 7

/-- Steps until the watch waits, as long as there are steps left. -/
def settle (t : WatchTask) (clock : Instant) : Nat → WatchState → Session → WatchState × Session
  | 0, w, s => (w, s)
  | n + 1, w, s =>
    if isIdle w then (w, s)
    else
      let (w, s) := t.step clock w s
      settle t clock n w s

def stop (w : WatchState) (s : Session) : Session :=
  ((s.report ["", "Shutting down..."]).printLines ["Watch mode stopped."]).record
    [.watchStopped w.passes]

theorem step_failed (t : WatchTask) (clock : Instant) (w : WatchState) (s : Session) {o : Obstacle}
    (h : w.phase = .failed o) : t.step clock w s = (w, s) := by
  simp [step, h]

theorem step_poll_of_hasChanged_eq_false (t : WatchTask) (clock : Instant) (w : WatchState)
    (s : Session) (h : w.phase = .poll) (hs : w.watch.hasChanged s.fs = false) :
    (t.step clock w s).1.phase = .poll := by
  simp [step, h, FileWatch.changed_eq, hs]

end WatchTask

end TimeMarkup
