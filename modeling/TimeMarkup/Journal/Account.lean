import TimeMarkup.Binding.Pass
import TimeMarkup.Binding.Trigger
import TimeMarkup.Failure
/-!
The events of a run, each with the part of the program that tells of it.
-/

namespace TimeMarkup.Event

def count (n : Nat) : String := toString n

def shown (cs : List Char) : String := String.ofList cs

def logOpened (log : Path) (level : String) : Event :=
  ⟨.info, "localtime_core::logging", "Logging initialized",
    [("log_path", shown log), ("level", level)]⟩

def documentParsed (elements : Nat) : Event :=
  ⟨.trace, "localtime_core::markup", "Parsed HTML document", [("elements", count elements)]⟩

def passTriggered (t : Trigger) : Event :=
  ⟨.debug, "localtime_core::binder", "Bind pass triggered", [("trigger", t.text)]⟩

/-- A date is written for a locale whose language has no month names. -/
def conventionsMissing (tag : LocaleTag) : Event :=
  ⟨.debug, "localtime_core::locale", "No date conventions for locale, using en_US",
    [("locale", tag.text)]⟩

/-- An element has a problem; only an unreadable timestamp can be shown as such, and so is less
grave. -/
def problemFound (d : Diagnostic) : Event :=
  ⟨if d.problem.keepsText then .error else .warn, "localtime_core::binder", d.message,
    [("index", count d.index)]⟩

def counts (r : Report) : List (String × String) :=
  [("matched", count r.matched), ("updated", count r.updated),
    ("diagnostics", count r.diagnostics.length)]

def passCompleted (r : Report) : Event :=
  ⟨.debug, "localtime_core::binder", "Bind pass complete", counts r⟩

def fileBound (p : Path) (t : Trigger) (r : Report) : Event :=
  ⟨.info, "localtime_core::files", "Bound file",
    ("path", shown p) :: ("trigger", t.text) :: counts r⟩

def documentWritten (p : Path) : Event :=
  ⟨.debug, "localtime_core::files", "Wrote bound document", [("path", shown p)]⟩

def nothingMatched (pattern : Path) : Event :=
  ⟨.warn, "localtime_core::files", "Input pattern matched no files", [("pattern", shown pattern)]⟩

def settingsResolved (f : Formatter) (now : Option Instant) : Event :=
  let zone := match f.zone with
    | .utc => "Utc"
    | .host => "Local"
  let moment := match now with
    | some i => "Some(" ++ shown i.text ++ ")"
    | none => "None"
  ⟨.debug, "localtime", "Display settings resolved",
    [("locale", f.locale.text), ("zone", zone), ("now", moment)]⟩

def bindCompleted (files : Nat) : Event :=
  ⟨.info, "localtime", "localtime bind complete", [("files", count files)]⟩

def watchPassed (passes : Nat) : Event :=
  ⟨.info, "localtime", "watch bind pass", [("passes", count passes)]⟩

def rebindFailed (p : Path) (f : Failure) : Event :=
  ⟨.warn, "localtime", "Re-bind failed", [("path", shown p), ("error", f.message)]⟩

def watchStopped (passes : Nat) : Event :=
  ⟨.info, "localtime", "localtime watch mode stopped", [("passes", count passes)]⟩

def ofOutcome (locale : LocaleTag) (index : Nat) : Outcome → List Event
  | .formatted .relative _ => []
  | .formatted .absoluteDate _ =>
    if locale.conventions?.isNone then [conventionsMissing locale] else []
  | .failed problem => [problemFound ⟨index, problem⟩]

def ofPass (f : Formatter) (now : Instant) (t : Trigger) (d : Markup.Document) : List Event :=
  let os := outcomes f now d.elements
  documentParsed os.length :: passTriggered t
    :: (os.mapIdx (ofOutcome f.locale)).flatten ++ [passCompleted (.ofOutcomes os)]

end TimeMarkup.Event
