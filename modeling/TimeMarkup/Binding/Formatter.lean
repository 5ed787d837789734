import TimeMarkup.Locale.LongDate
import TimeMarkup.Time.Relative
/-!
How a viewer sees an instant: as a relative time, or as a long date in the viewer's language and
zone.
-/

namespace TimeMarkup

/-- What an element shows of its instant. -/
inductive Mode
  | relative
  | absoluteDate
  deriving DecidableEq, Repr

namespace Mode

def text : Mode → String
  | relative => "relative"
  | absoluteDate => "absolute-date"

/-- The mode that a text names; `date` is short for `absolute-date`. -/
def parse? (s : String) : Option Mode :=
  match s with
  | "relative" => some relative
  | "absolute-date" | "date" => some absoluteDate
  | _ => none

theorem parse?_text (m : Mode) : parse? m.text = some m := by
  cases m <;> rfl

end Mode

inductive Zone
  | utc
  | host
  deriving DecidableEq, Repr, Inhabited

namespace Zone

def text : Zone → String
  | utc => "utc"
  | host => "local"

def ofText? (s : String) : Option Zone :=
  match s with
  | "utc" => some utc
  | "local" => some host
  | _ => none

theorem ofText?_text (z : Zone) : ofText? z.text = some z := by
  cases z <;> rfl

end Zone

/-- The viewer's settings, and how far the host's local zone is east of UTC in seconds. -/
structure Formatter where
  locale : LocaleTag
  zone : Zone
  localOffset : Int
  deriving DecidableEq

namespace Formatter

/-- Seconds by which the formatter's zone is east of UTC. -/
def offset (f : Formatter) : Int :=
  match f.zone with
  | .utc => 0
  | .host => f.localOffset

def longDate (f : Formatter) (target : Instant) : List Char :=
  f.locale.longDate (target.dateAt f.offset)

def format (f : Formatter) (target : Instant) (mode : Mode) (now : Instant) : List Char :=
  match mode with
  | .relative => (RelativeTime.between target now).text
  | .absoluteDate => f.longDate target

@[simp] theorem format_relative (f : Formatter) (target now : Instant) :
    f.format target .relative now = (RelativeTime.between target now).text := rfl

@[simp] theorem format_absoluteDate (f : Formatter) (target now : Instant) :
    f.format target .absoluteDate now = f.longDate target := rfl

end Formatter

end TimeMarkup
