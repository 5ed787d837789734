import TimeMarkup.Time.Instant
/-!
Events that are worth a line in the log.
-/

namespace TimeMarkup

inductive Severity
  | error
  | warn
  | info
  | debug
  | trace
  deriving DecidableEq, Repr

namespace Severity

/-- The number of the severity, from one for errors to five for traces. -/
def rank : Severity → Nat
  | error => 1
  | warn => 2
  | info => 3
  | debug => 4
  | trace => 5

def label : Severity → String
  | error => "ERROR"
  | warn => "WARN"
  | info => "INFO"
  | debug => "DEBUG"
  | trace => "TRACE"

end Severity

/-- An event: where it comes from, what it says, and named values. -/
structure Event where
  severity : Severity
  target : String
  message : String
  fields : List (String × String)
  deriving DecidableEq, Repr

def Event.line (e : Event) : String :=
  e.severity.label ++ " " ++ e.target ++ ": " ++ e.message
    ++ String.join (e.fields.map fun (name, value) => " " ++ name ++ "=" ++ value)

/-- The line with the instant before it; the names of severities are flush on the right. -/
def Event.datedLine (i : Instant) (e : Event) : String :=
  String.ofList (i.text ++ List.replicate (6 - e.severity.label.length) ' ') ++ e.line

end TimeMarkup
