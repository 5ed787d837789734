import TimeMarkup.Text.Quoted
/-!
Reports of bind passes: how many elements there were, how many got a new text, and what was wrong
with the others.
-/

namespace TimeMarkup

inductive Problem
  | missingTimestamp
  | unparseableTimestamp (value : List Char)
  | unrecognizedMode (value : List Char)
  deriving DecidableEq

namespace Problem

def kind : Problem → String
  | missingTimestamp => "missing_timestamp"
  | unparseableTimestamp _ => "unparseable_timestamp"
  | unrecognizedMode _ => "unrecognized_mode"

def value? : Problem → Option (List Char)
  | missingTimestamp => none
  | unparseableTimestamp value => some value
  | unrecognizedMode value => some value

def keepsText : Problem → Bool
  | unparseableTimestamp _ => false
  | _ => true

def message : Problem → String
  | missingTimestamp => "missing datetime attribute on time[data-local-time] element"
  | unparseableTimestamp value =>
    "datetime attribute " ++ Text.quote value ++ " is not a valid date"
  | unrecognizedMode value =>
    "unrecognized data-local-time value " ++ Text.quote value ++ ", local time cannot be displayed"

end Problem

/-- A problem with the element that has `index` others before it. -/
structure Diagnostic where
  index : Nat
  problem : Problem
  deriving DecidableEq

def Diagnostic.message (d : Diagnostic) : String :=
  "element #" ++ toString d.index ++ ": " ++ d.problem.message

structure Report where
  matched : Nat
  updated : Nat
  diagnostics : List Diagnostic
  deriving DecidableEq

namespace Report

def isClean (r : Report) : Bool :=
  r.diagnostics.isEmpty

def warnings (r : Report) : List String :=
  r.diagnostics.map fun d => "  warning: " ++ d.message

end Report

end TimeMarkup
