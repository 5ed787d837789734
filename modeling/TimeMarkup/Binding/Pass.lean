import TimeMarkup.Binding.Formatter
import TimeMarkup.Binding.Report
import TimeMarkup.Markup.Document
import TimeMarkup.Timestamp.Reading
/-!
Bind passes. A pass goes through the elements in order, gives each the outcome that its attributes
call for and adds the outcome to its report. No element has a say in the outcome of another.
-/

namespace TimeMarkup

/-- Elements that a pass can read from and write to. -/
class TimeElement (ε : Type) where
  /-- The value of an attribute whose name is in small letters. -/
  attribute? : ε → List Char → Option (List Char)
  /-- The element with its visible text replaced. -/
  setText : List Char → ε → ε

/-- The text of an element whose timestamp cannot be read. -/
def invalidDate : List Char := "Invalid Date".toList

/-- What a pass makes of one element. -/
inductive Outcome
  | formatted (mode : Mode) (text : List Char)
  | failed (problem : Problem)
  deriving DecidableEq

namespace Outcome

/-- The text that the element gets, if it gets one. -/
def text? : Outcome → Option (List Char)
  | formatted _ text => some text
  | failed problem => if problem.keepsText then none else some invalidDate

def problem? : Outcome → Option Problem
  | formatted _ _ => none
  | failed problem => some problem

/-- The outcome for the values of an element's attributes. The timestamp is missed first; a mode
that is missing counts as empty. -/
def ofValues (f : Formatter) (now : Instant) (datetime mode : Option (List Char)) : Outcome :=
  match datetime with
  | none => failed .missingTimestamp
  | some raw =>
    let modeText := mode.getD []
    match Mode.parse? (String.ofList modeText) with
    | none => failed (.unrecognizedMode modeText)
    | some mode =>
      match Timestamp.read? raw with
      | some target => formatted mode (f.format target mode now)
      | none => failed (.unparseableTimestamp raw)

def of {ε : Type} [TimeElement ε] (f : Formatter) (now : Instant) (e : ε) : Outcome :=
  ofValues f now (TimeElement.attribute? e Markup.datetimeAttribute)
    (TimeElement.attribute? e Markup.modeAttribute)

def apply {ε : Type} [TimeElement ε] (o : Outcome) (e : ε) : ε :=
  match o.text? with
  | some text => TimeElement.setText text e
  | none => e

end Outcome

/-- The diagnostics of outcomes, the first of which belongs to the element number `start`. -/
def diagnosticsFrom (start : Nat) : List Outcome → List Diagnostic
  | [] => []
  | o :: os =>
    match o.problem? with
    | some problem => ⟨start, problem⟩ :: diagnosticsFrom (start + 1) os
    | none => diagnosticsFrom (start + 1) os

namespace Report

def ofOutcomes (os : List Outcome) : Report :=
  { matched := os.length
    updated := os.countP (·.text?.isSome)
    diagnostics := diagnosticsFrom 0 os }

/-- The report of a pass over a number of elements, before the first of them. -/
def start (matched : Nat) : Report :=
  { matched := matched, updated := 0, diagnostics := [] }

/-- The report with the outcome for the element number `index` added. -/
def add (index : Nat) (r : Report) : Outcome → Report
  | .formatted _ _ => { r with updated := r.updated + 1 }
  | .failed problem =>
    { r with
      updated := if problem.keepsText then r.updated else r.updated + 1
      diagnostics := r.diagnostics ++ [⟨index, problem⟩] }

end Report

section Pass
variable {ε : Type} [TimeElement ε]

def bindElement (f : Formatter) (now : Instant) (e : ε) : ε :=
  (Outcome.of f now e).apply e

def outcomes (f : Formatter) (now : Instant) (es : List ε) : List Outcome :=
  es.map (Outcome.of f now)

/-- Binds elements, the first of which has the number `index`, and adds their outcomes to a
report. -/
def bindFrom (f : Formatter) (now : Instant) : Nat → Report → List ε → List ε × Report
  | _, r, [] => ([], r)
  | index, r, e :: es =>
    let o := Outcome.of f now e
    let (es', r') := bindFrom f now (index + 1) (r.add index o) es
    (o.apply e :: es', r')

/-- Elements after a pass, and the report of the pass. -/
def bindAll (f : Formatter) (now : Instant) (es : List ε) : List ε × Report :=
  bindFrom f now 0 (.start es.length) es

theorem bindFrom_eq (f : Formatter) (now : Instant) (index : Nat) (r : Report) (es : List ε) :
    bindFrom f now index r es =
      (es.map (bindElement f now),
        { matched := r.matched
          updated := r.updated + (outcomes f now es).countP (·.text?.isSome)
          diagnostics := r.diagnostics ++ diagnosticsFrom index (outcomes f now es) }) := by
  induction es generalizing index r with
  | nil => simp [bindFrom, outcomes, diagnosticsFrom]
  | cons e es ih =>
    rw [bindFrom, ih]
    rcases houtcome : Outcome.of f now e with ⟨mode, text⟩ | problem
    · simp [bindElement, outcomes, diagnosticsFrom, houtcome, Report.add, Outcome.text?,
        Outcome.problem?]
      omega
    · cases hkeeps : problem.keepsText
      · simp [bindElement, outcomes, diagnosticsFrom, houtcome, Report.add, Outcome.text?,
          Outcome.problem?, hkeeps]
        omega
      · simp [bindElement, outcomes, diagnosticsFrom, houtcome, Report.add, Outcome.text?,
          Outcome.problem?, hkeeps]

/-- A pass binds each element on its own and reports the outcomes in order. -/
theorem bindAll_eq (f : Formatter) (now : Instant) (es : List ε) :
    bindAll f now es = (es.map (bindElement f now), .ofOutcomes (outcomes f now es)) := by
  simp [bindAll, bindFrom_eq, Report.ofOutcomes, Report.start, outcomes]

end Pass

instance : TimeElement Markup.Element where
  attribute? := Markup.Element.attribute?
  setText := Markup.Element.setText

namespace Markup.Document

def bind (f : Formatter) (now : Instant) (d : Document) : Document × Report :=
  let (es, r) := bindAll f now d.elements
  ({ d with elements := es }, r)

theorem bind_eq (f : Formatter) (now : Instant) (d : Document) :
    d.bind f now = (d.map (bindElement f now), .ofOutcomes (outcomes f now d.elements)) := by
  rw [bind, bindAll_eq]
  rfl

end Markup.Document

theorem diagnosticsFrom_append (start : Nat) (os ps : List Outcome) :
    diagnosticsFrom start (os ++ ps) =
      diagnosticsFrom start os ++ diagnosticsFrom (start + os.length) ps := by
  induction os generalizing start with
  | nil => rfl
  | cons o os ih =>
    simp only [List.cons_append, diagnosticsFrom, List.length_cons, ih]
    rw [Nat.add_right_comm, Nat.add_assoc]
    split <;> rfl

@[simp] theorem Report.matched_ofOutcomes (os : List Outcome) :
    (Report.ofOutcomes os).matched = os.length := rfl

end TimeMarkup
