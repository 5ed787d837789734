/-!
What sets off a bind pass: a page that was loaded, or content that was swapped into it. All passes
are alike; the trigger only shows in accounts of them.
-/

namespace TimeMarkup

inductive Trigger
  | documentLoaded
  | afterSwap
  deriving DecidableEq, Repr

namespace Trigger

def name : Trigger → String
  | documentLoaded => "document_loaded"
  | afterSwap => "after_swap"

def text : Trigger → String
  | documentLoaded => "document loaded"
  | afterSwap => "after swap"

def ofName? (s : String) : Option Trigger :=
  [documentLoaded, afterSwap].find? fun t => t.name == s

theorem ofName?_name (t : Trigger) : ofName? t.name = some t := by
  cases t <;> rfl

end Trigger

end TimeMarkup
