import TimeMarkup.Binding.Pass
import TimeMarkup.Binding.Trigger
/-!
Binders start passes over documents. A pass takes the instant that the clock shows as the present,
or one that it is given; what set it off makes no difference.
-/

namespace TimeMarkup
open Markup (Document)

/-- The viewer's settings, and what the clock shows when a pass starts. -/
structure Binder where
  formatter : Formatter
  clock : Instant
  deriving DecidableEq

namespace Binder

def bindAllAt (b : Binder) (now : Instant) (d : Document) : Document × Report :=
  d.bind b.formatter now

def bindAll (b : Binder) (d : Document) : Document × Report :=
  b.bindAllAt b.clock d

def handle (b : Binder) (_ : Trigger) (d : Document) : Document × Report :=
  b.bindAll d

end Binder

end TimeMarkup
