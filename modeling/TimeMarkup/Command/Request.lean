import TimeMarkup.Binding.Listing
import TimeMarkup.Settings.Config
/-!
What the program can be asked to do.
-/

namespace TimeMarkup

/-- Settings that go before those of the settings file, and an instant that goes before the
clock's. -/
structure Overrides where
  locale : Option LocaleTag
  zone : Option Zone
  now : Option Instant
  deriving DecidableEq

inductive Destination
  | output
  | file (p : Path)
  | source
  deriving DecidableEq

inductive Request
  | bind (inputs : List Path) (destination : Destination) (style : ReportStyle) (viewer : Overrides)
  | watch (input output : Path) (pollMs : Option Nat) (viewer : Overrides)
  | format (timestamp : List Char) (mode : Mode) (viewer : Overrides)
  deriving DecidableEq

inductive Refusal
  | usage
  | help
  | version
  deriving DecidableEq, Repr

def Overrides.formatter (o : Overrides) (c : Config) (e : Environment) (localOffset : Int) :
    Formatter :=
  let settled := { c with locale := o.locale <|> c.locale, zone := o.zone.getD c.zone }
  settled.formatter e localOffset

end TimeMarkup
