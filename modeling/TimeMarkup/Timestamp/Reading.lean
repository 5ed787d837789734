import TimeMarkup.Timestamp.Internet
import TimeMarkup.Timestamp.Mail
import TimeMarkup.Timestamp.Plain
/-!
Reading a timestamp in any of the seven formats. Blanks around it do not count.
-/

namespace TimeMarkup.Timestamp

/-- The formats, in the order in which they are tried. -/
def formats : List (List Char → Option Instant) :=
  [internet?, mail?, plain? .letterT .seconds, plain? .space .seconds, plain? .letterT .minutes,
    plain? .space .minutes, dateOnly?]

def read? (cs : List Char) : Option Instant :=
  formats.findSome? fun format => format (Text.trim cs)

theorem read?_eq_none_iff (cs : List Char) :
    read? cs = none ↔ ∀ format ∈ formats, format (Text.trim cs) = none := by
  simp [read?, List.findSome?_eq_none_iff]

end TimeMarkup.Timestamp
