import TimeMarkup.Expression.Flaw
import TimeMarkup.Journal.Event
import TimeMarkup.Text.Alphanumeric
import TimeMarkup.Text.Bytes
import TimeMarkup.Text.Order
import TimeMarkup.Text.Split
/-!
Log filters. A filter is a list of directives between commas; the most specific directive that is
about an event decides whether the event is logged.
-/

namespace TimeMarkup

inductive FilterFlaw
  | directive
  | level
  | value (flaw : Expression.Flaw)
  deriving DecidableEq

def FilterFlaw.message : FilterFlaw → String
  | directive => "invalid filter directive"
  | level => "error parsing level filter: expected one of \"off\", \"error\", \"warn\", \"info\", "
      ++ "\"debug\", \"trace\", or a number 0-5"
  | value flaw => "invalid field filter: " ++ flaw.message

/-- Events of targets that start with a text, and that have a field, are logged up to a severity.
Scoped directives, which also ask for a scope or for a value of the field, concern no event, since
no event has a scope. -/
structure Directive where
  target : Option (List Char)
  field : Option (List Char)
  isScoped : Bool
  threshold : Nat
  deriving DecidableEq

namespace Directive

/-- The threshold that lets all events pass. -/
def maxThreshold : Nat := 5

def thresholdWords : List String := ["off", "error", "warn", "info", "debug", "trace"]

/-- The threshold that a word in any case or a number names. -/
def threshold? (cs : List Char) : Option Nat :=
  match Text.unsigned? 10 cs with
  | some n => if n ≤ maxThreshold then some n else none
  | none => thresholdWords.findIdx? fun w => w.toList = cs.map Char.toLower

def isInitial (c : Char) : Bool :=
  c == '-' || c == ':' || c == '_' || Text.isAlphanumeric c

/-- Whether a text writes a decimal number: with or without a sign, a fraction and an exponent, or
one of the words for what is no finite number. -/
def isNumber (cs : List Char) : Bool :=
  let unsigned (cs : List Char) :=
    if cs.head? = some '+' || cs.head? = some '-' then cs.drop 1 else cs
  let body := unsigned cs
  let whole := body.takeWhile Char.isDigit
  let afterWhole := body.drop whole.length
  let fraction :=
    if afterWhole.head? = some '.' then (afterWhole.drop 1).takeWhile Char.isDigit else []
  let afterFraction :=
    if afterWhole.head? = some '.' then afterWhole.drop (1 + fraction.length) else afterWhole
  let hasExponent (cs : List Char) := match cs with
    | [] => true
    | c :: cs => (c == 'e' || c == 'E') && !(unsigned cs).isEmpty && (unsigned cs).all Char.isDigit
  ["inf", "infinity", "nan"].contains (String.ofList (body.map Char.toLower))
    || (!(whole ++ fraction).isEmpty && hasExponent afterFraction)

/-- What is wrong with a value for a field, which has to be a number or an expression. -/
def valueFlaw? (cs : List Char) : Option Expression.Flaw :=
  if isNumber cs then none else Expression.flaw? cs

/-- A directive's text. The parts are found in the text without the blanks around it, but are then
cut from the whole text at the same places, so that blanks in front of a directive are part of its
first words, and those after it of its last one. -/
structure Source where
  text : List Char

namespace Source

def trimmed (s : Source) : List Char :=
  Text.trim s.text

/-- The part of the text from where the end `tail` of the trimmed text starts. -/
def onward (s : Source) (tail : List Char) : List Char :=
  Text.dropBytes (Text.byteLength s.trimmed - Text.byteLength tail) s.text

/-- The part of the text from where one end of the trimmed text starts to where a shorter one
starts. -/
def between (s : Source) (tail shorter : List Char) : List Char :=
  Text.takeBytes (Text.byteLength tail - Text.byteLength shorter) (s.onward tail)

/-- The directive with the threshold that follows; without one all events are logged. -/
def withThreshold (s : Source) (d : Directive) (tail : List Char) : Except FilterFlaw Directive :=
  let word := s.onward tail
  if word.isEmpty then .ok { d with threshold := maxThreshold }
  else match threshold? word with
    | some n => .ok { d with threshold := n }
    | none => .error .level

/-- The directive with what follows its scope and field. -/
def afterScope (s : Source) (d : Directive) : List Char → Except FilterFlaw Directive
  | [] => .ok d
  | '=' :: tail => s.withThreshold d tail
  | _ => .error .directive

/-- The directive with a field, which may have a value after an equals sign. -/
def withField (d : Directive) (cs : List Char) : Except FilterFlaw Directive :=
  match Text.fields (· == '=') cs with
  | [name] => .ok { d with field := some name }
  | name :: value :: _ =>
    match valueFlaw? value with
    | some flaw => .error (.value flaw)
    | none => .ok { d with field := some name, isScoped := true }
  | [] => .error .directive

/-- The directive with the scope and the field that follow a bracket. -/
def withScope (s : Source) (d : Directive) (tail : List Char) : Except FilterFlaw Directive :=
  let afterName := tail.dropWhile fun c => c != ']' && c != '{'
  match afterName with
  | ']' :: rest => s.afterScope { d with isScoped := true } rest
  | '{' :: rest =>
    let afterField := rest.dropWhile (· != '}')
    let field := s.between rest afterField
    match afterField with
    | '}' :: rest =>
      if field.isEmpty then .error .directive
      else do
        let d ← withField { d with isScoped := !(s.between tail afterName).isEmpty } field
        match rest with
        | ']' :: rest => s.afterScope d rest
        | _ => .error .directive
    | _ => .error .directive
  | _ => .error .directive

/-- The directive that the text writes: a threshold, or a target, a scope and a threshold. -/
def directive (s : Source) : Except FilterFlaw Directive :=
  let start := s.trimmed
  match start with
  | [] => .error .directive
  | '[' :: rest => s.withScope ⟨none, none, false, maxThreshold⟩ rest
  | c :: _ =>
    if isInitial c then
      let afterTarget := start.dropWhile fun c => c != '=' && c != '['
      let target := s.between start afterTarget
      match afterTarget with
      | '=' :: rest => s.withThreshold ⟨some target, none, false, maxThreshold⟩ rest
      | _ :: rest => s.withScope ⟨some target, none, false, maxThreshold⟩ rest
      | [] =>
        match threshold? s.text with
        | some n => .ok ⟨none, none, false, n⟩
        | none => .ok ⟨some s.text, none, false, maxThreshold⟩
    else .error .directive

end Source

def parse (cs : List Char) : Except FilterFlaw Directive :=
  Source.directive ⟨cs⟩

def concerns (d : Directive) (e : Event) : Bool :=
  !d.isScoped && d.target.all (·.isPrefixOf e.target.toList)
    && d.field.all fun f => ("message" :: e.fields.map (·.1)).any (·.toList == f)

/-- How specific the target of the directive is: the longer the more. -/
def targetRank (d : Directive) : Nat :=
  match d.target with
  | none => 0
  | some target => Text.byteLength target + 1

/-- Whether the directive is at least as specific as another: by the length of its target, then by
having a field, then by the order of fields. -/
def isAsSpecificAs (d other : Directive) : Bool :=
  other.targetRank < d.targetRank
    || (other.targetRank == d.targetRank
      && match other.field, d.field with
        | none, _ => true
        | some _, none => false
        | some f, some g => Text.le f g)

end Directive

abbrev Filter := List Directive

namespace Filter

def parse (cs : List Char) : Except FilterFlaw Filter :=
  (Text.words (· == ',') cs).mapM Directive.parse

/-- The directive that decides after another one has been added, if it is at least as specific. -/
def prefer : Option Directive → Directive → Option Directive
  | none, d => some d
  | some best, d => some (if d.isAsSpecificAs best then d else best)

/-- The most specific directive about an event; of equally specific ones the last. -/
def deciding? (f : Filter) (e : Event) : Option Directive :=
  (f.filter (·.concerns e)).foldl prefer none

def admits (f : Filter) (e : Event) : Bool :=
  (f.deciding? e).any fun d => e.severity.rank ≤ d.threshold

@[simp] theorem admits_nil (e : Event) : admits [] e = false := rfl

theorem foldl_prefer_mem {ds : List Directive} {best : Option Directive} {d : Directive}
    (h : ds.foldl prefer best = some d) : d ∈ ds ∨ best = some d := by
  induction ds generalizing best with
  | nil => exact .inr h
  | cons c ds ih =>
    rcases ih h with h | h
    · exact .inl (.tail _ h)
    · cases best with
      | none => exact .inl (Option.some.inj h ▸ .head _)
      | some b =>
        by_cases hs : c.isAsSpecificAs b
        · exact .inl (by simp [prefer, hs] at h; simp [h])
        · exact .inr (by simpa [prefer, hs] using h)

theorem concerns_of_deciding? {f : Filter} {e : Event} {d : Directive}
    (h : f.deciding? e = some d) :
    d ∈ f ∧ d.concerns e = true := by
  rcases foldl_prefer_mem h with h | h
  · exact List.mem_filter.mp h
  · simp at h

end Filter

end TimeMarkup
