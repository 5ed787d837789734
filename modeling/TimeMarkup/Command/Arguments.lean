import TimeMarkup.Command.Request
/-!
Command lines. Arguments are taken one after the other into a draft of the request; the first one
that does not fit ends the reading, and so does a call for help.
-/

namespace TimeMarkup

inductive Verb
  | bind
  | watch
  | format
  deriving DecidableEq, Repr

def Verb.ofName? (s : String) : Option Verb :=
  match s with
  | "bind" => some bind
  | "watch" => some watch
  | "format" => some format
  | _ => none

inductive OptionKey
  | locale
  | zone
  | now
  | output
  | report
  | poll
  | mode
  deriving DecidableEq, Repr

namespace OptionKey

def name : OptionKey → String
  | locale => "locale"
  | zone => "zone"
  | now => "now"
  | output => "output"
  | report => "report"
  | poll => "poll"
  | mode => "mode"

def ofVerb : Verb → List OptionKey
  | .bind => [output, report, locale, zone, now]
  | .watch => [output, poll, locale, zone, now]
  | .format => [mode, locale, zone, now]

def find? (v : Verb) (s : List Char) : Option OptionKey :=
  (ofVerb v).find? fun k => k.name.toList == s

end OptionKey

/-- What has been read of a command line. -/
structure Draft where
  operands : List (List Char)
  inPlace : Bool
  locale : Option LocaleTag
  zone : Option Zone
  now : Option Instant
  output : Option Path
  report : Option ReportStyle
  poll : Option Nat
  mode : Option Mode

namespace Draft

def empty : Draft := ⟨[], false, none, none, none, none, none, none, none⟩

/-- The first value of an option, if it has none so far and the text is one. -/
def first {α : Type} (present : Option α) (value : Option α) : Except Refusal (Option α) :=
  match present, value with
  | none, some a => .ok (some a)
  | _, _ => .error .usage

def path? (cs : List Char) : Option Path :=
  if cs.isEmpty then none else some cs

def milliseconds? (cs : List Char) : Option Nat :=
  (Text.unsigned? 10 cs).filter (· < Nat.pow 2 64)

def put (d : Draft) (k : OptionKey) (cs : List Char) : Except Refusal Draft :=
  match k with
  | .locale => (first d.locale (LocaleTag.ofChars? cs)).map fun v => { d with locale := v }
  | .zone => (first d.zone (Zone.ofInput cs).toOption).map fun v => { d with zone := v }
  | .now => (first d.now (Timestamp.read? cs)).map fun v => { d with now := v }
  | .output => (first d.output (path? cs)).map fun v => { d with output := v }
  | .report => (first d.report (ReportStyle.ofName? (String.ofList cs))).map fun v =>
      { d with report := v }
  | .poll => (first d.poll (milliseconds? cs)).map fun v => { d with poll := v }
  | .mode => (first d.mode (Mode.parse? (String.ofList cs))).map fun v => { d with mode := v }

def putInPlace (d : Draft) : Except Refusal Draft :=
  if d.inPlace then .error .usage else .ok { d with inPlace := true }

/-- The draft with one more operand: any number of inputs to bind, one of them to watch if it is not
empty, or one timestamp. -/
def putOperand (v : Verb) (d : Draft) (cs : List Char) : Except Refusal Draft :=
  let fits := match v with
    | .bind => true
    | .watch => d.operands.isEmpty && !cs.isEmpty
    | .format => d.operands.isEmpty
  if fits then .ok { d with operands := d.operands ++ [cs] } else .error .usage

/-- What an argument is, as far as its spelling tells. -/
inductive Argument
  | operand (cs : List Char)
  | operandsOnly
  | long (name : List Char) (value : Option (List Char))
  | short (name : Char) (attached : List Char)

def Argument.of (cs : List Char) : Argument :=
  match cs with
  | ['-', '-'] => operandsOnly
  | '-' :: '-' :: rest =>
    let name := rest.takeWhile (· != '=')
    match rest.drop name.length with
    | '=' :: value => long name (some value)
    | _ => long name none
  | '-' :: c :: attached => short c attached
  | _ => operand cs

/-- Whether a text can only be the value of an option if it is attached to it. -/
def isDashed (cs : List Char) : Bool :=
  match Argument.of cs with
  | .operand _ => false
  | _ => true

/-- The value that is attached to the name of a short option. -/
def attachedValue? (cs : List Char) : Option (List Char) :=
  match cs with
  | [] => none
  | '=' :: value => some value
  | value => some value

def read (v : Verb) (d : Draft) : List (List Char) → Except Refusal Draft
  | [] => .ok d
  | a :: rest =>
    match Argument.of a with
    | .operand cs => do read v (← d.putOperand v cs) rest
    | .operandsOnly => rest.foldlM (putOperand v) d
    | .long name value =>
      match OptionKey.find? v name, value with
      | some k, some cs => do read v (← d.put k cs) rest
      | some k, none => separate v k d rest
      | none, some _ => .error .usage
      | none, none =>
        if name = "help".toList then .error .help
        else if name = "in-place".toList ∧ v = .bind then do read v (← d.putInPlace) rest
        else .error .usage
    | .short name attached =>
      if name = 'h' then .error .help
      else if name = 'o' ∧ v ≠ .format then
        match attachedValue? attached with
        | some cs => do read v (← d.put .output cs) rest
        | none => separate v .output d rest
      else .error .usage
where
  /-- The draft after an option whose value is the next argument. -/
  separate (v : Verb) (k : OptionKey) (d : Draft) : List (List Char) → Except Refusal Draft
    | [] => .error .usage
    | value :: rest =>
      if isDashed value then .error .usage else do read v (← d.put k value) rest

def request (v : Verb) (d : Draft) : Except Refusal Request :=
  let viewer : Overrides := ⟨d.locale, d.zone, d.now⟩
  match v, d.operands, d.output with
  | .bind, input :: inputs, output =>
    match output, d.inPlace with
    | some _, true => .error .usage
    | some p, false => .ok (.bind (input :: inputs) (.file p) (d.report.getD .plain) viewer)
    | none, true => .ok (.bind (input :: inputs) .source (d.report.getD .plain) viewer)
    | none, false => .ok (.bind (input :: inputs) .output (d.report.getD .plain) viewer)
  | .watch, input :: _, some output => .ok (.watch input output d.poll viewer)
  | .format, timestamp :: _, _ => .ok (.format timestamp (d.mode.getD .relative) viewer)
  | _, _, _ => .error .usage

end Draft

namespace Request

def helpOn (rest : List (List Char)) : Refusal :=
  match rest with
  | [] => .help
  | [word] =>
    if (Verb.ofName? (String.ofList word)).isSome || word = "help".toList then .help else .usage
  | _ => .usage

def ofArguments (args : List (List Char)) : Except Refusal Request :=
  match args with
  | [] => .error .usage
  | a :: rest =>
    match Draft.Argument.of a with
    | .operand cs =>
      match Verb.ofName? (String.ofList cs) with
      | some v => do (← Draft.empty.read v rest).request v
      | none => if cs = "help".toList then .error (helpOn rest) else .error .usage
    | .long name none =>
      if name = "help".toList then .error .help
      else if name = "version".toList then .error .version
      else .error .usage
    | .short 'h' _ => .error .help
    | .short 'V' _ => .error .version
    | _ => .error .usage

end Request

end TimeMarkup
