import TimeMarkup.Settings.Environment
import TimeMarkup.Settings.Input
import TimeMarkup.Settings.Value
import TimeMarkup.Toml.Document
/-!
The settings of the program, read from values of a settings file. Keys that are not known are
ignored, and what is missing has a default.
-/

namespace TimeMarkup

/-- The settings: the viewer's locale and zone, milliseconds between looks at a watched file, and
the level of the log. -/
structure Config where
  locale : Option LocaleTag
  zone : Zone
  pollMs : Nat
  level : String
  deriving DecidableEq

namespace Config

def default : Config := ⟨none, .utc, 500, "info"⟩

instance : Inhabited Config := ⟨default⟩

open Settings (Value)

/-- What two formats of settings have different: whether a section that is written as a list may be
too long, and which values stand for no value. -/
structure Dialect where
  allowsSurplus : Bool
  isUnit : Value → Bool

def toml : Dialect where
  allowsSurplus := true
  isUnit
    | .table _ [] => true
    | .list [] => true
    | _ => false

def json : Dialect where
  allowsSurplus := false
  isUnit
    | .null => true
    | _ => false

/-- The values of named fields. A section is a table, or a list of the values in the order of the
names; a moment is a section without any. -/
def fields? (dialect : Dialect) (names : List String) : Value → Option (List (Option Value))
  | .table _ entries => some (names.map (Value.find? entries))
  | .moment => some (names.map fun _ => none)
  | .list items =>
    if items.length ≤ names.length || dialect.allowsSurplus then
      some (names.mapIdx fun i _ => items[i]?)
    else none
  | .tables elements => some (names.mapIdx fun i _ => elements[i]?)
  | _ => none

/-- One of a number of words: the text, or a table with the word as its key and no value. -/
def word? (dialect : Dialect) : Value → Option String
  | .text s => some s
  | .table _ [(k, v)] => if dialect.isUnit v then some k else none
  | _ => none

def optional {α : Type} (missing : α) (read : Value → Option α) : Option Value → Option α
  | none => some missing
  | some v => read v

def locale? : Value → Option LocaleTag
  | .text s => LocaleTag.parse? s
  | _ => none

def maybeLocale? : Value → Option (Option LocaleTag)
  | .null => some none
  | v => (locale? v).map some

def zone? (dialect : Dialect) (v : Value) : Option Zone :=
  (word? dialect v).bind Zone.ofText?

def mode? (dialect : Dialect) (v : Value) : Option Mode :=
  (word? dialect v).bind Mode.parse?

def milliseconds? : Value → Option Nat
  | .integer n => if 0 ≤ n ∧ n.toNat < Nat.pow 2 64 then some n.toNat else none
  | _ => none

def text? : Value → Option String
  | .text s => some s
  | _ => none

/-- The section on what the viewer sees. Written as a list it has to say the locale. -/
def display? (dialect : Dialect) (v : Value) : Option (Option LocaleTag × Zone) :=
  match v with
  | .list [] => none
  | _ => do
    match ← fields? dialect ["locale", "zone"] v with
    | [l, z] => some (← optional none maybeLocale? l, ← optional .utc (zone? dialect) z)
    | _ => none

def watch? (dialect : Dialect) (v : Value) : Option Nat := do
  match ← fields? dialect ["poll_ms"] v with
  | [p] => optional default.pollMs milliseconds? p
  | _ => none

def logging? (dialect : Dialect) (v : Value) : Option String := do
  match ← fields? dialect ["level"] v with
  | [l] => optional default.level text? l
  | _ => none

def ofValue? (dialect : Dialect) (v : Value) : Option Config := do
  match ← fields? dialect ["display", "watch", "logging"] v with
  | [d, w, l] =>
    let (locale, zone) ← optional (none, .utc) (display? dialect) d
    let pollMs ← optional default.pollMs (watch? dialect) w
    let level ← optional default.level (logging? dialect) l
    some ⟨locale, zone, pollMs, level⟩
  | _ => none

def validate (c : Config) : Except Failure Unit :=
  if c.pollMs = 0 then .error (.settings .zeroPoll) else .ok ()

def parse (cs : List Char) : Except Failure Config :=
  match (Toml.parse? cs).bind (ofValue? toml) with
  | none => .error (.settings .malformed)
  | some c => c.validate.map fun _ => c

def loadFrom (fs : FileSystem) (p : Path) : Except Failure Config :=
  match fs.readText p with
  | .error e => .error (.settings (.unreadable p e))
  | .ok cs => parse cs

/-- The settings in the file that the environment names; the defaults if there is none. -/
def load (fs : FileSystem) (e : Environment) : Except Failure Config :=
  if fs.exists? e.configPath then loadFrom fs e.configPath else .ok default

def formatter (c : Config) (e : Environment) (localOffset : Int) : Formatter :=
  ⟨e.resolvedLocale c.locale, c.zone, localOffset⟩

theorem validate_default : default.validate = .ok () := rfl

end Config

end TimeMarkup
