import TimeMarkup.Journal.Filter
import TimeMarkup.Storage.FileSystem
import TimeMarkup.Storage.Glob
import TimeMarkup.Text.Quoted
/-!
What can go wrong, and how it is said.
-/

namespace TimeMarkup

inductive SettingsFlaw
  | unreadable (path : Path) (e : IoError)
  | malformed
  | zeroPoll
  | unknownZone (text : List Char)
  | invalidLevel (level : String) (flaw : FilterFlaw)
  deriving DecidableEq

/-- A path in quotes, where apostrophes are escaped too. -/
def Path.quote (p : Path) : String :=
  let quotedChar (c : Char) := if c = '\x27' then ['\\', '\x27'] else Text.quotedChar c
  String.ofList ('"' :: p.flatMap quotedChar ++ ['"'])

def SettingsFlaw.message : SettingsFlaw → String
  | unreadable path e => "failed to read config file " ++ path.quote ++ ": " ++ e.message
  | malformed => "failed to parse config"
  | zeroPoll => "watch.poll_ms must be greater than zero"
  | unknownZone text =>
    "unknown display zone " ++ Text.quote text ++ " (expected \"utc\" or \"local\")"
  | invalidLevel level flaw =>
    "invalid log level " ++ Text.quote level.toList ++ ": " ++ flaw.message

inductive Failure
  | io (e : IoError)
  | settings (flaw : SettingsFlaw)
  | invalidTimestamp (value : List Char)
  | unrecognizedMode (value : List Char)
  | invalidLocale (tag : List Char)
  | pattern (e : PatternError)
  deriving DecidableEq

namespace Failure

def message : Failure → String
  | io e => "IO error: " ++ e.message
  | settings flaw => "configuration error: " ++ flaw.message
  | invalidTimestamp value => "invalid timestamp: " ++ Text.quote value
  | unrecognizedMode value => "unrecognized display mode: " ++ Text.quote value
  | invalidLocale tag => "invalid locale tag: " ++ Text.quote tag
  | pattern e => "invalid input pattern: " ++ e.message

/-- The failure and the causes behind it, each in words. -/
def causes : Failure → List String
  | io e => [(io e).message, e.message]
  | pattern e => [(pattern e).message, e.message]
  | f => [f.message]

end Failure

end TimeMarkup
