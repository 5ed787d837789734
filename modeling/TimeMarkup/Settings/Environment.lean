import TimeMarkup.Locale.Tag
import TimeMarkup.Storage.Path
import TimeMarkup.Text.Content
/-!
What the environment says: the host's locale, and the directories for settings and state.
-/

namespace TimeMarkup

structure Environment where
  entries : List (String × Content)

namespace Environment

def get? (e : Environment) (name : String) : Option Content :=
  (e.entries.find? fun v => v.1 == name).map (·.2)

def text? (e : Environment) (name : String) : Option (List Char) :=
  (e.get? name).bind Content.text?

/-- Variables that name the host's locale, the first one first. -/
def localeVariables : List String := ["LC_ALL", "LC_TIME", "LANG"]

/-- Whether a text names no language but the system's default. -/
def isSystemDefault (cs : List Char) : Bool :=
  cs.isEmpty || cs == ['C'] || cs == "POSIX".toList || ['C', '.'].isPrefixOf cs

/-- The host's locale: the first variable that names a language. -/
def hostLocale? (e : Environment) : Option LocaleTag :=
  ((localeVariables.filterMap e.text?).filter (!isSystemDefault ·)).findSome? LocaleTag.ofChars?

/-- The locale to use: the configured one, else the host's, else the default. -/
def resolvedLocale (e : Environment) (configured : Option LocaleTag) : LocaleTag :=
  (configured <|> e.hostLocale?).getD LocaleTag.default

def home (e : Environment) : Path :=
  ((e.get? "HOME").map Content.shown).getD ['.']

def configHome (e : Environment) : Path :=
  (e.text? "XDG_CONFIG_HOME").getD (Path.join e.home ".config".toList)

def stateHome (e : Environment) : Path :=
  (e.text? "XDG_STATE_HOME").getD (Path.join e.home ".local/state".toList)

def configPath (e : Environment) : Path :=
  Path.join (Path.join e.configHome "localtime".toList) "config.toml".toList

def stateDirectory (e : Environment) : Path :=
  Path.join e.stateHome "localtime".toList

def logPath (e : Environment) : Path :=
  Path.join e.stateDirectory "localtime.log".toList

theorem resolvedLocale_some (e : Environment) (t : LocaleTag) : e.resolvedLocale (some t) = t := rfl

end Environment

end TimeMarkup
