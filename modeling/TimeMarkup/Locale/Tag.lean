import TimeMarkup.Text.Blank
import TimeMarkup.Text.Split
/-!
Locale tags, as in `en-US` or `de_DE.UTF-8`: a language and perhaps a region. Codeset, modifier and
all other subtags are dropped.
-/

namespace TimeMarkup

/-- A language in small letters and a region in capitals. -/
structure LocaleTag where
  language : String
  region : Option String
  deriving DecidableEq, Repr

namespace LocaleTag

/-- Two or three letters name a language. -/
def isLanguage (s : List Char) : Bool :=
  (s.length == 2 || s.length == 3) && s.all Char.isAlpha

/-- Two letters or three digits name a region. -/
def isRegion (s : List Char) : Bool :=
  (s.length == 2 && s.all Char.isAlpha) || (s.length == 3 && s.all Char.isDigit)

/-- The tag that a text writes. The first subtag is the language, and the first later one that looks
like a region is the region. -/
def ofChars? (cs : List Char) : Option LocaleTag :=
  let base := (Text.trim cs).takeWhile fun c => !(c == '.' || c == '@')
  match Text.words (fun c => c == '-' || c == '_') base with
  | [] => none
  | language :: others =>
    if isLanguage language then
      some
        { language := String.ofList (language.map Char.toLower)
          region := (others.find? isRegion).map fun r => String.ofList (r.map Char.toUpper) }
    else none

def parse? (s : String) : Option LocaleTag :=
  ofChars? s.toList

def default : LocaleTag := ⟨"en", some "US"⟩

instance : Inhabited LocaleTag := ⟨default⟩

def text (t : LocaleTag) : String :=
  match t.region with
  | some region => t.language ++ "-" ++ region
  | none => t.language

@[simp] theorem text_default : default.text = "en-US" := rfl

end LocaleTag

end TimeMarkup
