import TimeMarkup.Locale.MonthNames
import TimeMarkup.Locale.Tag
import TimeMarkup.Time.Instant
/-!
Long dates, as in `June 15, 2024`: the order of the fields is that of the language, the month name
that of the locale.
-/

namespace TimeMarkup

inductive DatePart
  | literal (s : String)
  | monthName
  | monthNumber
  | day
  | year
  deriving DecidableEq

namespace DatePart

def spec : DatePart → String
  | literal s => s
  | monthName => "%B"
  | monthNumber => "%-m"
  | day => "%-d"
  | year => "%Y"

def format (monthNames : List String) (d : Date) : DatePart → List Char
  | literal s => s.toList
  | monthName => (monthNames.getD (d.month - 1) "").toList
  | monthNumber => Nat.toDigits 10 d.month
  | day => Nat.toDigits 10 d.day
  | year => Date.yearText d.year

end DatePart

abbrev DatePattern := List DatePart

namespace DatePattern

open DatePart

def text (p : DatePattern) : String :=
  String.join (p.map spec)

def format (p : DatePattern) (monthNames : List String) (d : Date) : List Char :=
  p.flatMap (DatePart.format monthNames d)

@[simp] theorem format_nil (monthNames : List String) (d : Date) :
    format [] monthNames d = [] := rfl

@[simp] theorem format_cons (part : DatePart) (p : DatePattern) (monthNames : List String)
    (d : Date) :
    format (part :: p) monthNames d = part.format monthNames d ++ format p monthNames d := rfl

end DatePattern

namespace LocaleTag

open DatePart

/-- The pattern of the long date. American, Canadian and Philippine English put the month first;
Finnish adds the ending of the partitive to the month. -/
def longDatePattern (t : LocaleTag) : DatePattern :=
  match t.language, t.region with
  | "en", none | "en", some "US" | "en", some "CA" | "en", some "PH" =>
    [monthName, literal " ", day, literal ", ", year]
  | "de", _ | "da", _ | "nb", _ | "no", _ | "cs", _ | "sk", _ =>
    [day, literal ". ", monthName, literal " ", year]
  | "es", _ | "pt", _ => [day, literal " de ", monthName, literal " de ", year]
  | "ja", _ | "zh", _ => [year, literal "年", monthNumber, literal "月", day, literal "日"]
  | "ko", _ => [year, literal "년 ", monthNumber, literal "월 ", day, literal "일"]
  | "fi", _ => [day, literal ". ", monthName, literal "ta ", year]
  | "hu", _ => [year, literal ". ", monthName, literal " ", day, literal "."]
  | _, _ => [day, literal " ", monthName, literal " ", year]

/-- The locale that stands for a language whose region is missing or unknown. -/
def primaryLocale? (language : String) : Option String :=
  match language with
  | "en" => some "en_US"
  | "de" => some "de_DE"
  | "fr" => some "fr_FR"
  | "es" => some "es_ES"
  | "it" => some "it_IT"
  | "pt" => some "pt_BR"
  | "nl" => some "nl_NL"
  | "sv" => some "sv_SE"
  | "da" => some "da_DK"
  | "nb" | "no" => some "nb_NO"
  | "fi" => some "fi_FI"
  | "pl" => some "pl_PL"
  | "cs" => some "cs_CZ"
  | "sk" => some "sk_SK"
  | "hu" => some "hu_HU"
  | "ru" => some "ru_RU"
  | "uk" => some "uk_UA"
  | "tr" => some "tr_TR"
  | "ja" => some "ja_JP"
  | "zh" => some "zh_CN"
  | "ko" => some "ko_KR"
  | _ => none

/-- The locale whose month names the tag takes, if there is one for its language. -/
def conventions? (t : LocaleTag) : Option String :=
  let regional := t.region.bind fun region =>
    let name := t.language ++ "_" ++ region
    (MonthNames.find? name).map fun _ => name
  regional <|> primaryLocale? t.language

/-- The locale whose month names the tag takes; `en_US` where its language has none. -/
def conventions (t : LocaleTag) : String :=
  t.conventions?.getD "en_US"

def monthNames (t : LocaleTag) : List String :=
  (MonthNames.find? t.conventions).getD []

def longDate (t : LocaleTag) (d : Date) : List Char :=
  t.longDatePattern.format t.monthNames d

end LocaleTag

end TimeMarkup
