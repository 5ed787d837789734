import Mathlib.Data.List.Nodup
import TimeMarkup.Binding.Formatter
import TimeMarkup.Proofs.Text.Digits
import TimeMarkup.Proofs.Text.Splitting
import TimeMarkup.Proofs.Timestamp.Readers

/-!
# Long dates tell days apart

In a long date the numbers border on texts that are no part of a number, so that they can be read
off from both ends. What is left between them is a month's name, and no locale gives two months one
name.
-/

namespace TimeMarkup

theorem Date.eq_of_fields {d d' : Date} (hyear : d.year = d'.year) (hmonth : d.month = d'.month)
    (hday : d.day = d'.day) :
    d = d' := by
  cases d
  cases d'
  simp_all

theorem Date.yearText_injective {year year' : Int} (h : yearText year = yearText year') :
    year = year' := by
  have hread := Timestamp.plainYear_yearText year []
  rw [h, Timestamp.plainYear_yearText] at hread
  exact (Prod.mk.inj (Option.some.inj hread)).1.symm

theorem Instant.dateAt_eq_iff (offset : Int) (a b : Instant) :
    a.dateAt offset = b.dateAt offset ↔
      (a.seconds + offset) / 86400 = (b.seconds + offset) / 86400 := by
  constructor
  · intro h
    have hday := congrArg Date.dayNumber h
    rwa [dateAt, dateAt, Date.dayNumber_ofDayNumber, Date.dayNumber_ofDayNumber] at hday
  · intro h
    rw [dateAt, dateAt, h]

/-- Characters of numbers and their signs. -/
def isNumeral (c : Char) : Bool :=
  c.isDigit || c == '+' || c == '-'

theorem isNumeral_of_mem_toDigits {n : Nat} {c : Char} (h : c ∈ Nat.toDigits 10 n) :
    isNumeral c = true := by
  rw [isNumeral, Nat.isDigit_of_mem_toDigits (by decide) (by decide) h]
  rfl

theorem isNumeral_of_mem_yearText {year : Int} {c : Char} (h : c ∈ Date.yearText year) :
    isNumeral c = true := by
  have hdigit (hc : c ∈ Text.padded 4 year.natAbs) : isNumeral c = true := by
    rw [isNumeral, Text.isDigit_of_mem_padded hc]
    rfl
  rw [Date.yearText] at h
  split at h
  · rcases List.mem_cons.mp h with rfl | h
    · rfl
    · exact hdigit h
  · split at h
    · rcases List.mem_cons.mp h with rfl | h
      · rfl
      · exact hdigit h
    · exact hdigit h

namespace DatePart

def isNumber : DatePart → Bool
  | monthNumber | day | year => true
  | literal _ | monthName => false

/-- The part shows the same of both dates. -/
def Agrees (d d' : Date) : DatePart → Prop
  | literal _ => True
  | monthName | monthNumber => d.month = d'.month
  | day => d.day = d'.day
  | year => d.year = d'.year

variable {names : List String} {d d' : Date} {part : DatePart}

theorem format_literal (s : String) (names : List String) (d : Date) :
    (literal s).format names d = s.toList := rfl

theorem isNumeral_of_mem_format (hpart : part.isNumber = true) {c : Char}
    (hc : c ∈ part.format names d) :
    isNumeral c = true := by
  cases part with
  | literal s => cases hpart
  | monthName => cases hpart
  | monthNumber => exact isNumeral_of_mem_toDigits hc
  | day => exact isNumeral_of_mem_toDigits hc
  | year => exact isNumeral_of_mem_yearText hc

theorem agrees_of_format_eq (hlength : names.length = 12) (hnames : names.Nodup)
    (h : part.format names d = part.format names d') : part.Agrees d d' := by
  cases part with
  | literal s => trivial
  | monthNumber => exact Text.toDigits_injective (by decide) h
  | day => exact Text.toDigits_injective (by decide) h
  | year => exact Date.yearText_injective h
  | monthName =>
    have hlt (d : Date) : d.month - 1 < names.length := by
      have hmonth := d.month_mem
      omega
    have hname : names.getD (d.month - 1) "" = names.getD (d'.month - 1) "" :=
      String.toList_injective h
    rw [List.getD_eq_getElem?_getD, List.getD_eq_getElem?_getD, List.getElem?_eq_getElem (hlt d),
      List.getElem?_eq_getElem (hlt d'), Option.getD_some, Option.getD_some, hnames.getElem_inj_iff]
      at hname
    have hmonth := d.month_mem
    have hmonth' := d'.month_mem
    simp only [Agrees]
    omega

end DatePart

namespace DatePattern
open DatePart

/-- No number runs on into the text. -/
def startsApart (s : String) : Bool :=
  s.toList.head?.any fun c => !isNumeral c

def endsApart (s : String) : Bool :=
  s.toList.getLast?.any fun c => !isNumeral c

theorem exists_cons_of_startsApart {s : String} (h : startsApart s = true) :
    ∃ c cs, s.toList = c :: cs ∧ isNumeral c = false := by
  rw [startsApart, Option.any_eq_true] at h
  obtain ⟨c, hhead, hc⟩ := h
  obtain ⟨cs, hs⟩ := List.head?_eq_some_iff.mp hhead
  exact ⟨c, cs, hs, by simpa using hc⟩

theorem exists_concat_of_endsApart {s : String} (h : endsApart s = true) :
    ∃ cs c, s.toList = cs ++ [c] ∧ isNumeral c = false := by
  rw [endsApart, Option.any_eq_true] at h
  obtain ⟨c, hlast, hc⟩ := h
  obtain ⟨cs, hs⟩ := List.getLast?_eq_some_iff.mp hlast
  exact ⟨cs, c, hs, by simpa using hc⟩

/-- The parts can be told apart, each from one end of the text. -/
inductive Readable : DatePattern → Prop
  | nil : Readable []
  | single (part : DatePart) : Readable [part]
  | numberFirst {part : DatePart} {s : String} {p : DatePattern} (hpart : part.isNumber = true)
      (hs : startsApart s = true) (h : Readable p) : Readable (part :: literal s :: p)
  | numberLast {part : DatePart} {s : String} {p : DatePattern} (hpart : part.isNumber = true)
      (hs : endsApart s = true) (h : Readable p) : Readable (p ++ [literal s, part])
  | literalLast {s : String} {p : DatePattern} (h : Readable p) : Readable (p ++ [literal s])

theorem format_append (p q : DatePattern) (names : List String) (d : Date) :
    format (p ++ q) names d = format p names d ++ format q names d :=
  List.flatMap_append

variable {names : List String} {d d' : Date} {p : DatePattern}

theorem not_mem_format {part : DatePart} (hpart : part.isNumber = true) {c : Char}
    (hc : isNumeral c = false) (d : Date) :
    c ∉ part.format names d := by
  intro hmem
  rw [isNumeral_of_mem_format hpart hmem] at hc
  cases hc

/-- Dates that a readable pattern writes alike agree in all that it shows. -/
theorem Readable.agrees (hp : p.Readable) (hlength : names.length = 12) (hnames : names.Nodup)
    (h : p.format names d = p.format names d') : ∀ part ∈ p, part.Agrees d d' := by
  induction hp with
  | nil => exact nofun
  | single part =>
    rw [format_cons, format_cons, format_nil, format_nil, List.append_nil, List.append_nil] at h
    exact List.forall_mem_singleton.mpr (agrees_of_format_eq hlength hnames h)
  | @numberFirst part s p hpart hs _ ih =>
    obtain ⟨c, cs, hs, hc⟩ := exists_cons_of_startsApart hs
    have hsplit (d : Date) : format (part :: literal s :: p) names d =
        part.format names d ++ c :: (cs ++ format p names d) := by
      simp [format_literal, hs]
    rw [hsplit, hsplit] at h
    obtain ⟨hnumber, hrest⟩ :=
      Text.append_cons_inj h (not_mem_format hpart hc d) (not_mem_format hpart hc d')
    rw [List.forall_mem_cons, List.forall_mem_cons]
    exact ⟨agrees_of_format_eq hlength hnames hnumber, trivial, ih (List.append_cancel_left hrest)⟩
  | @numberLast part s p hpart hs _ ih =>
    obtain ⟨cs, c, hs, hc⟩ := exists_concat_of_endsApart hs
    have hsplit (d : Date) : format (p ++ [literal s, part]) names d =
        (format p names d ++ cs) ++ c :: part.format names d := by
      simp [format_append, format_literal, hs]
    rw [hsplit, hsplit] at h
    obtain ⟨hrest, hnumber⟩ :=
      Text.append_cons_inj_right h (not_mem_format hpart hc d) (not_mem_format hpart hc d')
    rw [List.forall_mem_append, List.forall_mem_cons, List.forall_mem_singleton]
    exact ⟨ih (List.append_cancel_right hrest), trivial, agrees_of_format_eq hlength hnames hnumber⟩
  | @literalLast s p _ ih =>
    rw [format_append, format_append] at h
    rw [List.forall_mem_append, List.forall_mem_singleton]
    exact ⟨ih (List.append_cancel_right h), trivial⟩

/-- The pattern shows the whole date. -/
def ShowsDate (p : DatePattern) : Prop :=
  year ∈ p ∧ (monthName ∈ p ∨ monthNumber ∈ p) ∧ day ∈ p

theorem ShowsDate.eq_of_agrees (hp : p.ShowsDate) (h : ∀ part ∈ p, part.Agrees d d') : d = d' := by
  obtain ⟨hyear, hmonth, hday⟩ := hp
  exact Date.eq_of_fields (h year hyear) (hmonth.elim (h monthName) (h monthNumber)) (h day hday)

section Orders
variable {s s' s'' : String}

theorem readable_monthDayYear (hs : endsApart s = true) (hs' : endsApart s' = true) :
    Readable [monthName, literal s, day, literal s', year] :=
  .numberLast (p := [monthName, literal s, day]) rfl hs'
    (.numberLast (p := [monthName]) rfl hs (.single monthName))

theorem readable_dayMonthYear (hs : startsApart s = true) (hs' : endsApart s' = true) :
    Readable [day, literal s, monthName, literal s', year] :=
  .numberFirst rfl hs (.numberLast (p := [monthName]) rfl hs' (.single monthName))

theorem readable_yearMonthDay (hs : startsApart s = true) (hs' : endsApart s' = true) :
    Readable [year, literal s, monthName, literal s', day, literal s''] :=
  .literalLast (p := [year, literal s, monthName, literal s', day])
    (.numberFirst rfl hs (.numberLast (p := [monthName]) rfl hs' (.single monthName)))

theorem readable_numbers (hs : startsApart s = true) (hs' : startsApart s' = true)
    (hs'' : startsApart s'' = true) :
    Readable [year, literal s, monthNumber, literal s', day, literal s''] :=
  .numberFirst rfl hs (.numberFirst rfl hs' (.numberFirst rfl hs'' .nil))

end Orders
end DatePattern

namespace LocaleTag
open DatePart DatePattern

theorem readable_longDatePattern (t : LocaleTag) : t.longDatePattern.Readable := by
  unfold longDatePattern
  split
  all_goals first
    | exact readable_dayMonthYear (by decide +kernel) (by decide +kernel)
    | exact readable_monthDayYear (by decide +kernel) (by decide +kernel)
    | exact readable_yearMonthDay (by decide +kernel) (by decide +kernel)
    | exact readable_numbers (by decide +kernel) (by decide +kernel) (by decide +kernel)

theorem showsDate_longDatePattern (t : LocaleTag) : t.longDatePattern.ShowsDate := by
  unfold longDatePattern
  split
  all_goals simp [ShowsDate]

theorem isSome_find?_of_primaryLocale? {language name : String}
    (h : primaryLocale? language = some name) :
    (MonthNames.find? name).isSome = true := by
  unfold primaryLocale? at h
  split at h
  all_goals cases h
  all_goals decide +kernel

/-- A tag always finds month names. -/
theorem exists_find?_conventions (t : LocaleTag) :
    ∃ names, MonthNames.find? t.conventions = some names := by
  rw [← Option.isSome_iff_exists, conventions]
  cases h : t.conventions? with
  | none => decide +kernel
  | some name =>
    simp only [conventions?, Option.orElse_eq_orElse, Option.orElse_eq_or, Option.or_eq_some_iff]
      at h
    rcases h with h | ⟨-, h⟩
    · obtain ⟨region, -, hregion⟩ := Option.bind_eq_some_iff.mp h
      obtain ⟨names, hnames, rfl⟩ := Option.map_eq_some_iff.mp hregion
      rw [Option.getD_some, hnames]
      rfl
    · exact isSome_find?_of_primaryLocale? h

end LocaleTag

namespace MonthNames

theorem length_names_and_nodup : ∀ m ∈ all, m.names.length = 12 ∧ m.names.Nodup := by
  decide +kernel

theorem exists_of_find? {locale : String} {names : List String} (h : find? locale = some names) :
    ∃ m ∈ all, m.names = names := by
  rw [find?, Option.map_eq_some_iff] at h
  obtain ⟨m, hm, rfl⟩ := h
  exact ⟨m, List.mem_of_find?_eq_some hm, rfl⟩

end MonthNames

namespace Formatter

/-- A long date tells the day and nothing else: in each locale and zone two instants are written
alike if and only if they have the same date there, which is to say that they fall on the same
day. -/
theorem longDate_eq_iff (f : Formatter) (a b : Instant) :
    (f.longDate a = f.longDate b ↔ a.dateAt f.offset = b.dateAt f.offset) ∧
      (a.dateAt f.offset = b.dateAt f.offset ↔
        (a.seconds + f.offset) / 86400 = (b.seconds + f.offset) / 86400) := by
  refine ⟨⟨fun h => ?_, fun h => ?_⟩, Instant.dateAt_eq_iff f.offset a b⟩
  · obtain ⟨names, hnames⟩ := f.locale.exists_find?_conventions
    obtain ⟨m, hm, rfl⟩ := MonthNames.exists_of_find? hnames
    obtain ⟨hlength, hnodup⟩ := MonthNames.length_names_and_nodup m hm
    simp only [longDate, LocaleTag.longDate, LocaleTag.monthNames, hnames, Option.getD_some] at h
    exact f.locale.showsDate_longDatePattern.eq_of_agrees
      (f.locale.readable_longDatePattern.agrees hlength hnodup h)
  · rw [longDate, longDate, h]

end Formatter
end TimeMarkup
