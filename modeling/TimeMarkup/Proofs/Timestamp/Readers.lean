import TimeMarkup.Proofs.Timestamp.Renderings
import TimeMarkup.Timestamp.Reading

/-!
# Readers on fields that have been written

Each field reader takes a written field from the front of a text and leaves what follows, whatever
that is. Where a reader looks one character further, the text has to go on with something that the
field cannot.
-/

namespace TimeMarkup
open Text (padded StartsSolid EndsDigits endsDigits_cons isDigit_of_mem_padded readNumber)

theorem Date.month_lt (d : Date) : d.month < 100 :=
  Nat.lt_of_le_of_lt d.month_mem.2 (by decide)

theorem Date.day_lt (d : Date) : d.day < 100 := by
  have hall : ∀ leap, ∀ m < 13, Calendar.daysIn leap m ≤ 31 := by decide
  have hmonth := hall (Calendar.isLeap d.year) d.month (Nat.lt_succ_of_le d.month_mem.2)
  have hday := d.day_mem.2
  omega

namespace Timestamp

/-- A reader goes on with what its next field leaves. -/
theorem taken {α β : Type} {o : Option α} {a : α} (h : o = some a) (f : α → Option β) :
    o >>= f = f a := by
  rw [h]
  rfl

theorem missing {α β : Type} {o : Option α} (h : o = none) (f : α → Option β) : o >>= f = none := by
  rw [h]
  rfl

theorem nanosecond_padded {nanos width : Nat} (hwidth : 1 ≤ width ∧ width ≤ 9)
    (hnanos : nanos < 1000000000) (henough : nanos % Nat.pow 10 (9 - width) = 0) {rest : List Char}
    (hrest : EndsDigits rest) :
    nanosecond (padded width (nanos / Nat.pow 10 (9 - width)) ++ rest) = some (nanos, rest) := by
  have hpow : Nat.pow 10 (9 - width) * Nat.pow 10 width = 1000000000 := by
    have h := Nat.pow_add 10 (9 - width) width
    rw [Nat.sub_add_cancel hwidth.2] at h
    exact h.symm
  have hlt : nanos / Nat.pow 10 (9 - width) < Nat.pow 10 width :=
    Nat.div_lt_of_lt_mul (by rw [hpow]; exact hnanos)
  have hlength := Text.length_padded hwidth.1 hlt
  have hread := Text.readNumber_append 1 9 (fun _ hc => isDigit_of_mem_padded hc)
    (hlength.symm ▸ hwidth.1) (hlength.symm ▸ hwidth.2) (.inr hrest)
  have hdrop : rest.dropWhile Char.isDigit = rest := by
    cases rest with
    | nil => rfl
    | cons c rest => exact List.dropWhile_cons_of_neg (by simp [hrest c rfl])
  simp only [nanosecond, hread, Text.decimal_padded, Option.map_some, List.length_append,
    Nat.add_sub_cancel, hlength, hdrop, Nat.div_mul_cancel (Nat.dvd_of_mod_eq_zero henough)]

theorem fraction_written {nanos : Nat} {cs rest : List Char} (h : WritesFraction nanos cs)
    (hnanos : nanos < 1000000000) (hrest : EndsDigits rest) (hpoint : ∀ c ∈ rest.head?, c ≠ '.') :
    fraction (cs ++ rest) = some (nanos, rest) := by
  cases h with
  | absent hzero =>
    subst hzero
    rw [List.nil_append]
    unfold fraction
    split
    · exact absurd rfl (hpoint '.' rfl)
    · rfl
  | digits hwidth henough => exact nanosecond_padded hwidth hnanos henough hrest

theorem fraction_written_last {nanos : Nat} {cs : List Char} (h : WritesFraction nanos cs)
    (hnanos : nanos < 1000000000) :
    fraction cs = some (nanos, []) := by
  have hread := fraction_written h hnanos Text.endsDigits_nil nofun
  rwa [List.append_nil] at hread

theorem plainField_padded {n : Nat} (hn : n < 100) (rest : List Char) :
    plainField (padded 2 n ++ rest) = some (n, rest) := by
  rw [plainField, ((Text.startsSolid_padded (by decide) n).append rest).trimLeft_eq]
  exact Text.readNumber_short (.inr rfl) hn (.inl rfl)

theorem hoursMinutes_written {separator : List Char → Option (List Char)} {colon : List Char}
    (hcolon : ∀ cs, separator (colon ++ cs) = some cs) {minutes : Nat} (h : minutes < 1440) :
    hoursMinutes separator (padded 2 (minutes / 60) ++ colon ++ padded 2 (minutes % 60)) = some
      (60 * minutes, []) := by
  have hhours := Text.readNumber_padded (by decide : 0 < 2) (by change minutes / 60 < 100; omega)
    (colon ++ padded 2 (minutes % 60))
  have hminutes :=
    Text.readNumber_padded (by decide : 0 < 2) (by change minutes % 60 < 100; omega) []
  rw [List.append_nil] at hminutes
  simp only [hoursMinutes, List.append_assoc, hhours, hcolon, hminutes, Option.bind_eq_bind,
    Option.bind_some]
  rw [if_pos (by omega), Option.some.injEq, Prod.mk.injEq]
  exact ⟨by omega, rfl⟩

theorem numericOffset_written {minutes : Int} {zone : List Char} (h : WritesZone minutes zone) :
    numericOffset zone = some (60 * minutes, []) := by
  have hcolon (cs : List Char) : char ':' ([':'] ++ cs) = some cs := char_cons_self ':' cs
  cases h with
  | utc => rfl
  | offset h =>
    cases h with
    | east h =>
      rw [List.cons_append, List.cons_append, numericOffset, hoursMinutes_written hcolon h]
      rfl
    | @west n h =>
      have hminus : -((60 * n : Nat) : Int) = 60 * -(n : Int) := by omega
      rw [List.cons_append, List.cons_append, numericOffset, hoursMinutes_written hcolon h,
        ← hminus]
      rfl

theorem mailOffset_written {minutes : Int} {zone : List Char} (h : WritesOffset [] minutes zone) :
    mailOffset zone = some (60 * minutes, []) := by
  have hcolon (cs : List Char) : some ([] ++ cs) = some cs := rfl
  cases h with
  | east h =>
    rw [List.cons_append, List.cons_append, mailOffset, hoursMinutes_written hcolon h]
    rfl
  | @west n h =>
    have hminus : -((60 * n : Nat) : Int) = 60 * -(n : Int) := by omega
    rw [List.cons_append, List.cons_append, mailOffset, hoursMinutes_written hcolon h, ← hminus]
    rfl

theorem WritesOffset.isOffset {colon zone : List Char} {minutes : Int}
    (h : WritesOffset colon minutes zone) :
    isOffset (60 * minutes) = true := by
  simp only [Timestamp.isOffset, Bool.and_eq_true, decide_eq_true_eq]
  cases h <;> omega

theorem WritesZone.isOffset {zone : List Char} {minutes : Int} (h : WritesZone minutes zone) :
    isOffset (60 * minutes) = true := by
  cases h with
  | utc => rfl
  | offset h => exact h.isOffset

theorem yearText_of_short {d : Date} (h : d.HasShortYear) :
    Date.yearText d.year = padded 4 d.year.natAbs := by
  rw [Date.yearText, if_neg (Int.not_lt.mpr h.1), if_neg (Int.not_lt.mpr h.2)]

theorem readNumber_shortYear {d : Date} (h : d.HasShortYear) (rest : List Char) :
    readNumber 4 4 (padded 4 d.year.natAbs ++ rest) = some (d.year.natAbs, rest) := by
  obtain ⟨hle, hle'⟩ := h
  exact Text.readNumber_padded (by decide) (by change _ < 10000; omega) rest

/-- A year is read up to the hyphen that follows it. -/
theorem plainYear_yearText (year : Int) (rest : List Char) :
    plainYear (Date.yearText year ++ '-' :: rest) = some (year, '-' :: rest) := by
  have hrest : EndsDigits ('-' :: rest) := endsDigits_cons (by decide)
  have hdigits (c : Char) (hc : c ∈ padded 4 year.natAbs) : c.isDigit = true :=
    isDigit_of_mem_padded hc
  have hsigned := Text.readDigits_padded (by decide : 1 ≤ 4) year.natAbs hrest
  simp only [Date.yearText]
  split
  · have hneg : -(year.natAbs : Int) = year := by omega
    rw [plainYear, List.cons_append, Text.trimLeft_cons_other (by decide)]
    simp only [hsigned, Option.map_some, hneg]
  · have hpos : (year.natAbs : Int) = year := by omega
    split
    · rw [plainYear, List.cons_append, Text.trimLeft_cons_other (by decide)]
      simp only [hsigned, Option.map_some, hpos]
    · have hshort : (padded 4 year.natAbs).length = 4 :=
        Text.length_padded (by decide) (by change _ < 10000; omega)
      have hread := Text.readNumber_append 1 4 hdigits (by omega) (by omega) (.inr hrest)
      rw [Text.decimal_padded] at hread
      obtain ⟨c, cs, hcons⟩ :=
        List.exists_cons_of_ne_nil (Text.padded_ne_nil (by decide : 0 < 4) year.natAbs)
      have hc := hdigits c (hcons ▸ List.mem_cons_self)
      rw [hcons, List.cons_append] at hread ⊢
      rw [plainYear, Text.trimLeft_cons_other (isDigit_not_isBlank hc)]
      split
      · simp_all
      · simp_all
      · simp only [hread, Option.map_some, hpos]

theorem plainDate_text (d : Date) (rest : List Char) :
    plainDate (d.text ++ rest) = some (d.year, d.month, d.day, rest) := by
  simp only [plainDate, Date.text, List.append_assoc, List.cons_append, plainYear_yearText,
    char_cons_self, plainField_padded d.month_lt, plainField_padded d.day_lt, Option.bind_eq_bind,
    Option.bind_some]

theorem plainDate_last_text (d : Date) : plainDate d.text = some (d.year, d.month, d.day, []) := by
  have hread := plainDate_text d []
  rwa [List.append_nil] at hread

/-- Readers of names know the capitalised names too. -/
theorem shortName_append {names : List String} {name : List Char} {n : Nat}
    (hlength : name.length = 3)
    (hplace : names.findIdx? (fun known => known.toList = name.map Char.toLower) = some n)
    (rest : List Char) :
    shortName names (name ++ rest) = some (n, rest) := by
  rw [shortName, ← hlength, List.take_left, List.drop_left, hplace, Option.map_some]

theorem toLower_of_not_isAlpha {c : Char} (h : c.isAlpha = false) : c.toLower = c :=
  dif_neg (of_decide_eq_false (Bool.or_eq_false_iff.mp h).1)

/-- The digits come before the letters of either case. -/
theorem not_isAlpha_of_isDigit {c : Char} (h : c.isDigit = true) : c.isAlpha = false := by
  have hdigit : c.val.toNat ≤ 57 :=
    UInt32.le_iff_toNat_le.mp (of_decide_eq_true ((Bool.and_eq_true _ _).mp h).2)
  refine Bool.or_eq_false_iff.mpr ⟨decide_eq_false ?_,
    Bool.and_eq_false_iff.mpr (.inl (decide_eq_false ?_))⟩
  · rintro ⟨hupper, -⟩
    have hletter : 65 ≤ c.val.toNat := UInt32.le_iff_toNat_le.mp hupper
    omega
  · intro hlower
    have hletter : 97 ≤ c.val.toNat := UInt32.le_iff_toNat_le.mp hlower
    omega

theorem shortName_eq_none {c : Char} (h : c.isAlpha = false) (cs : List Char) :
    shortName weekdayNames (c :: cs) = none := by
  have hletters : ∀ name ∈ weekdayNames, name.toList.head?.any Char.isAlpha = true := by decide
  rw [shortName, List.findIdx?_eq_none_iff.mpr, Option.map_none]
  intro name hname
  refine decide_eq_false fun heq => ?_
  have hletter := hletters name hname
  rw [heq, List.take_succ_cons, List.map_cons, List.head?_cons, toLower_of_not_isAlpha h] at hletter
  exact absurd hletter (by simp [h])

theorem weekday_of_not_isAlpha {c : Char} (h : c.isAlpha = false) (cs : List Char) :
    weekday (c :: cs) = some (none, c :: cs) := by
  rw [weekday, shortName_eq_none h]

theorem weekday_weekdayText (d : Date) (rest : List Char) :
    weekday (weekdayText d ++ ',' :: rest) = some (some d.weekday, rest) := by
  have hknown : ∀ n < 7, (weekdayTexts.getD n "").toList.length = 3 ∧
      weekdayNames.findIdx? (fun known =>
        known.toList = (weekdayTexts.getD n "").toList.map Char.toLower) = some n := by
    decide
  obtain ⟨hlength, hplace⟩ := hknown d.weekday d.weekday_lt
  rw [weekday, weekdayText, shortName_append hlength hplace]
  simp only [char_cons_self, Option.map_some]

theorem shortName_monthText (d : Date) (rest : List Char) :
    shortName monthNames (monthText d ++ rest) = some (d.month - 1, rest) := by
  have hknown : ∀ n < 12, (monthTexts.getD n "").toList.length = 3 ∧
      monthNames.findIdx? (fun known =>
        known.toList = (monthTexts.getD n "").toList.map Char.toLower) = some n := by
    decide
  have hmonth := d.month_mem
  obtain ⟨hlength, hplace⟩ := hknown (d.month - 1) (by omega)
  exact shortName_append hlength hplace rest

theorem startsSolid_monthText (d : Date) : StartsSolid (monthText d) := by
  have hall : ∀ n < 12, StartsSolid (monthTexts.getD n "").toList := by decide
  have hmonth := d.month_mem
  exact hall (d.month - 1) (by omega)

theorem mailYear_shortYear {d : Date} (h : d.HasShortYear) {rest : List Char}
    (hrest : EndsDigits rest) :
    mailYear (padded 4 d.year.natAbs ++ rest) = some (d.year.natAbs, rest) := by
  have hlength : (padded 4 d.year.natAbs).length = 4 := by
    obtain ⟨hle, hle'⟩ := h
    exact Text.length_padded (by decide) (by change _ < 10000; omega)
  rw [mailYear, Text.readDigits_padded (by decide) _ hrest, hlength]
  rfl

theorem blanks_space {cs : List Char} (h : StartsSolid cs) : blanks (' ' :: cs) = some cs := by
  rw [blanks, if_pos (by decide), h.trimLeft_eq]

theorem WritesOffset.startsSolid {colon zone : List Char} {minutes : Int}
    (h : WritesOffset colon minutes zone) :
    StartsSolid zone := by
  cases h with
  | east h => exact Text.startsSolid_cons (by decide) _
  | west h => exact Text.startsSolid_cons (by decide) _

theorem mailSecond_written {t : TimeOfDay} {cs zone : List Char} {minutes : Int}
    (h : WritesSecond t cs) (hzone : WritesOffset [] minutes zone) :
    mailSecond (cs ++ ' ' :: zone) = some (t.second, ' ' :: zone) := by
  cases h with
  | absent hsecond =>
    have hsign : char ':' zone = none := by cases hzone <;> rfl
    rw [List.nil_append, mailSecond, Text.trimLeft_cons_blank (by decide),
      hzone.startsSolid.trimLeft_eq, hsign, hsecond]
  | present =>
    have hsecond := t.second_le
    rw [List.cons_append, mailSecond, Text.trimLeft_cons_other (by decide), char_cons_self]
    exact Text.readNumber_padded (by decide) (by change _ < 100; omega) _

theorem WritesDay.eq_padded {d : Date} {cs : List Char} (h : WritesDay d cs) :
    ∃ width, (width = 1 ∨ width = 2) ∧ cs = padded width d.day := by
  cases h with
  | short => exact ⟨1, .inl rfl, rfl⟩
  | long => exact ⟨2, .inr rfl, rfl⟩

/-- After a weekday, if one is written, the day of the month is next. -/
theorem weekday_written {d : Date} {named day : List Char} (h : WritesWeekday d named)
    (hday : WritesDay d day) {rest : List Char} (hrest : EndsDigits rest) :
    ∃ n rest', weekday (Text.trimLeft (named ++ (day ++ rest))) = some (n, rest') ∧
      n.all (· = d.weekday) = true ∧ readNumber 1 2 (Text.trimLeft rest') = some (d.day, rest) := by
  obtain ⟨width, hwidth, rfl⟩ := hday.eq_padded
  have hpos : 0 < width := by omega
  have hsolid := (Text.startsSolid_padded hpos d.day).append rest
  have hread := Text.readNumber_short hwidth d.day_lt (.inr hrest)
  cases h with
  | absent =>
    obtain ⟨c, ds, hcons⟩ := List.exists_cons_of_ne_nil (Text.padded_ne_nil hpos d.day)
    have hdigit : c.isDigit = true := isDigit_of_mem_padded (hcons ▸ List.mem_cons_self)
    refine ⟨none, padded width d.day ++ rest, ?_, rfl, by rw [hsolid.trimLeft_eq, hread]⟩
    rw [List.nil_append, hsolid.trimLeft_eq, hcons]
    exact weekday_of_not_isAlpha (not_isAlpha_of_isDigit hdigit) (ds ++ rest)
  | named =>
    refine ⟨some d.weekday, ' ' :: (padded width d.day ++ rest), ?_, by simp, ?_⟩
    · rw [List.append_assoc, ((startsSolid_weekdayText d).append _).trimLeft_eq]
      exact weekday_weekdayText d _
    · rw [Text.trimLeft_cons_blank (by decide), hsolid.trimLeft_eq, hread]

section Fields
variable (t : TimeOfDay) (rest : List Char)

theorem readNumber_hour : readNumber 2 2 (padded 2 t.hour ++ rest) = some (t.hour, rest) :=
  Text.readNumber_padded (by decide) (Nat.lt_of_le_of_lt t.hour_le (by decide)) rest

theorem readNumber_minute : readNumber 2 2 (padded 2 t.minute ++ rest) = some (t.minute, rest) :=
  Text.readNumber_padded (by decide) (Nat.lt_of_le_of_lt t.minute_le (by decide)) rest

theorem readNumber_second : readNumber 2 2 (padded 2 t.second ++ rest) = some (t.second, rest) :=
  Text.readNumber_padded (by decide) (Nat.lt_of_le_of_lt t.second_le (by decide)) rest

theorem plainField_hour : plainField (padded 2 t.hour ++ rest) = some (t.hour, rest) :=
  plainField_padded (Nat.lt_of_le_of_lt t.hour_le (by decide)) rest

theorem plainField_minute : plainField (padded 2 t.minute ++ rest) = some (t.minute, rest) :=
  plainField_padded (Nat.lt_of_le_of_lt t.minute_le (by decide)) rest

theorem plainField_second : plainField (padded 2 t.second ++ rest) = some (t.second, rest) :=
  plainField_padded (Nat.lt_of_le_of_lt t.second_le (by decide)) rest

theorem plainField_last_minute : plainField (padded 2 t.minute) = some (t.minute, []) := by
  have hread := plainField_minute t []
  rwa [List.append_nil] at hread

theorem startsSolid_hour : StartsSolid (padded 2 t.hour ++ rest) :=
  (Text.startsSolid_padded (by decide) t.hour).append rest

end Fields

theorem WritesZone.head {minutes : Int} {zone : List Char} (h : WritesZone minutes zone) :
    EndsDigits zone ∧ ∀ c ∈ zone.head?, c ≠ '.' := by
  rcases h with _ | ⟨_ | _⟩ <;> exact ⟨endsDigits_cons (by decide), by rintro c ⟨⟩; decide⟩

theorem dateTimeMark_cons {mark : Char} (h : mark ∈ ['T', 't', ' ']) (cs : List Char) :
    dateTimeMark (mark :: cs) = some cs := by
  simp only [List.mem_cons, List.not_mem_nil, or_false] at h
  rcases h with rfl | rfl | rfl <;> rfl

theorem dateTimeMark_mark (separator : Separator) (cs : List Char) :
    dateTimeMark (separator.mark :: cs) = some cs := by
  cases separator <;> rfl

theorem separator_take_mark (separator : Separator) {cs : List Char} (h : StartsSolid cs) :
    separator.take (separator.mark :: cs) = some cs := by
  cases separator with
  | letterT => rfl
  | space =>
    rw [Separator.mark, Separator.take, Text.trimLeft_cons_blank (by decide), h.trimLeft_eq]

/-- What an internet timestamp has after its date. -/
def internetTime? (d : Date) (cs : List Char) : Option Instant := do
  let cs ← dateTimeMark cs
  let (hour, cs) ← readNumber 2 2 cs
  let cs ← char ':' cs
  let (minute, cs) ← readNumber 2 2 cs
  let cs ← char ':' cs
  let (second, cs) ← readNumber 2 2 cs
  let (nanos, cs) ← fraction cs
  let (offset, cs) ← numericOffset cs
  if isOffset offset then finish d.year d.month d.day hour minute second nanos offset cs else none

theorem internet?_date {d : Date} (h : d.HasShortYear) (rest : List Char) :
    internet? (d.text ++ rest) = internetTime? d rest := by
  have hmonth := fun rest => Text.readNumber_padded (by decide : 0 < 2) d.month_lt rest
  have hday := fun rest => Text.readNumber_padded (by decide : 0 < 2) d.day_lt rest
  have habs : ((d.year.natAbs : Nat) : Int) = d.year := Int.natAbs_of_nonneg h.1
  simp only [internet?, internetTime?, Date.text, yearText_of_short h, List.append_assoc,
    List.cons_append, readNumber_shortYear h, hmonth, hday, char_cons_self, habs,
    Option.bind_eq_bind, Option.bind_some]

end Timestamp
end TimeMarkup
