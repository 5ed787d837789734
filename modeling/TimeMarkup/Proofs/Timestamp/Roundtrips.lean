import TimeMarkup.Proofs.Timestamp.Refusals

/-!
# Reading an instant as it has been written

The formats are tried one after the other. Each text that an instant is written as is refused by the
formats in front of its own: they miss four digits of a year, a zone, a mark or seconds, or find a
digit where a blank should be. Its own format takes it field by field and finds the instant again.
-/

namespace TimeMarkup.Timestamp
open Text (padded StartsSolid EndsDigits endsDigits_cons isDigit_of_mem_padded readNumber)

section Formats
variable (d : Date) (t : TimeOfDay)

theorem internet?_text {minutes : Int} {mark : Char} {nanos : Nat} {fraction zone : List Char}
    (hyear : d.HasShortYear) (hmark : mark ∈ ['T', 't', ' ']) (hnanos : nanos < 1000000000)
    (hfraction : WritesFraction nanos fraction) (hzone : WritesZone minutes zone) :
    internet? (d.text ++ mark :: t.secondText ++ fraction ++ zone) =
      finish d.year d.month d.day t.hour t.minute t.second nanos (60 * minutes) [] := by
  have hfraction' := fraction_written hfraction hnanos hzone.head.1 hzone.head.2
  rw [List.append_assoc, List.append_assoc, internet?_date hyear]
  simp only [internetTime?, TimeOfDay.secondText, TimeOfDay.minuteText, List.append_assoc,
    List.cons_append, dateTimeMark_cons hmark, readNumber_hour, char_cons_self, readNumber_minute,
    readNumber_second, hfraction', numericOffset_written hzone, hzone.isOffset, Option.bind_eq_bind,
    Option.bind_some, if_true]

theorem mail?_text {minutes : Int} {named day second zone : List Char} (hyear : d.HasShortYear)
    (hnamed : WritesWeekday d named) (hday : WritesDay d day) (hsecond : WritesSecond t second)
    (hzone : WritesOffset [] minutes zone) :
    mail? (named ++ day ++ ' ' :: monthText d ++ ' ' :: padded 4 d.year.natAbs ++
        ' ' :: t.minuteText ++ second ++ ' ' :: zone) =
      finish d.year d.month d.day t.hour t.minute t.second 0 (60 * minutes) [] := by
  have hspace (cs : List Char) : EndsDigits (' ' :: cs) := endsDigits_cons (by decide)
  obtain ⟨n, rest, hweekday, hn, hday'⟩ :=
    weekday_written hnamed hday (hspace (monthText d ++ ' ' :: (padded 4 d.year.natAbs ++
      ' ' :: (padded 2 t.hour ++ ':' :: (padded 2 t.minute ++ (second ++ ' ' :: zone))))))
  have hyear' (cs : List Char) := mailYear_shortYear hyear (hspace cs)
  have hblanks {cs : List Char} (h : StartsSolid cs) (cs' : List Char) :=
    blanks_space (h.append cs')
  have hmonthBlanks := hblanks (startsSolid_monthText d)
  have hyearBlanks := hblanks (Text.startsSolid_padded (by decide : 0 < 4) d.year.natAbs)
  have hhourBlanks := hblanks (Text.startsSolid_padded (by decide : 0 < 2) t.hour)
  have hcolon (cs : List Char) : char ':' (Text.trimLeft (':' :: cs)) = some cs := by
    rw [Text.trimLeft_cons_other (by decide), char_cons_self]
  have hminute (cs : List Char) : readNumber 2 2 (Text.trimLeft (padded 2 t.minute ++ cs)) = some
      (t.minute, cs) := by
    rw [((Text.startsSolid_padded (by decide) t.minute).append cs).trimLeft_eq, readNumber_minute]
  have hmonth : d.month - 1 + 1 = d.month := Nat.sub_add_cancel d.month_mem.1
  have hcomments : comments [] = [] := by rw [comments]; rfl
  have habs : ((d.year.natAbs : Nat) : Int) = d.year := Int.natAbs_of_nonneg hyear.1
  simp only [TimeOfDay.minuteText, List.append_assoc, List.cons_append]
  refine (taken hweekday _).trans ?_
  refine (taken hday' _).trans ?_
  refine (taken (hmonthBlanks _) _).trans ?_
  refine (taken (shortName_monthText d _) _).trans ?_
  refine (taken (hyearBlanks _) _).trans ?_
  refine (taken (hyear' _) _).trans ?_
  refine (taken (hhourBlanks _) _).trans ?_
  refine (taken (readNumber_hour t _) _).trans ?_
  refine (taken (hcolon _) _).trans ?_
  refine (taken (hminute _) _).trans ?_
  refine (taken (mailSecond_written hsecond hzone) _).trans ?_
  refine (taken (blanks_space hzone.startsSolid) _).trans ?_
  refine (taken (mailOffset_written hzone) _).trans ?_
  simp only [hmonth, habs, Date.of?_self, hn, hzone.isOffset, Option.bind_eq_bind, Option.bind_some,
    Bool.and_self, if_true, hcomments]

variable (separator : Separator)

theorem plain?_secondText {nanos : Nat} {fraction : List Char} (hnanos : nanos < 1000000000)
    (hfraction : WritesFraction nanos fraction) :
    plain? separator .seconds (d.text ++ (separator.mark :: t.secondText ++ fraction)) =
      finish d.year d.month d.day t.hour t.minute t.second nanos 0 [] := by
  have hhour (cs : List Char) := separator_take_mark separator (startsSolid_hour t cs)
  simp only [plain?, Precision.take, TimeOfDay.secondText, TimeOfDay.minuteText, List.append_assoc,
    List.cons_append, plainDate_text, hhour, plainField_hour, char_cons_self, plainField_minute,
    plainField_second, fraction_written_last hfraction hnanos, Option.bind_eq_bind,
    Option.bind_some]

theorem plain?_minuteText :
    plain? separator .minutes (d.text ++ separator.mark :: t.minuteText) =
      finish d.year d.month d.day t.hour t.minute 0 0 0 [] := by
  have hhour (cs : List Char) := separator_take_mark separator (startsSolid_hour t cs)
  simp only [plain?, Precision.take, TimeOfDay.minuteText, plainDate_text, hhour, plainField_hour,
    char_cons_self, plainField_last_minute, Option.bind_eq_bind, Option.bind_some]

theorem dateOnly?_text : dateOnly? d.text = finish d.year d.month d.day 0 0 0 0 0 [] := by
  simp only [dateOnly?, plainDate_last_text, Option.bind_eq_bind, Option.bind_some]

end Formats

section First
variable {d : Date} {t : TimeOfDay} {i : Instant}

theorem findSome?_internet {minutes : Int} {mark : Char} {nanos : Nat} {fraction zone : List Char}
    (hyear : d.HasShortYear) (hmark : mark ∈ ['T', 't', ' ']) (hnanos : nanos < 1000000000)
    (hfraction : WritesFraction nanos fraction) (hzone : WritesZone minutes zone)
    (hfinish : finish d.year d.month d.day t.hour t.minute t.second nanos (60 * minutes) [] =
      some i) :
    formats.findSome? (fun format => format (d.text ++ mark :: t.secondText ++ fraction ++ zone)) =
      some i := by
  have hread := internet?_text d t hyear hmark hnanos hfraction hzone
  rw [hfinish] at hread
  simp only [formats, List.findSome?_cons, hread]

theorem findSome?_mail {minutes : Int} {named day second zone : List Char} (hyear : d.HasShortYear)
    (hnamed : WritesWeekday d named) (hday : WritesDay d day) (hsecond : WritesSecond t second)
    (hzone : WritesOffset [] minutes zone)
    (hfinish : finish d.year d.month d.day t.hour t.minute t.second 0 (60 * minutes) [] = some i) :
    formats.findSome? (fun format =>
      format (named ++ day ++ ' ' :: monthText d ++ ' ' :: padded 4 d.year.natAbs ++
      ' ' :: t.minuteText ++ second ++ ' ' :: zone)) = some i := by
  have hread := mail?_text d t hyear hnamed hday hsecond hzone
  rw [hfinish] at hread
  have hinternet := internet?_mail hnamed hday
  simp only [List.append_assoc, List.cons_append] at hread ⊢
  simp only [formats, List.findSome?_cons, hinternet, hread]

variable {separator : Separator}

theorem findSome?_secondText {nanos : Nat} {fraction : List Char} (hnanos : nanos < 1000000000)
    (hfraction : WritesFraction nanos fraction)
    (hfinish : finish d.year d.month d.day t.hour t.minute t.second nanos 0 [] = some i) :
    formats.findSome? (fun format =>
      format (d.text ++ (separator.mark :: t.secondText ++ fraction))) = some i := by
  have hinternet := internet?_secondText d t separator hnanos hfraction
  have hmail := mail?_dateText d (separator.mark :: t.secondText ++ fraction)
  have hread := plain?_secondText d t separator hnanos hfraction
  rw [hfinish] at hread
  cases separator with
  | letterT => simp only [formats, List.findSome?_cons, hinternet, hmail, hread]
  | space =>
    have hmark :=
      plain?_other_mark d .space .letterT (by decide) .seconds (t.secondText ++ fraction)
    rw [← List.cons_append] at hmark
    simp only [formats, List.findSome?_cons, hinternet, hmail, hmark, hread]

theorem findSome?_minuteText
    (hfinish : finish d.year d.month d.day t.hour t.minute 0 0 0 [] = some i) :
    formats.findSome? (fun format => format (d.text ++ separator.mark :: t.minuteText)) =
      some i := by
  have hinternet := internet?_minuteText d t separator
  have hmail := mail?_dateText d (separator.mark :: t.minuteText)
  have hseconds := plain?_seconds_minuteText d t separator
  have hread := plain?_minuteText d t separator
  rw [hfinish] at hread
  cases separator with
  | letterT =>
    have hmark := plain?_other_mark d .letterT .space (by decide) .seconds t.minuteText
    simp only [formats, List.findSome?_cons, hinternet, hmail, hseconds, hmark, hread]
  | space =>
    have hmark := plain?_other_mark d .space .letterT (by decide)
    simp only [formats, List.findSome?_cons, hinternet, hmail, hmark, hseconds, hread]

theorem findSome?_dateText (hfinish : finish d.year d.month d.day 0 0 0 0 0 [] = some i) :
    formats.findSome? (fun format => format d.text) = some i := by
  have hmail := mail?_dateText d []
  rw [List.append_nil] at hmail
  have hread := dateOnly?_text d
  rw [hfinish] at hread
  simp only [formats, List.findSome?_cons, internet?_dateText, hmail, plain?_dateText, hread]

end First

section Instants
variable {i : Instant} (hi : i.IsRepresentable)
include hi

theorem finish_dateAt_timeAt {minutes : Int}
    (hday : Instant.hasDay (i.dateAt (60 * minutes)).dayNumber = true) :
    let d := i.dateAt (60 * minutes)
    let t := i.timeAt (60 * minutes)
    finish d.year d.month d.day t.hour t.minute t.second (i.nanos % 1000000000) (60 * minutes) [] =
      some i := by
  have htime := TimeOfDay.of?_self (i.timeAt (60 * minutes))
  rw [Instant.nanos_timeAt] at htime
  simp only [finish, Date.of?_self, htime, Option.bind_eq_bind, Option.bind_some]
  exact Instant.of?_dateAt_timeAt hi minutes hday

theorem finish_utc :
    finish (i.dateAt 0).year (i.dateAt 0).month (i.dateAt 0).day (i.timeAt 0).hour
      (i.timeAt 0).minute (i.timeAt 0).second (i.nanos % 1000000000) 0 [] = some i := by
  have hday : Instant.hasDay (i.dateAt (60 * 0)).dayNumber = true := by
    rw [Instant.dateAt, Date.dayNumber_ofDayNumber, Int.mul_zero, Int.add_zero]
    exact hi.1
  have hfinish := finish_dateAt_timeAt hi hday
  rwa [Int.mul_zero] at hfinish

end Instants

theorem findSome?_of_writes {i : Instant} (hi : i.IsRepresentable) {text : List Char}
    (h : Writes i text) :
    formats.findSome? (fun format => format text) = some i := by
  have hnanos : i.nanos % 1000000000 < 1000000000 := Nat.mod_lt _ (by decide)
  cases h with
  | internet hyear hmark hfraction hzone =>
    have hfinish := finish_dateAt_timeAt hi (Date.hasDay_of_year hyear.1 hyear.2)
    exact findSome?_internet hyear hmark hnanos hfraction hzone hfinish
  | mail hyear hwhole hweekday hday hsecond hzone =>
    have hfinish := finish_dateAt_timeAt hi (Date.hasDay_of_year hyear.1 hyear.2)
    rw [hwhole] at hfinish
    exact findSome?_mail hyear hweekday hday hsecond hzone hfinish
  | plainSeconds hfraction =>
    rw [List.append_assoc]
    exact findSome?_secondText hnanos hfraction (finish_utc hi)
  | plainMinutes hsecond hzero =>
    have hfinish := finish_utc hi
    rw [hsecond, hzero] at hfinish
    exact findSome?_minuteText hfinish
  | dateOnly hmidnight hzero =>
    have hclock : (i.timeAt 0).hour = 0 ∧ (i.timeAt 0).minute = 0 ∧ (i.timeAt 0).second = 0 := by
      simp only [Instant.secondOfDay] at hmidnight
      simp [Instant.timeAt, Instant.isLeap, hmidnight, hzero]
    have hfinish := finish_utc hi
    rw [hclock.1, hclock.2.1, hclock.2.2, hzero] at hfinish
    exact findSome?_dateText hfinish

theorem read?_among_blanks {i : Instant} (hi : i.IsRepresentable) {text before after : List Char}
    (h : Writes i text) (hbefore : ∀ c ∈ before, isBlank c = true)
    (hafter : ∀ c ∈ after, isBlank c = true) :
    read? (before ++ text ++ after) = some i := by
  rw [read?, Text.trim_among_blanks hbefore hafter h.startsSolid h.endsSolid]
  exact findSome?_of_writes hi h

/-- The middle of a leap second, which falls into the next year in Nepal. -/
def leapInstant : Instant := ⟨1483228799, 1500000000⟩

theorem writes_leapInstant : Writes leapInstant "2017-01-01T05:44:60.5+05:45".toList := by
  have htext :
      (leapInstant.dateAt (60 * 345)).text ++ 'T' :: (leapInstant.timeAt (60 * 345)).secondText ++
      '.' :: padded 1 (500000000 / Nat.pow 10 (9 - 1)) ++
      ('+' :: padded 2 (345 / 60) ++ [':'] ++ padded 2 (345 % 60)) =
      "2017-01-01T05:44:60.5+05:45".toList := by decide
  have hfraction : WritesFraction (leapInstant.nanos % 1000000000)
      ('.' :: padded 1 (500000000 / Nat.pow 10 (9 - 1))) :=
    .digits (by decide) (by decide)
  rw [← htext]
  exact .internet ⟨by decide, by decide⟩ (by decide) hfraction (.offset (.east (by decide)))

theorem read?_leapInstant :
    leapInstant.IsRepresentable ∧ read? ([' '] ++ "2017-01-01T05:44:60.5+05:45".toList ++ ['\n']) =
      some leapInstant :=
  ⟨by decide, read?_among_blanks (by decide) writes_leapInstant
    (fun c hc => List.mem_singleton.mp hc ▸ rfl) (fun c hc => List.mem_singleton.mp hc ▸ rfl)⟩

end TimeMarkup.Timestamp
