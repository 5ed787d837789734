import TimeMarkup.Proofs.Timestamp.Readers

/-!
# Texts that a format refuses

A text that is written in one format is none of the formats tried before it. An internet timestamp
has four digits of a year, seconds and a zone; a mail header has a blank after its first number; a
plain timestamp has its own mark between date and time, and seconds if it asks for them.
-/

namespace TimeMarkup
open Text (padded StartsSolid EndsDigits endsDigits_cons isDigit_of_mem_padded)

namespace Timestamp

theorem internet?_of_head {c : Char} (h : c.isDigit = false) (cs : List Char) :
    internet? (c :: cs) = none := by
  simp only [internet?, Text.readNumber_eq_none_of_head (by decide : 0 < 4) h, Option.bind_eq_bind,
    Option.bind_none]

theorem internet?_mail {d : Date} {named day : List Char} (hnamed : WritesWeekday d named)
    (hday : WritesDay d day) (rest : List Char) :
    internet? (named ++ (day ++ ' ' :: rest)) = none := by
  cases hnamed with
  | absent =>
    obtain ⟨width, hwidth, rfl⟩ := hday.eq_padded
    have hlength : (padded width d.day).length ≤ 2 :=
      Text.length_padded_le (by decide) (by omega) d.day_lt
    have hdigits (c : Char) (hc : c ∈ padded width d.day) : c.isDigit = true :=
      isDigit_of_mem_padded hc
    have hspace : EndsDigits (' ' :: rest) := endsDigits_cons (by decide)
    have hread := Text.readNumber_eq_none 4 4 hdigits (by omega) (by omega) hspace
    simp only [internet?, List.nil_append, hread, Option.bind_eq_bind, Option.bind_none]
  | named =>
    have hall : ∀ n < 7, (weekdayTexts.getD n "").toList.head?.any (fun c => !c.isDigit) = true :=
      by decide
    have hletter := hall d.weekday d.weekday_lt
    rw [List.append_assoc]
    cases hcons : weekdayText d with
    | nil => rw [weekdayText] at hcons; rw [hcons] at hletter; cases hletter
    | cons c cs =>
      rw [weekdayText] at hcons
      rw [hcons] at hletter
      exact internet?_of_head (by simpa using hletter) _

section Plain
variable {d : Date}

theorem internet?_of_signed (h : ¬d.HasShortYear) (rest : List Char) :
    internet? (d.text ++ rest) = none := by
  simp only [Date.text, Date.yearText]
  split
  · exact internet?_of_head (by decide) _
  · split
    · exact internet?_of_head (by decide) _
    · exact absurd ⟨by omega, by omega⟩ h

theorem internet?_of_time {rest : List Char} (h : internetTime? d rest = none) :
    internet? (d.text ++ rest) = none := by
  by_cases hyear : d.HasShortYear
  · rw [internet?_date hyear, h]
  · exact internet?_of_signed hyear rest

variable (d) (t : TimeOfDay) (separator : Separator)

theorem internet?_secondText {nanos : Nat} {fraction : List Char} (hnanos : nanos < 1000000000)
    (hfraction : WritesFraction nanos fraction) :
    internet? (d.text ++ (separator.mark :: t.secondText ++ fraction)) = none := by
  have hzone : numericOffset [] = none := rfl
  apply internet?_of_time
  simp only [internetTime?, TimeOfDay.secondText, TimeOfDay.minuteText, List.append_assoc,
    List.cons_append, dateTimeMark_mark, readNumber_hour, char_cons_self, readNumber_minute,
    readNumber_second, fraction_written_last hfraction hnanos, hzone, Option.bind_eq_bind,
    Option.bind_some, Option.bind_none]

theorem internet?_minuteText : internet? (d.text ++ separator.mark :: t.minuteText) = none := by
  have hminute := readNumber_minute t []
  rw [List.append_nil] at hminute
  have hsecond : char ':' [] = none := rfl
  apply internet?_of_time
  simp only [internetTime?, TimeOfDay.minuteText, dateTimeMark_mark, readNumber_hour,
    char_cons_self, hminute, hsecond, Option.bind_eq_bind, Option.bind_some, Option.bind_none]

theorem internet?_dateText : internet? d.text = none := by
  have h : internetTime? d [] = none := rfl
  simpa using internet?_of_time h

theorem mail?_of_head {c : Char} (h : c.isDigit = false) (hsolid : isBlank c = false)
    (hletter : c.isAlpha = false) (cs : List Char) : mail? (c :: cs) = none := by
  have hweekday : weekday (Text.trimLeft (c :: cs)) = some (none, c :: cs) := by
    rw [Text.trimLeft_cons_other hsolid, weekday_of_not_isAlpha hletter]
  have hday : Text.readNumber 1 2 (Text.trimLeft (c :: cs)) = none := by
    rw [Text.trimLeft_cons_other hsolid, Text.readNumber_eq_none_of_head (by decide : 0 < 1) h]
  exact (taken hweekday _).trans (missing hday _)

/-- A mail header has a blank after at most two digits. -/
theorem mail?_of_three_digits {a b c : Char} (ha : a.isDigit = true) (hb : b.isDigit = true)
    (hc : c.isDigit = true) (cs : List Char) : mail? (a :: b :: c :: cs) = none := by
  have hall : ∀ e ∈ [a, b], e.isDigit = true := by simp [ha, hb]
  have hnext : [a, b].length = 2 ∨ EndsDigits (c :: cs) := .inl rfl
  have hread := Text.readNumber_append 1 2 hall (Nat.le_add_left 1 1) (Nat.le_refl 2) hnext
  have hblank : blanks (c :: cs) = none := by rw [blanks, if_neg (by simp [isDigit_not_isBlank hc])]
  have htrim : Text.trimLeft (a :: b :: c :: cs) = a :: b :: c :: cs :=
    Text.trimLeft_cons_other (isDigit_not_isBlank ha)
  have hweekday : weekday (Text.trimLeft (a :: b :: c :: cs)) = some (none, a :: b :: c :: cs) := by
    rw [htrim, weekday_of_not_isAlpha (not_isAlpha_of_isDigit ha)]
  rw [List.cons_append, List.cons_append, List.nil_append, ← htrim] at hread
  exact (taken hweekday _).trans ((taken hread _).trans (missing hblank _))

theorem mail?_dateText (rest : List Char) : mail? (d.text ++ rest) = none := by
  simp only [Date.text, Date.yearText]
  split
  · exact mail?_of_head (by decide) (by decide) (by decide) _
  · split
    · exact mail?_of_head (by decide) (by decide) (by decide) _
    · have hlength := Text.le_length_padded 4 d.year.natAbs
      have hdigits (c : Char) (hc : c ∈ padded 4 d.year.natAbs) : c.isDigit = true :=
        isDigit_of_mem_padded hc
      generalize padded 4 d.year.natAbs = year at hlength hdigits ⊢
      rcases year with _ | ⟨a, _ | ⟨b, _ | ⟨c, cs⟩⟩⟩
      · simp at hlength
      · simp at hlength
      · simp at hlength
      · exact mail?_of_three_digits (hdigits a (by simp)) (hdigits b (by simp))
          (hdigits c (by simp)) _

theorem plain?_dateText (precision : Precision) : plain? separator precision d.text = none := by
  simp only [plain?, plainDate_last_text, Option.bind_eq_bind, Option.bind_some]
  cases separator <;> rfl

theorem plain?_other_mark (separator' : Separator) (h : separator' ≠ separator)
    (precision : Precision) (rest : List Char) :
    plain? separator' precision (d.text ++ separator.mark :: rest) = none := by
  simp only [plain?, plainDate_text, Option.bind_eq_bind, Option.bind_some]
  cases separator' with
  | letterT =>
    cases separator with
    | letterT => exact absurd rfl h
    | space => rfl
  | space =>
    cases separator with
    | letterT => rfl
    | space => exact absurd rfl h

theorem plain?_seconds_minuteText :
    plain? separator .seconds (d.text ++ separator.mark :: t.minuteText) = none := by
  have hhour (cs : List Char) := separator_take_mark separator (startsSolid_hour t cs)
  have hsecond : char ':' [] = none := rfl
  simp only [plain?, Precision.take, TimeOfDay.minuteText, plainDate_text, hhour, plainField_hour,
    char_cons_self, plainField_last_minute, hsecond, Option.bind_eq_bind, Option.bind_some,
    Option.bind_none]

end Plain
end Timestamp
end TimeMarkup
