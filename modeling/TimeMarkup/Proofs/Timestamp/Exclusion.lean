import TimeMarkup.Proofs.Timestamp.Readers

/-!
# One format for each text

A text has the form of one format at most. Every format but that of mail headers starts with a plain
date, which no mail header does, and what stands behind the date tells the others apart: nothing, a
time that ends with its minutes or with its seconds, or a time with a zone behind it. So the order
in which the formats are tried does not matter.
-/

namespace TimeMarkup
open Text (EndsDigits endsDigits_cons readNumber decimal)

namespace Timestamp

theorem plainYear_of_digits {ds rest : List Char} (hds : ∀ c ∈ ds, c.isDigit = true)
    (hlo : 1 ≤ ds.length) (hhi : ds.length ≤ 4) (hrest : ds.length = 4 ∨ EndsDigits rest) :
    plainYear (ds ++ rest) = some ((decimal ds : Int), rest) := by
  have hread := Text.readNumber_append 1 4 hds hlo hhi hrest
  obtain ⟨c, cs, rfl⟩ := List.exists_cons_of_length_pos hlo
  have hc := hds c List.mem_cons_self
  rw [List.cons_append] at hread ⊢
  rw [plainYear, Text.trimLeft_cons_other (isDigit_not_isBlank hc)]
  split
  · rename_i heq
    obtain ⟨rfl, -⟩ := List.cons.inj heq
    exact absurd hc (by decide)
  · rename_i heq
    obtain ⟨rfl, -⟩ := List.cons.inj heq
    exact absurd hc (by decide)
  · rw [hread, Option.map_some]

/-- Readers of four and two digits take what the plain ones take. -/
theorem plainYear_of_readNumber {cs rest : List Char} {n : Nat}
    (h : readNumber 4 4 cs = some (n, rest)) :
    plainYear cs = some ((n : Int), rest) := by
  obtain ⟨ds, rfl, hds, hlo, hhi, rfl, -⟩ := Text.readNumber_eq_some h
  exact plainYear_of_digits hds (by omega) hhi (.inl (by omega))

theorem plainField_of_readNumber {cs rest : List Char} {n : Nat}
    (h : readNumber 2 2 cs = some (n, rest)) :
    plainField cs = some (n, rest) := by
  rw [plainField, (Text.startsSolid_of_readNumber (by decide) h).trimLeft_eq]
  obtain ⟨ds, rfl, hds, hlo, hhi, rfl, -⟩ := Text.readNumber_eq_some h
  exact Text.readNumber_append 1 2 hds (by omega) hhi (.inl (by omega))

/-- Hours, a colon and minutes. -/
def clock (cs : List Char) : Option (Nat × Nat × List Char) := do
  let (hour, cs) ← plainField cs
  let cs ← char ':' cs
  let (minute, cs) ← plainField cs
  some (hour, minute, cs)

/-- The forms of timestamps. -/
inductive Form
  | internet
  | mail
  | plain (separator : Separator) (precision : Precision)
  | dateOnly
  deriving DecidableEq

namespace Form

def read? : Form → List Char → Option Instant
  | internet => internet?
  | mail => mail?
  | plain separator precision => plain? separator precision
  | dateOnly => dateOnly?

def all : List Form :=
  [internet, mail, plain .letterT .seconds, plain .space .seconds, plain .letterT .minutes,
    plain .space .minutes, dateOnly]

theorem formats_eq : formats = all.map read? := rfl

theorem nodup_all : all.Nodup := by decide

/-- The form of a text by what stands behind its minutes. -/
def ofEnd (separator : Separator) : List Char → Form
  | [] => plain separator .minutes
  | c :: cs =>
    match Precision.seconds.take (c :: cs) with
    | some (_, _, []) => plain separator .seconds
    | _ => internet

def separatorOf (cs : List Char) : Separator :=
  if cs.head? = some 'T' then .letterT else .space

/-- The form of a text by what stands behind its date. -/
def ofTime : List Char → Form
  | [] => dateOnly
  | c :: cs =>
    match ((separatorOf (c :: cs)).take (c :: cs)).bind clock with
    | some (_, _, rest) => ofEnd (separatorOf (c :: cs)) rest
    | none => internet

/-- The only form that a text can have. -/
def of (cs : List Char) : Form :=
  match plainDate cs with
  | some (_, _, _, rest) => ofTime rest
  | none => mail

theorem of_plainDate {cs rest : List Char} {year : Int} {month day : Nat}
    (h : plainDate cs = some (year, month, day, rest)) : of cs = ofTime rest := by
  rw [of, h]

end Form

/-- What is read to its end has nothing left. -/
theorem eq_nil_of_finish {year offset : Int} {month day hour minute second nanos : Nat}
    {cs : List Char} {i : Instant}
    (h : finish year month day hour minute second nanos offset cs = some i) : cs = [] := by
  cases cs with
  | nil => rfl
  | cons c cs => simp [finish] at h

theorem form_of_dateOnly? {cs : List Char} {i : Instant} (h : dateOnly? cs = some i) :
    Form.of cs = .dateOnly := by
  simp only [dateOnly?, Option.bind_eq_bind, Option.bind_eq_some_iff, Prod.exists] at h
  obtain ⟨year, month, day, rest, hdate, hfinish⟩ := h
  rw [Form.of_plainDate hdate, eq_nil_of_finish hfinish, Form.ofTime]

theorem eq_cons_of_char {c : Char} {cs rest : List Char} (h : char c cs = some rest) :
    cs = c :: rest := by
  cases cs with
  | nil => simp [char] at h
  | cons d cs =>
    simp only [char, Option.ite_none_right_eq_some, Option.some.injEq] at h
    rw [h.1, h.2]

theorem ofTime_of_take {separator : Separator} {cs time rest : List Char} {hour minute : Nat}
    (htake : separator.take cs = some time) (hclock : clock time = some (hour, minute, rest)) :
    Form.ofTime cs = Form.ofEnd separator rest := by
  have hseparator : cs ≠ [] ∧ Form.separatorOf cs = separator := by
    cases separator with
    | letterT =>
      rw [eq_cons_of_char htake]
      exact ⟨List.cons_ne_nil _ _, rfl⟩
    | space =>
      obtain rfl := Option.some.inj htake
      constructor
      · rintro rfl
        cases hclock
      · apply if_neg
        intro hhead
        obtain ⟨cs, rfl⟩ := List.head?_eq_some_iff.mp hhead
        cases hclock
  obtain ⟨c, cs, rfl⟩ := List.exists_cons_of_ne_nil hseparator.1
  rw [Form.ofTime, hseparator.2, htake, Option.bind_some, hclock]

theorem clock_eq_some {cs hourRest minuteCs rest : List Char} {hour minute : Nat}
    (hhour : plainField cs = some (hour, hourRest)) (hcolon : char ':' hourRest = some minuteCs)
    (hminute : plainField minuteCs = some (minute, rest)) :
    clock cs = some (hour, minute, rest) := by
  simp only [clock, hhour, hcolon, hminute, Option.bind_eq_bind, Option.bind_some]

theorem form_of_plain? {separator : Separator} {precision : Precision} {cs : List Char}
    {i : Instant} (h : plain? separator precision cs = some i) :
    Form.of cs = .plain separator precision := by
  simp only [plain?, Option.bind_eq_bind, Option.bind_eq_some_iff, Prod.exists] at h
  obtain ⟨year, month, day, time, hdate, cs, htake, hour, cs₁, hhour, cs₂, hcolon, minute, rest,
    hminute, second, nanos, left, hsecond, hfinish⟩ := h
  obtain rfl := eq_nil_of_finish hfinish
  rw [Form.of_plainDate hdate, ofTime_of_take htake (clock_eq_some hhour hcolon hminute)]
  cases precision with
  | minutes =>
    simp only [Precision.take, Option.some.injEq, Prod.mk.injEq] at hsecond
    rw [hsecond.2.2, Form.ofEnd]
  | seconds =>
    cases rest with
    | nil => simp [Precision.take, char] at hsecond
    | cons c rest => rw [Form.ofEnd, hsecond]

/-- An internet timestamp has a time like a plain one, but a zone behind its seconds. -/
theorem form_of_internet? {cs : List Char} {i : Instant} (h : internet? cs = some i) :
    Form.of cs = .internet := by
  simp only [internet?, Option.bind_eq_bind, Option.bind_eq_some_iff, Prod.exists] at h
  obtain ⟨year, cs₁, hyear, cs₂, hhyphen, month, cs₃, hmonth, cs₄, hhyphen', day, time, hday,
    clockText, hmark, hour, cs₅, hhour, cs₆, hcolon, minute, rest, hminute, cs₇, hcolon', second,
    cs₈, hsecond, nanos, zone, hfraction, offset, left, hzone, -⟩ := h
  have hdate : plainDate cs = some ((year : Int), month, day, time) := by
    simp only [plainDate, plainYear_of_readNumber hyear, hhyphen, plainField_of_readNumber hmonth,
      hhyphen', plainField_of_readNumber hday, Option.bind_eq_bind, Option.bind_some]
  have hclock :=
    clock_eq_some (plainField_of_readNumber hhour) hcolon (plainField_of_readNumber hminute)
  have hend (separator : Separator) : Form.ofEnd separator rest = .internet := by
    have htake : Precision.seconds.take rest = some (second, nanos, zone) := by
      simp only [Precision.take, hcolon', plainField_of_readNumber hsecond, hfraction,
        Option.bind_eq_bind, Option.bind_some]
    obtain rfl := eq_cons_of_char hcolon'
    rw [Form.ofEnd, htake]
    cases zone with
    | nil => cases hzone
    | cons c zone => rfl
  rw [Form.of_plainDate hdate]
  unfold dateTimeMark at hmark
  split at hmark
  · rename_i time
    obtain rfl := Option.some.inj hmark
    have htake : Separator.letterT.take ('T' :: time) = some time := char_cons_self 'T' time
    rw [ofTime_of_take htake hclock, hend]
  · rfl
  · rename_i time
    obtain rfl := Option.some.inj hmark
    have hsolid : Text.StartsSolid time := Text.startsSolid_of_readNumber (by decide) hhour
    have htake : Separator.space.take (' ' :: time) = some time := separator_take_mark .space hsolid
    rw [ofTime_of_take htake hclock, hend]
  · cases hmark

theorem plainDate_trimLeft (cs : List Char) : plainDate (Text.trimLeft cs) = plainDate cs := by
  simp only [plainDate, plainYear, Text.trimLeft_trimLeft]

theorem plainYear_of_isAlpha {c : Char} {cs : List Char} (h : c.isAlpha = true)
    (hsolid : Text.trimLeft (c :: cs) = c :: cs) :
    plainYear (c :: cs) = none := by
  have hdigit : c.isDigit = false := by
    cases hdigit : c.isDigit with
    | false => rfl
    | true => exact absurd h (by simp [not_isAlpha_of_isDigit hdigit])
  rw [plainYear, hsolid]
  split
  · rename_i heq
    obtain ⟨rfl, -⟩ := List.cons.inj heq
    exact absurd h (by decide)
  · rename_i heq
    obtain ⟨rfl, -⟩ := List.cons.inj heq
    exact absurd h (by decide)
  · rw [Text.readNumber_eq_none_of_head (by decide) hdigit, Option.map_none]

theorem exists_isAlpha_of_shortName {cs rest : List Char} {n : Nat}
    (h : shortName weekdayNames cs = some (n, rest)) :
    ∃ c cs', cs = c :: cs' ∧ c.isAlpha = true := by
  cases cs with
  | nil => cases h
  | cons c cs =>
    refine ⟨c, cs, rfl, ?_⟩
    cases hc : c.isAlpha with
    | true => rfl
    | false =>
      rw [shortName_eq_none hc] at h
      cases h

/-- A mail header starts with a letter, or with at most two digits and a blank. -/
theorem plainDate_of_mail? {cs : List Char} {i : Instant} (h : mail? cs = some i) :
    plainDate cs = none := by
  rw [mail?] at h
  obtain ⟨⟨named, cs₁⟩, hweekday, h⟩ := Option.bind_eq_some_iff.mp h
  obtain ⟨⟨day, cs₂⟩, hday, h⟩ := Option.bind_eq_some_iff.mp h
  obtain ⟨cs₃, hblanks, -⟩ := Option.bind_eq_some_iff.mp h
  have hsolid := Text.trimLeft_trimLeft cs
  rw [← plainDate_trimLeft]
  generalize Text.trimLeft cs = text at hweekday hsolid
  unfold weekday at hweekday
  split at hweekday
  · obtain ⟨-, rfl⟩ := Prod.mk.inj (Option.some.inj hweekday)
    rw [hsolid] at hday
    obtain ⟨ds, rfl, hds, hlo, hhi, -, -⟩ := Text.readNumber_eq_some hday
    cases cs₂ with
    | nil => cases hblanks
    | cons c rest =>
      obtain ⟨hc, -⟩ := Option.ite_none_right_eq_some.mp hblanks
      have hdigit : c.isDigit = false := by
        cases hdigit : c.isDigit with
        | false => rfl
        | true => exact absurd hc (by simp [isDigit_not_isBlank hdigit])
      have hyear := plainYear_of_digits hds hlo (by omega)
        (.inr (endsDigits_cons hdigit) : _ ∨ EndsDigits (c :: rest))
      have hhyphen : char '-' (c :: rest) = none := by
        apply if_neg
        rintro rfl
        exact absurd hc (by decide)
      simp only [plainDate, hyear, hhyphen, Option.bind_eq_bind, Option.bind_some, Option.bind_none]
  · rename_i hname
    obtain ⟨c, cs', rfl, hc⟩ := exists_isAlpha_of_shortName hname
    simp only [plainDate, plainYear_of_isAlpha hc hsolid, Option.bind_eq_bind, Option.bind_none]

theorem form_of_mail? {cs : List Char} {i : Instant} (h : mail? cs = some i) :
    Form.of cs = .mail := by
  rw [Form.of, plainDate_of_mail? h]

theorem form_of_read? {form : Form} {cs : List Char} {i : Instant} (h : form.read? cs = some i) :
    Form.of cs = form := by
  cases form with
  | internet => exact form_of_internet? h
  | mail => exact form_of_mail? h
  | plain => exact form_of_plain? h
  | dateOnly => exact form_of_dateOnly? h

theorem pairwise_formats (cs : List Char) :
    formats.Pairwise fun f g => f cs = none ∨ g cs = none := by
  rw [Form.formats_eq, List.pairwise_map]
  refine Form.nodup_all.imp fun {f g} hne => ?_
  cases hf : f.read? cs with
  | none => exact Or.inl rfl
  | some i =>
    cases hg : g.read? cs with
    | none => exact Or.inr rfl
    | some j => exact absurd ((form_of_read? hf).symm.trans (form_of_read? hg)) hne

theorem findSome?_of_perm {α β : Type} {f : α → Option β} {as bs : List α} (h : as.Perm bs)
    (hf : as.Pairwise fun a b => f a = none ∨ f b = none) : as.findSome? f = bs.findSome? f := by
  induction h with
  | nil => rfl
  | cons a _ ih => rw [List.findSome?_cons, List.findSome?_cons, ih hf.of_cons]
  | swap a b as =>
    rw [List.findSome?_cons, List.findSome?_cons, List.findSome?_cons, List.findSome?_cons]
    rcases List.rel_of_pairwise_cons hf List.mem_cons_self with hb | ha
    · rw [hb]
    · rw [ha]
  | trans h _ ih ih' => exact (ih hf).trans (ih' (hf.perm h Or.symm))

/-- No two formats read one text, so the instant that is read, if any, is that of the only format
which reads the text, in whatever order the formats are tried. -/
theorem formats_exclude_each_other (cs : List Char) :
    formats.Pairwise (fun f g => f (Text.trim cs) = none ∨ g (Text.trim cs) = none) ∧
      (∀ i, read? cs = some i ↔ ∃ format ∈ formats, format (Text.trim cs) = some i) ∧
      ∀ order : List (List Char → Option Instant), order.Perm formats →
        order.findSome? (fun format => format (Text.trim cs)) = read? cs := by
  have hpairwise := pairwise_formats (Text.trim cs)
  refine ⟨hpairwise, fun i => ⟨fun h => List.exists_of_findSome?_eq_some h, ?_⟩,
    fun order horder => ?_⟩
  · rintro ⟨format, hformat, hi⟩
    obtain ⟨before, after, hformats⟩ := List.append_of_mem hformat
    have hperm : formats.Perm (format :: (before ++ after)) := hformats ▸ List.perm_middle
    rw [read?, findSome?_of_perm hperm hpairwise, List.findSome?_cons, hi]
  · exact (findSome?_of_perm horder.symm hpairwise).symm

/-- A mail header with a comment within a comment, tried from the last format to the first. -/
theorem findSome?_reverse_mailHeader :
    formats.reverse.Perm formats ∧
      formats.reverse.findSome? (fun format =>
        format (Text.trim " 5 Jan 24 07:05 Z ((a)) ".toList)) =
        some ⟨1704438300, 0⟩ :=
  have hread : read? " 5 Jan 24 07:05 Z ((a)) ".toList = some ⟨1704438300, 0⟩ := by decide +kernel
  ⟨List.reverse_perm formats,
    ((formats_exclude_each_other _).2.2 _ (List.reverse_perm formats)).trans hread⟩

end Timestamp
end TimeMarkup
