import TimeMarkup.Proofs.Text.Numerals

/-!
# Trimming a text that stands among blanks

A text that neither starts nor ends with a blank is what trimming leaves of it, whatever blanks
stand around it. Numbers are such texts.
-/

namespace TimeMarkup.Text

/-- The text starts with a character that is not blank. -/
def StartsSolid (cs : List Char) : Prop :=
  ∃ c ∈ cs.head?, isBlank c = false

theorem startsSolid_iff (cs : List Char) :
    StartsSolid cs ↔ cs.head?.any (fun c => !isBlank c) = true := by
  cases cs <;> simp [StartsSolid]

instance (cs : List Char) : Decidable (StartsSolid cs) :=
  decidable_of_iff' _ (startsSolid_iff cs)

theorem startsSolid_cons {c : Char} (h : isBlank c = false) (cs : List Char) :
    StartsSolid (c :: cs) :=
  ⟨c, rfl, h⟩

theorem startsSolid_of_ne_nil {cs : List Char} (hne : cs ≠ [])
    (h : ∀ c ∈ cs.head?, isBlank c = false) :
    StartsSolid cs := by
  obtain ⟨c, cs, rfl⟩ := List.exists_cons_of_ne_nil hne
  exact startsSolid_cons (h c rfl) cs

namespace StartsSolid
variable {cs : List Char}

theorem append (h : StartsSolid cs) (rest : List Char) : StartsSolid (cs ++ rest) := by
  cases cs with
  | nil => obtain ⟨c, hc, -⟩ := h; cases hc
  | cons c cs => exact h

theorem trimLeft_eq (h : StartsSolid cs) : trimLeft cs = cs := by
  cases cs with
  | nil => rfl
  | cons c cs =>
    obtain ⟨d, hd, hsolid⟩ := h
    cases hd
    exact trimLeft_cons_other hsolid

end StartsSolid

theorem startsSolid_reverse_append {cs : List Char} (h : StartsSolid cs.reverse)
    (front : List Char) :
    StartsSolid (front ++ cs).reverse := by
  rw [List.reverse_append]
  exact h.append _

theorem trimLeft_trimLeft (cs : List Char) : trimLeft (trimLeft cs) = trimLeft cs := by
  induction cs with
  | nil => rfl
  | cons c cs ih =>
    by_cases hc : isBlank c = true
    · rw [trimLeft_cons_blank hc, ih]
    · rw [trimLeft_cons_other (by simpa using hc), trimLeft_cons_other (by simpa using hc)]

theorem trimLeft_append_of_blank {before : List Char} (h : ∀ c ∈ before, isBlank c = true)
    (cs : List Char) :
    trimLeft (before ++ cs) = trimLeft cs :=
  List.dropWhile_append_of_pos h

theorem trim_among_blanks {before cs after : List Char} (hbefore : ∀ c ∈ before, isBlank c = true)
    (hafter : ∀ c ∈ after, isBlank c = true) (hstart : StartsSolid cs)
    (hend : StartsSolid cs.reverse) :
    trim (before ++ cs ++ after) = cs := by
  have hleft : trimLeft (before ++ cs ++ after) = cs ++ after := by
    rw [List.append_assoc, trimLeft_append_of_blank hbefore, (hstart.append after).trimLeft_eq]
  have hright : trimLeft (cs ++ after).reverse = cs.reverse := by
    rw [List.reverse_append, trimLeft_append_of_blank (by simpa using hafter), hend.trimLeft_eq]
  rw [trim, hleft]
  exact List.reverse_eq_iff.mpr hright

/-- A character that is not blank stops trimming from the end. -/
theorem trimRight_append_cons {c : Char} (h : isBlank c = false) (front rest : List Char) :
    trimRight (front ++ c :: rest) = front ++ c :: trimRight rest := by
  have hsolid : ([c] ++ front.reverse).dropWhile isBlank = [c] ++ front.reverse :=
    List.dropWhile_cons_of_neg (by simp [h])
  rw [trimRight, trimRight, List.reverse_append, List.reverse_cons, List.append_assoc,
    List.dropWhile_append, hsolid]
  split
  · rename_i hempty
    rw [List.isEmpty_iff.mp hempty]
    simp
  · simp

theorem trim_of_blanks {cs : List Char} (h : ∀ c ∈ cs, isBlank c = true) : trim cs = [] := by
  have hleft := trimLeft_append_of_blank h []
  rw [List.append_nil] at hleft
  rw [trim, hleft]
  rfl

/-- A text that trimming leaves as it is has no blank at either end. -/
theorem ends_of_trim_eq_self {cs : List Char} (h : trim cs = cs) :
    (∀ c ∈ cs.head?, isBlank c = false) ∧ ∀ c ∈ cs.getLast?, isBlank c = false := by
  have hright : (trim cs).length ≤ (trimLeft cs).length := by
    rw [trim, trimRight, List.length_reverse]
    exact Nat.le_trans (trimLeft_length_le _) (Nat.le_of_eq List.length_reverse)
  rw [h] at hright
  have hleft : trimLeft cs = cs :=
    (List.dropWhile_sublist isBlank).eq_of_length (Nat.le_antisymm (trimLeft_length_le cs) hright)
  constructor
  · intro c hc
    have hhead := List.head?_dropWhile_not isBlank cs
    rw [show cs.dropWhile isBlank = cs from hleft, Option.mem_def.mp hc] at hhead
    exact hhead
  · intro c hc
    rw [trim, hleft, trimRight, List.reverse_eq_iff] at h
    have hhead := List.head?_dropWhile_not isBlank cs.reverse
    rw [h, List.head?_reverse, Option.mem_def.mp hc] at hhead
    exact hhead

theorem trim_of_solid {cs : List Char} (h : ∀ c ∈ cs, isBlank c = false) : trim cs = cs := by
  have hsolid {ds : List Char} (h : ∀ c ∈ ds, isBlank c = false) : ds.dropWhile isBlank = ds := by
    cases ds with
    | nil => rfl
    | cons d ds => exact List.dropWhile_cons_of_neg (by simp [h d List.mem_cons_self])
  rw [trim, trimLeft, hsolid h, trimRight, hsolid fun c hc => h c (List.mem_reverse.mp hc),
    List.reverse_reverse]

theorem startsSolid_of_digits {ds : List Char} (hne : ds ≠ []) (hds : ∀ c ∈ ds, c.isDigit = true) :
    StartsSolid ds := by
  obtain ⟨c, cs, rfl⟩ := List.exists_cons_of_ne_nil hne
  exact startsSolid_cons (isDigit_not_isBlank (hds c List.mem_cons_self)) cs

theorem startsSolid_of_readNumber {lo hi n : Nat} {cs rest : List Char} (hlo : 0 < lo)
    (h : readNumber lo hi cs = some (n, rest)) : StartsSolid cs := by
  obtain ⟨ds, rfl, hds, hlo', -⟩ := readNumber_eq_some h
  exact (startsSolid_of_digits (List.ne_nil_of_length_pos (by omega)) hds).append rest

section
variable {width : Nat} (hwidth : 0 < width) (n : Nat)
include hwidth

theorem padded_ne_nil : padded width n ≠ [] :=
  List.ne_nil_of_length_pos (Nat.lt_of_lt_of_le hwidth (le_length_padded width n))

theorem startsSolid_padded : StartsSolid (padded width n) :=
  startsSolid_of_digits (padded_ne_nil hwidth n) fun _ hc => isDigit_of_mem_padded hc

theorem startsSolid_reverse_padded : StartsSolid (padded width n).reverse :=
  startsSolid_of_digits (List.reverse_ne_nil_iff.mpr (padded_ne_nil hwidth n)) fun _ hc =>
    isDigit_of_mem_padded (List.mem_reverse.mp hc)

theorem startsSolid_reverse_field (c : Char) (front : List Char) :
    StartsSolid (front ++ c :: padded width n).reverse :=
  startsSolid_reverse_append (startsSolid_reverse_append (startsSolid_reverse_padded hwidth n) [c])
    front

end
end TimeMarkup.Text
