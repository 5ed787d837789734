import TimeMarkup.Text.Blank
import TimeMarkup.Text.Numeral

/-!
# Reading numbers that have been written

A reader takes the digits that are there, up to its limit. What has been written is read again if it
is as long as the limit, or if no digit follows it.
-/

namespace TimeMarkup.Text

section
variable {p : Char → Bool} {cs rest : List Char} (hcs : ∀ c ∈ cs, p c = true)
  (hrest : ∀ c ∈ rest.head?, p c = false)
include hcs hrest

theorem takeWhile_append_of_head : (cs ++ rest).takeWhile p = cs := by
  rw [List.takeWhile_append_of_pos hcs]
  cases rest with
  | nil => simp
  | cons c rest => rw [List.takeWhile_cons_of_neg (by simp [hrest c rfl]), List.append_nil]

theorem dropWhile_append_of_head : (cs ++ rest).dropWhile p = rest := by
  rw [List.dropWhile_append_of_pos hcs]
  cases rest with
  | nil => rfl
  | cons c rest => rw [List.dropWhile_cons_of_neg (by simp [hrest c rfl])]

end

/-- The text goes on with something else than a digit, or ends. -/
def EndsDigits (rest : List Char) : Prop :=
  ∀ c ∈ rest.head?, c.isDigit = false

theorem endsDigits_nil : EndsDigits [] := nofun

theorem endsDigits_cons {c : Char} {cs : List Char} (h : c.isDigit = false) :
    EndsDigits (c :: cs) := by
  intro d hd
  rwa [← Option.some.inj hd]

theorem takeWhile_isDigit_append {ds rest : List Char} (hds : ∀ c ∈ ds, c.isDigit = true)
    (hrest : EndsDigits rest) :
    (ds ++ rest).takeWhile Char.isDigit = ds :=
  takeWhile_append_of_head hds hrest

theorem EndsDigits.take {rest : List Char} (h : EndsDigits rest) (n : Nat) :
    EndsDigits (rest.take n) := by
  cases n with
  | zero => exact endsDigits_nil
  | succ n =>
    cases rest with
    | nil => exact h
    | cons c cs => exact h

theorem takeWhile_isDigit_take {hi : Nat} {ds rest : List Char} (hds : ∀ c ∈ ds, c.isDigit = true)
    (hhi : ds.length ≤ hi) (hrest : ds.length = hi ∨ EndsDigits rest) :
    ((ds ++ rest).take hi).takeWhile Char.isDigit = ds := by
  rcases hrest with rfl | hrest
  · have hall := takeWhile_isDigit_append hds endsDigits_nil
    rw [List.append_nil] at hall
    rw [List.take_left, hall]
  · rw [List.take_append, List.take_of_length_le hhi]
    exact takeWhile_isDigit_append hds (hrest.take _)

theorem readNumber_append (lo hi : Nat) {ds rest : List Char} (hds : ∀ c ∈ ds, c.isDigit = true)
    (hlo : lo ≤ ds.length) (hhi : ds.length ≤ hi) (hrest : ds.length = hi ∨ EndsDigits rest) :
    readNumber lo hi (ds ++ rest) = some (decimal ds, rest) := by
  simp only [readNumber, takeWhile_isDigit_take hds hhi hrest]
  rw [if_pos hlo, List.drop_left]

theorem readNumber_eq_none (lo hi : Nat) {ds rest : List Char} (hds : ∀ c ∈ ds, c.isDigit = true)
    (hlo : ds.length < lo) (hhi : ds.length ≤ hi) (hrest : EndsDigits rest) :
    readNumber lo hi (ds ++ rest) = none := by
  simp only [readNumber, takeWhile_isDigit_take hds hhi (.inr hrest)]
  rw [if_neg (by omega)]

theorem readDigits_append {lo : Nat} {ds rest : List Char} (hds : ∀ c ∈ ds, c.isDigit = true)
    (hlo : lo ≤ ds.length) (hrest : EndsDigits rest) :
    readDigits lo (ds ++ rest) = some (decimal ds, ds.length, rest) := by
  simp only [readDigits, takeWhile_isDigit_append hds hrest]
  rw [if_pos hlo, List.drop_left]

theorem decimal_padded (width n : Nat) : decimal (padded width n) = n := by
  have hfold (ds : List Char) : decimal ds = Nat.ofDigitChars 10 ds 0 :=
    Nat.ofDigitChars_eq_foldl.symm
  simp only [hfold, padded]
  rw [Nat.ofDigitChars_append, Nat.ofDigitChars_replicate_zero, Nat.mul_zero,
    Nat.ofDigitChars_ten_toDigits]

theorem isDigit_of_mem_padded {width n : Nat} {c : Char} (h : c ∈ padded width n) :
    c.isDigit = true := by
  rcases List.mem_append.mp h with h | h
  · rw [List.eq_of_mem_replicate h]
    rfl
  · exact Nat.isDigit_of_mem_toDigits (by decide) (by decide) h

theorem le_length_padded (width n : Nat) : width ≤ (padded width n).length := by
  simp only [padded, List.length_append, List.length_replicate]
  omega

theorem length_padded_le {width limit n : Nat} (hlimit : 0 < limit) (hwidth : width ≤ limit)
    (hn : n < Nat.pow 10 limit) :
    (padded width n).length ≤ limit := by
  have hle : (Nat.toDigits 10 n).length ≤ limit :=
    (Nat.length_toDigits_le_iff (by decide) hlimit).mpr hn
  simp only [padded, List.length_append, List.length_replicate]
  omega

theorem length_padded {width n : Nat} (hwidth : 0 < width) (hn : n < Nat.pow 10 width) :
    (padded width n).length = width :=
  Nat.le_antisymm (length_padded_le hwidth (Nat.le_refl _) hn) (le_length_padded width n)

theorem readNumber_padded {width n : Nat} (hwidth : 0 < width) (hn : n < Nat.pow 10 width)
    (rest : List Char) :
    readNumber width width (padded width n ++ rest) = some (n, rest) := by
  have hlength := length_padded hwidth hn
  rw [readNumber_append _ _ (fun _ hc => isDigit_of_mem_padded hc) (Nat.le_of_eq hlength.symm)
    (Nat.le_of_eq hlength) (.inl hlength), decimal_padded]

/-- One or two digits are taken where a third cannot follow. -/
theorem readNumber_short {width n : Nat} (hwidth : width = 1 ∨ width = 2) (hn : n < 100)
    {rest : List Char} (hrest : width = 2 ∨ EndsDigits rest) :
    readNumber 1 2 (padded width n ++ rest) = some (n, rest) := by
  have hle : (padded width n).length ≤ 2 := length_padded_le (by decide) (by omega) hn
  have hge := le_length_padded width n
  rw [readNumber_append _ _ (fun _ hc => isDigit_of_mem_padded hc) (by omega) hle
    (hrest.imp_left fun _ => by omega), decimal_padded]

theorem readDigits_padded {lo width : Nat} (hlo : lo ≤ width) (n : Nat) {rest : List Char}
    (hrest : EndsDigits rest) :
    readDigits lo (padded width n ++ rest) = some (n, (padded width n).length, rest) := by
  rw [readDigits_append (fun _ hc => isDigit_of_mem_padded hc)
    (Nat.le_trans hlo (le_length_padded width n)) hrest, decimal_padded]

theorem endsDigits_dropWhile (cs : List Char) : EndsDigits (cs.dropWhile Char.isDigit) := by
  intro c hc
  have hhead := List.head?_dropWhile_not Char.isDigit cs
  rw [Option.mem_def.mp hc] at hhead
  exact hhead

/-- The digits that a reader has taken, and why it has stopped. -/
theorem readNumber_eq_some {lo hi n : Nat} {cs rest : List Char}
    (h : readNumber lo hi cs = some (n, rest)) :
    ∃ ds, cs = ds ++ rest ∧ (∀ c ∈ ds, c.isDigit = true) ∧ lo ≤ ds.length ∧ ds.length ≤ hi ∧
      decimal ds = n ∧ (ds.length = hi ∨ EndsDigits rest) := by
  simp only [readNumber, Option.ite_none_right_eq_some, Option.some.injEq, Prod.mk.injEq] at h
  obtain ⟨hlo, rfl, rfl⟩ := h
  have hall : ∀ c ∈ (cs.take hi).takeWhile Char.isDigit, c.isDigit = true :=
    List.all_eq_true.mp List.all_takeWhile
  have hends := endsDigits_dropWhile (cs.take hi)
  have htake : (cs.take hi).takeWhile Char.isDigit ++ (cs.take hi).dropWhile Char.isDigit =
      cs.take hi :=
    List.takeWhile_append_dropWhile
  generalize (cs.take hi).takeWhile Char.isDigit = ds at hlo hall htake ⊢
  generalize (cs.take hi).dropWhile Char.isDigit = behind at hends htake
  have hcs : cs = ds ++ (behind ++ cs.drop hi) := by
    rw [← List.append_assoc, htake, List.take_append_drop]
  have hdrop : cs.drop ds.length = behind ++ cs.drop hi :=
    (congrArg (List.drop ds.length) hcs).trans List.drop_left
  have hlength := congrArg List.length htake
  rw [List.length_append, List.length_take] at hlength
  refine ⟨ds, hdrop ▸ hcs, hall, hlo, by omega, rfl, ?_⟩
  rw [hdrop]
  cases behind with
  | cons c rest => exact Or.inr (endsDigits_cons (hends c rfl))
  | nil =>
    rw [List.length_nil, Nat.add_zero] at hlength
    by_cases hle : cs.length ≤ hi
    · rw [List.drop_eq_nil_of_le hle]
      exact Or.inr endsDigits_nil
    · exact Or.inl (by omega)

end TimeMarkup.Text
