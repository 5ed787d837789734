import Mathlib.Data.Nat.Digits.Lemmas
import TimeMarkup.Proofs.Text.Letters
import TimeMarkup.Text.Numeral

/-!
# Numbers in a base up to sixteen

The digits of a number are read as that number, in either case of the letters among them. Nothing
but digits has a value.
-/

namespace TimeMarkup.Text

theorem digitValue?_digitChar {base d : Nat} (hbase : base ≤ 16) (hd : d < base) :
    digitValue? base d.digitChar = some d := by
  have hall : ∀ base < 17, ∀ d < base, digitValue? base d.digitChar = some d := by decide
  exact hall base (by omega) d hd

/-- Digits of hexadecimal numbers have their value in either case. -/
theorem digitValue?_toLower (c : Char) : digitValue? 16 c.toLower = digitValue? 16 c := by
  have hlower := toNat_toLower c
  grind [digitValue?]

theorem foldlM_toDigits {base : Nat} (hbase : 1 < base ∧ base ≤ 16) (n : Nat) :
    (Nat.toDigits base n).foldlM (fun n c => (digitValue? base c).map (base * n + ·)) 0 =
      some n := by
  induction n using Nat.strongRecOn with
  | ind n ih =>
    by_cases hlt : n < base
    · rw [Nat.toDigits_of_lt_base hlt]
      simp [digitValue?_digitChar hbase.2 hlt]
    · have hdiv : n / base < n := Nat.div_lt_self (by omega) hbase.1
      have hmod : n % base < base := Nat.mod_lt n (by omega)
      rw [Nat.toDigits_of_base_le hbase.1 (by omega), List.foldlM_append, ih _ hdiv]
      simp [digitValue?_digitChar hbase.2 hmod, Nat.div_add_mod]

theorem digits?_toDigits {base : Nat} (hbase : 1 < base ∧ base ≤ 16) (n : Nat) :
    digits? base (Nat.toDigits base n) = some n := by
  have hfold := foldlM_toDigits hbase n
  obtain ⟨d, ds, hds⟩ := List.exists_cons_of_ne_nil (Nat.toDigits_ne_nil : Nat.toDigits base n ≠ [])
  rw [hds] at hfold ⊢
  exact hfold

/-- Digits in any case are those of the number that they are in small letters. -/
theorem digits?_of_toLower {ds : List Char} {n : Nat}
    (h : ds.map Char.toLower = Nat.toDigits 16 n) :
    digits? 16 ds = some n := by
  have hdigits := digits?_toDigits (by decide : 1 < 16 ∧ 16 ≤ 16) n
  rw [← h] at hdigits
  cases ds with
  | nil => exact hdigits
  | cons d ds =>
    have hfold : ((d :: ds).map Char.toLower).foldlM (fun n c =>
        (digitValue? 16 c).map (16 * n + ·)) 0 = some n := hdigits
    rw [List.foldlM_map] at hfold
    simp only [digitValue?_toLower] at hfold
    exact hfold

theorem digitValue?_ne_none_of_foldlM {base m n : Nat} {ds : List Char}
    (h : ds.foldlM (fun n c => (digitValue? base c).map (base * n + ·)) m = some n) :
    ∀ c ∈ ds, digitValue? base c ≠ none := by
  induction ds generalizing m with
  | nil => exact nofun
  | cons d ds ih =>
    rw [List.foldlM_cons, Option.bind_eq_bind, Option.bind_eq_some_iff] at h
    obtain ⟨k, hd, hds⟩ := h
    intro c hc
    rcases List.mem_cons.mp hc with rfl | hc
    · intro hnone
      rw [hnone] at hd
      cases hd
    · exact ih hds c hc

/-- Only digits have a value. -/
theorem digitValue?_ne_none {base n : Nat} {ds : List Char} (h : digits? base ds = some n) :
    ∀ c ∈ ds, digitValue? base c ≠ none := by
  cases ds with
  | nil => exact nofun
  | cons d ds => exact digitValue?_ne_none_of_foldlM h

theorem not_mem_toDigits {base : Nat} (hbase : 1 < base ∧ base ≤ 16) {c : Char}
    (hc : digitValue? base c = none) (n : Nat) : c ∉ Nat.toDigits base n :=
  fun h => digitValue?_ne_none (digits?_toDigits hbase n) c h hc

theorem unsigned?_eq_digits? {base n : Nat} {ds : List Char} (h : digits? base ds = some n)
    (hplus : digitValue? base '+' = none) : unsigned? base ds = some n := by
  unfold unsigned?
  split
  · exact absurd hplus (digitValue?_ne_none h '+' List.mem_cons_self)
  · exact h

/-- Only characters of one byte have a value, and the marks around the digits of a number have
none. -/
theorem digitValue?_eq_none {base : Nat} {c : Char} (h : c ∈ ['+', '&', ';'] ∨ 128 ≤ c.toNat) :
    digitValue? base c = none := by
  simp only [List.mem_cons, List.not_mem_nil, or_false] at h
  rcases h with (rfl | rfl | rfl) | h
  · simp [digitValue?]
  · simp [digitValue?]
  · simp [digitValue?]
  · grind [digitValue?]

theorem unsigned?_eq_some_iff {base n : Nat} {cs : List Char} :
    unsigned? base cs = some n ↔ ∃ sign ds, (sign = [] ∨ sign = ['+']) ∧ digits? base ds = some n ∧
      cs = sign ++ ds := by
  constructor
  · intro h
    unfold unsigned? at h
    split at h
    · rename_i ds
      exact ⟨['+'], ds, .inr rfl, h, rfl⟩
    · exact ⟨[], cs, .inl rfl, h, rfl⟩
  · rintro ⟨sign, ds, rfl | rfl, hds, rfl⟩
    · exact unsigned?_eq_digits? hds (digitValue?_eq_none (.inl (by decide)))
    · exact hds

theorem mem_of_digitValue? {base : Nat} {digits : List Char}
    (h : ∀ n < 128, digitValue? base (Char.ofNat n) ≠ none → Char.ofNat n ∈ digits) {c : Char}
    (hc : digitValue? base c ≠ none) : c ∈ digits := by
  have hlt : c.toNat < 128 := Nat.lt_of_not_le fun hge => hc (digitValue?_eq_none (.inr hge))
  have hmem := h c.toNat hlt
  rw [Char.ofNat_toNat] at hmem
  exact hmem hc

theorem mem_decimalDigits {c : Char} (h : digitValue? 10 c ≠ none) : c ∈ "0123456789".toList :=
  mem_of_digitValue? (by decide) h

theorem mem_hexadecimalDigits {c : Char} (h : digitValue? 16 c ≠ none) :
    c ∈ "0123456789abcdefABCDEF".toList :=
  mem_of_digitValue? (by decide) h

theorem toDigits_injective {base : Nat} (hbase : 1 < base ∧ base ≤ 16) {m n : Nat}
    (h : Nat.toDigits base m = Nat.toDigits base n) : m = n := by
  have hdigits := digits?_toDigits hbase m
  rw [h, digits?_toDigits hbase, Option.some.injEq] at hdigits
  exact hdigits.symm

theorem toList_toString (n : Nat) : (toString n).toList = Nat.toDigits 10 n := by
  rw [Nat.toString_eq_repr, Nat.toList_repr]

end TimeMarkup.Text
