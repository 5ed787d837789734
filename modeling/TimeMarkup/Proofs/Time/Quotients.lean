import Mathlib.Order.Basic
import Mathlib.Tactic.Ring
import TimeMarkup.Time.Rounding

/-!
# Quotients with few binary digits

Cutting a quotient to its leading binary digits before it is rounded to an integer does no harm as
long as the quotient lies farther from a half than half of its last digit. The distance to a half is
a multiple of what divides both numbers, so that this is a matter of the size of the first one.
-/

namespace TimeMarkup.Rounding

theorem le_quotient_iff {d : Nat} (hd : 0 < d) (n j : Nat) :
    j ≤ quotient n d ↔ 2 * (j * d) ≤ 2 * n + d := by
  rw [quotient, Nat.le_div_iff_mul_le (by omega), Nat.mul_left_comm]

theorem div_mul_le_toMultiple (unit n : Nat) : n / unit * unit ≤ toMultiple unit n := by
  apply Nat.mul_le_mul_right
  split
  · exact Nat.le_refl _
  · split <;> omega

theorem le_toMultiple {unit t n : Nat} (hunit : unit ∣ t) (ht : t ≤ n) : t ≤ toMultiple unit n := by
  calc
    t = t / unit * unit := (Nat.div_mul_cancel hunit).symm
    _ ≤ n / unit * unit := Nat.mul_le_mul_right _ (Nat.div_le_div_right ht)
    _ ≤ toMultiple unit n := div_mul_le_toMultiple unit n

theorem two_mul_toMultiple_le (unit n : Nat) : 2 * toMultiple unit n ≤ 2 * n + unit := by
  have hn := Nat.div_add_mod' n unit
  simp only [toMultiple]
  split
  · omega
  · split
    · rw [Nat.add_mul]
      omega
    · have hparity : (n / unit + n / unit % 2) * unit ≤ (n / unit + 1) * unit :=
        Nat.mul_le_mul_right _ (by omega)
      rw [Nat.add_mul _ 1] at hparity
      omega

theorem lastPlace_dvd {bits n d h : Nat} (hh : n.log2 + 1 ≤ h) :
    lastPlace bits n d ∣ d * Nat.pow 2 h := by
  have hdouble : 2 * (d * Nat.pow 2 n.log2) = d * Nat.pow 2 (n.log2 + 1) := by
    rw [Nat.mul_left_comm, Nat.mul_comm 2]
    rfl
  simp only [lastPlace]
  split
  · rw [hdouble]
    exact Nat.mul_dvd_mul_left d (Nat.pow_dvd_pow 2 hh)
  · exact Nat.mul_dvd_mul_left d (Nat.pow_dvd_pow 2 (by omega))

theorem lastPlace_mul_le {n : Nat} (hn : 0 < n) (bits d : Nat) :
    lastPlace bits n d * Nat.pow 2 bits ≤ 2 * (n * Nat.pow 2 (bits + d.log2)) := by
  simp only [lastPlace]
  split
  · rw [Nat.mul_assoc]
    omega
  · have hlog : Nat.pow 2 n.log2 ≤ n := Nat.log2_self_le (by omega)
    have hdlt : d ≤ 2 * Nat.pow 2 d.log2 := by
      have hlt : d < Nat.pow 2 d.log2 * 2 := Nat.lt_log2_self
      omega
    have hsum : Nat.pow 2 (bits + d.log2) = Nat.pow 2 bits * Nat.pow 2 d.log2 :=
      Nat.pow_add 2 bits d.log2
    calc
      d * Nat.pow 2 n.log2 * Nat.pow 2 bits ≤ 2 * Nat.pow 2 d.log2 * n * Nat.pow 2 bits :=
        Nat.mul_le_mul_right _ (Nat.mul_le_mul hdlt hlog)
      _ = 2 * (n * Nat.pow 2 (bits + d.log2)) := by rw [hsum]; ac_rfl

/-- Half integers are among the fractions with few digits, so that cutting does not carry a quotient
past one. From below a quotient does not reach one either: it is farther away than half of the last
digit. -/
theorem quotient_significantQuotient {bits n d g : Nat} (hd : 0 < d) (hgd : g ∣ d) (hgn : g ∣ 2 * n)
    (hn : 2 * n < g * Nat.pow 2 bits) (hlog : n.log2 + 2 ≤ bits + d.log2) :
    quotient (significantQuotient bits n d).1 (significantQuotient bits n d).2 = quotient n d := by
  obtain ⟨h, hh⟩ : ∃ h, bits + d.log2 = h + 1 := ⟨bits + d.log2 - 1, by omega⟩
  have hscale : Nat.pow 2 (bits + d.log2) = 2 * Nat.pow 2 h := by
    rw [hh, Nat.mul_comm]
    rfl
  have hdvd : lastPlace bits n d ∣ d * Nat.pow 2 h := lastPlace_dvd (by omega)
  have hlast (hn0 : 0 < n) := lastPlace_mul_le hn0 bits d
  have herror := two_mul_toMultiple_le (lastPlace bits n d) (n * Nat.pow 2 (bits + d.log2))
  have hpos : 0 < Nat.pow 2 h := Nat.pow_pos (by decide)
  simp only [significantQuotient]
  rw [hscale] at hlast herror ⊢
  generalize Nat.pow 2 h = half at *
  generalize lastPlace bits n d = unit at *
  apply eq_of_forall_le_iff
  intro j
  rw [le_quotient_iff (Nat.mul_pos hd (by omega)), le_quotient_iff hd]
  cases j with
  | zero => simp
  | succ j =>
    -- The half below `j + 1` is `(2 * j + 1) * (d * half)` in the parts in which digits are
    -- counted.
    have hleft : 2 * ((j + 1) * (d * (2 * half))) = 2 * ((2 * j + 1) * (d * half)) + d *
        (2 * half) := by ring
    have hright : 2 * ((j + 1) * d) = (2 * j + 1) * d + d := by ring
    have hparts : (2 * j + 1) * d * (2 * half) = 2 * ((2 * j + 1) * (d * half)) := by ring
    rw [hleft, hright]
    constructor
    · intro hle
      by_contra hbelow
      have hgap : g ≤ (2 * j + 1) * d - 2 * n :=
        Nat.le_of_dvd (by omega) (Nat.dvd_sub (Nat.dvd_mul_left_of_dvd hgd _) hgn)
      have hhalf : (2 * n + g) * (2 * half) ≤ (2 * j + 1) * d * (2 * half) :=
        Nat.mul_le_mul_right _ (by omega)
      rcases Nat.eq_zero_or_pos n with rfl | hn0
      · rw [Nat.zero_mul, toMultiple_zero] at hle
        have : 0 < (2 * j + 1) * (d * half) := Nat.mul_pos (by omega) (Nat.mul_pos hd hpos)
        omega
      · have hunit : g * (2 * half) ≤ unit := by
          rw [Nat.add_mul, Nat.mul_assoc 2 n] at hhalf
          omega
        have hdigits : g * Nat.pow 2 bits * (2 * half) ≤ 2 * n * (2 * half) := by
          calc
            g * Nat.pow 2 bits * (2 * half) = g * (2 * half) * Nat.pow 2 bits := by ac_rfl
            _ ≤ unit * Nat.pow 2 bits := Nat.mul_le_mul_right _ hunit
            _ ≤ 2 * (n * (2 * half)) := hlast hn0
            _ = 2 * n * (2 * half) := (Nat.mul_assoc 2 n _).symm
        exact absurd (Nat.le_of_mul_le_mul_right hdigits (by omega)) (by omega)
    · intro hle
      have hbelow : (2 * j + 1) * d * (2 * half) ≤ 2 * n * (2 * half) :=
        Nat.mul_le_mul_right _ (by omega)
      have hreached : (2 * j + 1) * (d * half) ≤ toMultiple unit (n * (2 * half)) := by
        apply le_toMultiple (Nat.dvd_mul_left_of_dvd hdvd _)
        rw [hparts, Nat.mul_assoc 2 n] at hbelow
        omega
      omega

theorem binaryQuotient_of_lt {bits n d : Nat} (hd : 0 < d) (hn : 2 * n < Nat.pow 2 bits) :
    binaryQuotient bits n d = quotient n d := by
  rcases Nat.eq_zero_or_pos n with rfl | hpos
  · rw [binaryQuotient_zero hd, quotient, Nat.div_eq_of_lt (by omega)]
  · have hshort : n.log2 + 1 < bits := by
      apply (Nat.pow_lt_pow_iff_right (by decide : 1 < 2)).mp
      have hlog : 2 ^ n.log2 ≤ n := Nat.log2_self_le (by omega)
      have hn' : 2 * n < 2 ^ bits := hn
      omega
    rw [binaryQuotient, significant_of_lt (by omega)]
    exact quotient_significantQuotient hd (Nat.one_dvd _) (Nat.one_dvd _) (by omega) (by omega)

theorem significant_of_one_more {bits n : Nat} (hn : Nat.pow 2 bits ≤ n)
    (hn' : n < 2 * Nat.pow 2 bits) :
    significant bits n = toMultiple 2 n := by
  have hpos : 0 < Nat.pow 2 bits := Nat.pow_pos (by decide)
  have hlog : n.log2 = bits := by
    rw [Nat.log2_eq_iff (by omega)]
    refine ⟨hn, ?_⟩
    rw [Nat.pow_succ, Nat.mul_comm]
    exact hn'
  rw [significant, if_neg (by omega), hlog, Nat.add_sub_cancel_left]

theorem toMultiple_two (n : Nat) :
    toMultiple 2 n = if n % 4 = 1 then n - 1 else if n % 4 = 3 then n + 1 else n := by
  simp only [toMultiple]
  repeat' split
  all_goals omega

end TimeMarkup.Rounding
