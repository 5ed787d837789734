/-!
Rounding of quotients and of large numbers. A quotient rounds to the nearest integer, a half
upwards; a number or a quotient that is too long is rounded to its leading binary digits, a tie to
even.
-/

namespace TimeMarkup.Rounding

/-- The integer nearest to `n / d`; a half is rounded up. -/
def quotient (n d : Nat) : Nat :=
  (2 * n + d) / (2 * d)

/-- The multiple of `unit` nearest to `n`; of two such multiples the even one. -/
def toMultiple (unit n : Nat) : Nat :=
  let q := n / unit
  let r := n % unit
  (if 2 * r < unit then q else if unit < 2 * r then q + 1 else q + q % 2) * unit

/-- The number nearest to `n` that has at most `bits` significant binary digits; of two such numbers
the one with the even last digit. -/
def significant (bits n : Nat) : Nat :=
  if n < Nat.pow 2 bits then n else toMultiple (Nat.pow 2 (n.log2 + 1 - bits)) n

/-- What the last of `bits` significant binary digits of `n / d` counts, in parts of
`d * 2 ^ (bits + d.log2)`. The quotient may be half as large as the lengths of `n` and `d`
suggest. -/
def lastPlace (bits n d : Nat) : Nat :=
  let unit := d * Nat.pow 2 n.log2
  if unit * Nat.pow 2 bits ≤ n * Nat.pow 2 (bits + d.log2) then 2 * unit else unit

/-- The fraction nearest to `n / d` that has at most `bits` significant binary digits, as numerator
and denominator; of two such fractions the one with the even last digit. -/
def significantQuotient (bits n d : Nat) : Nat × Nat :=
  let scale := Nat.pow 2 (bits + d.log2)
  (toMultiple (lastPlace bits n d) (n * scale), d * scale)

/-- The integer nearest to a quotient, a half upwards, where both the number that is divided and the
quotient keep their first `bits` binary digits only. -/
def binaryQuotient (bits n d : Nat) : Nat :=
  let (n, d) := significantQuotient bits (significant bits n) d
  quotient n d

theorem quotient_one (n : Nat) : quotient n 1 = n := by
  simp only [quotient]
  omega

theorem significant_of_lt {bits n : Nat} (h : n < Nat.pow 2 bits) : significant bits n = n := by
  rw [significant, if_pos h]

theorem quotient_mono {m n : Nat} (h : m ≤ n) (d : Nat) : quotient m d ≤ quotient n d :=
  Nat.div_le_div_right (by omega)

theorem toMultiple_zero (unit : Nat) : toMultiple unit 0 = 0 := by
  cases unit <;> simp [toMultiple]

theorem binaryQuotient_zero {bits d : Nat} (h : 0 < d) : binaryQuotient bits 0 d = 0 := by
  have hzero : significant bits 0 = 0 := significant_of_lt (Nat.pow_pos (by decide))
  have hpos : 0 < d * Nat.pow 2 (bits + d.log2) := Nat.mul_pos h (Nat.pow_pos (by decide))
  simp only [binaryQuotient, hzero, significantQuotient, Nat.zero_mul, toMultiple_zero, quotient]
  exact Nat.div_eq_of_lt (by omega)

end TimeMarkup.Rounding
