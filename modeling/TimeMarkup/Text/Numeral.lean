/-!
Numbers as digits. Reading takes as many digits as there are up to a limit; writing pads with zeros
on the left.
-/

namespace TimeMarkup.Text

def decimal (ds : List Char) : Nat :=
  ds.foldl (fun n d => 10 * n + (d.toNat - '0'.toNat)) 0

/-- Reads at least `lo` and at most `hi` decimal digits. -/
def readNumber (lo hi : Nat) (cs : List Char) : Option (Nat × List Char) :=
  let ds := (cs.take hi).takeWhile Char.isDigit
  if lo ≤ ds.length then some (decimal ds, cs.drop ds.length) else none

/-- Reads all decimal digits at the front, of which there must be `lo`; also says how many there
were. -/
def readDigits (lo : Nat) (cs : List Char) : Option (Nat × Nat × List Char) :=
  let ds := cs.takeWhile Char.isDigit
  if lo ≤ ds.length then some (decimal ds, ds.length, cs.drop ds.length) else none

/-- The value of a digit in a base up to sixteen, in either case. -/
def digitValue? (base : Nat) (c : Char) : Option Nat :=
  let n := c.toNat
  let v := if 48 ≤ n ∧ n ≤ 57 then n - 48
    else if 97 ≤ n ∧ n ≤ 102 then n - 87
    else if 65 ≤ n ∧ n ≤ 70 then n - 55
    else base
  if v < base then some v else none

/-- The number that digits of a base write; there must be at least one digit and nothing else. -/
def digits? (base : Nat) : List Char → Option Nat
  | [] => none
  | d :: ds => (d :: ds).foldlM (fun n c => (digitValue? base c).map (base * n + ·)) 0

/-- As `digits?`, with a plus sign allowed in front. -/
def unsigned? (base : Nat) : List Char → Option Nat
  | '+' :: ds => digits? base ds
  | ds => digits? base ds

/-- Decimal digits of a number, with zeros in front up to a width. -/
def padded (width n : Nat) : List Char :=
  let ds := Nat.toDigits 10 n
  List.replicate (width - ds.length) '0' ++ ds

theorem readNumber_length {lo hi : Nat} {cs rest : List Char} {n : Nat}
    (h : readNumber lo hi cs = some (n, rest)) : rest.length ≤ cs.length := by
  simp only [readNumber, Option.ite_none_right_eq_some, Option.some.injEq, Prod.mk.injEq] at h
  rw [← h.2.2, List.length_drop]
  omega

theorem readNumber_eq_none_of_head {lo hi : Nat} {c : Char} {cs : List Char} (hlo : 0 < lo)
    (h : c.isDigit = false) : readNumber lo hi (c :: cs) = none := by
  cases hi with
  | zero => simp [readNumber, Nat.ne_of_gt hlo]
  | succ hi => simp [readNumber, h, Nat.ne_of_gt hlo]

end TimeMarkup.Text
