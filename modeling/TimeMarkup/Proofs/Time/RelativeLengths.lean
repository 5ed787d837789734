import TimeMarkup.Proofs.Time.Distances

/-!
# How long relative times are

A relative time stands for a number of seconds. It grows with the distance of the two instants,
which a change of unit does not break, as rounding never leaves the borders at which the units
change, and it is off by half a unit at most.
-/

namespace TimeMarkup
namespace Rounding

/-- A number that is carried up to a half does not overtake the next longer one. -/
theorem binaryQuotient_thousand_mono {m n : Nat} (h : m ≤ n) (hn : n + 1 < 2 * Nat.pow 2 53) :
    binaryQuotient 53 m 1000 ≤ binaryQuotient 53 n 1000 := by
  have hquotient := quotient_mono h 1000
  rw [binaryQuotient_thousand (by omega), binaryQuotient_thousand hn]
  by_cases hcarried : Nat.pow 2 53 ≤ m ∧ m % 1000 = 499
  · rcases Nat.eq_or_lt_of_le h with rfl | hlt
    · exact Nat.le_refl _
    · have hnext : quotient (m + 1) 1000 = quotient m 1000 + 1 := by
        simp only [quotient]
        omega
      have hreached : quotient (m + 1) 1000 ≤ quotient n 1000 := quotient_mono hlt 1000
      rw [if_pos hcarried]
      omega
  · rw [if_neg hcarried]
    omega

end Rounding

namespace Instant
open Rounding

theorem natAbs_wholeSecondsTo (target now : Instant) :
    (target.wholeSecondsTo now).natAbs = binaryQuotient 53
      ((target.nanosecondsTo now).natAbs / 1000000) 1000 := by
  have hms : ((target.nanosecondsTo now).tdiv 1000000).natAbs =
      (target.nanosecondsTo now).natAbs / 1000000 :=
    Int.natAbs_tdiv _ _
  rw [wholeSecondsTo, ← hms]
  generalize (target.nanosecondsTo now).tdiv 1000000 = ms
  rw [Int.natAbs_mul, Int.natAbs_natCast]
  rcases eq_or_ne ms 0 with rfl | hne
  · rw [Int.natAbs_zero, binaryQuotient_zero (by decide), Nat.mul_zero]
  · rw [Int.natAbs_sign_of_ne_zero hne, Nat.one_mul]

section Distance
variable {a b now : Instant} (ha' : a.isLeap = false) (hn' : now.isLeap = false)
include ha' hn'

theorem wholeSecondsTo_swap : now.wholeSecondsTo a = -a.wholeSecondsTo now := by
  have hdistance : now.nanosecondsTo a = -a.nanosecondsTo now := by
    rw [nanosecondsTo_eq_sub ha' hn', nanosecondsTo_eq_sub hn' ha', Int.neg_sub]
  rw [wholeSecondsTo, wholeSecondsTo, hdistance, Int.neg_tdiv, Int.sign_neg, Int.natAbs_neg,
    Int.neg_mul]

theorem natAbs_wholeSecondsTo_mono (ha : a.IsRepresentable) (hn : now.IsRepresentable)
    (hb' : b.isLeap = false)
    (h : (b.nanoseconds - now.nanoseconds).natAbs ≤ (a.nanoseconds - now.nanoseconds).natAbs) :
    (b.wholeSecondsTo now).natAbs ≤ (a.wholeSecondsTo now).natAbs := by
  have hlt := natAbs_nanosecondsTo_lt ha hn ha' hn'
  rw [← nanosecondsTo_eq_sub ha' hn', ← nanosecondsTo_eq_sub hb' hn'] at h
  rw [natAbs_wholeSecondsTo, natAbs_wholeSecondsTo]
  apply binaryQuotient_thousand_mono (Nat.div_le_div_right h)
  rw [pow_two_53]
  omega

end Distance
end Instant

namespace TimeUnit

theorem seconds_injective : Function.Injective seconds := by
  intro u v h
  cases u <;> cases v <;> first | rfl | exact absurd h (by decide)

theorem seconds_forDistance_mono {m n : Nat} (h : m ≤ n) :
    (forDistance m).seconds ≤ (forDistance n).seconds := by
  simp only [forDistance]
  repeat' split
  all_goals first | decide | omega

end TimeUnit

namespace RelativeTime
open Rounding Instant

/-- The seconds that a relative time stands for. -/
def length (r : RelativeTime) : Nat :=
  r.magnitude * r.unit.seconds

/-- How many of a unit there can be. The next longer unit may be reached, but not passed. -/
def IsUsual : RelativeTime → Prop
  | ⟨magnitude, .second, _⟩ => magnitude < 60
  | ⟨magnitude, .minute, _⟩ => 1 ≤ magnitude ∧ magnitude ≤ 60
  | ⟨magnitude, .hour, _⟩ => 1 ≤ magnitude ∧ magnitude ≤ 24
  | ⟨magnitude, .day, _⟩ => 1 ≤ magnitude

theorem IsUsual.length_le {r : RelativeTime} (h : r.IsUsual) {u : TimeUnit}
    (hu : r.unit.seconds < u.seconds) :
    r.length ≤ u.seconds := by
  obtain ⟨magnitude, unit, past⟩ := r
  cases unit <;> cases u <;> simp only [IsUsual, length, TimeUnit.seconds] at * <;> omega

theorem IsUsual.seconds_le_length {r : RelativeTime} (h : r.IsUsual) (hu : r.unit ≠ .second) :
    r.unit.seconds ≤ r.length := by
  obtain ⟨magnitude, unit, past⟩ := r
  cases unit with
  | second => exact absurd rfl hu
  | minute => exact Nat.le_mul_of_pos_left _ h.1
  | hour => exact Nat.le_mul_of_pos_left _ h.1
  | day => exact Nat.le_mul_of_pos_left _ h

section Seconds
variable {s t : Int} (ht : 2 * t.natAbs < Nat.pow 2 53)
include ht

theorem magnitude_ofSeconds :
    (ofSeconds t).magnitude = quotient t.natAbs (ofSeconds t).unit.seconds :=
  binaryQuotient_of_lt (TimeUnit.seconds_pos _) ht

theorem isUsual_ofSeconds : (ofSeconds t).IsUsual := by
  have hmagnitude := magnitude_ofSeconds ht
  have hunit : (ofSeconds t).unit = TimeUnit.forDistance t.natAbs := rfl
  obtain ⟨hsecond, hminute, hhour, hday⟩ := TimeUnit.forDistance_eq_iff t.natAbs
  generalize ofSeconds t = r at hmagnitude hunit ⊢
  obtain ⟨magnitude, unit, past⟩ := r
  rw [← hunit] at hsecond hminute hhour hday
  -- The last seconds before a border are rounded up to it, and never past it.
  cases unit with
  | second =>
    have hrange := hsecond.mp rfl
    simp only [TimeUnit.seconds, quotient_one] at hmagnitude
    rw [IsUsual]
    omega
  | minute =>
    have hrange := hminute.mp rfl
    simp only [TimeUnit.seconds, quotient] at hmagnitude
    rw [IsUsual]
    omega
  | hour =>
    have hrange := hhour.mp rfl
    simp only [TimeUnit.seconds, quotient] at hmagnitude
    rw [IsUsual]
    omega
  | day =>
    have hrange := hday.mp rfl
    simp only [TimeUnit.seconds, quotient] at hmagnitude
    rw [IsUsual]
    omega

theorem length_ofSeconds_mono (h : s.natAbs ≤ t.natAbs) :
    (ofSeconds s).length ≤ (ofSeconds t).length := by
  have hs : 2 * s.natAbs < Nat.pow 2 53 := by omega
  by_cases hunit : (ofSeconds s).unit = (ofSeconds t).unit
  · rw [length, length, magnitude_ofSeconds hs, magnitude_ofSeconds ht, hunit]
    exact Nat.mul_le_mul_right _ (quotient_mono h _)
  · have hshorter : (ofSeconds s).unit.seconds < (ofSeconds t).unit.seconds :=
      Nat.lt_of_le_of_ne (TimeUnit.seconds_forDistance_mono h) fun heq =>
        hunit (TimeUnit.seconds_injective heq)
    have hlonger : (ofSeconds t).unit ≠ .second := by
      intro hsecond
      rw [hsecond] at hshorter
      exact absurd (TimeUnit.seconds_pos _) (Nat.not_lt.mpr (Nat.le_of_lt_succ hshorter))
    calc
      (ofSeconds s).length ≤ (ofSeconds t).unit.seconds := (isUsual_ofSeconds hs).length_le hshorter
      _ ≤ (ofSeconds t).length := (isUsual_ofSeconds ht).seconds_le_length hlonger

theorem length_ofSeconds_near :
    2 * (((ofSeconds t).length : Int) - t.natAbs).natAbs ≤ (ofSeconds t).unit.seconds := by
  have hnear := (describes_ofSeconds ht).magnitude.1
  rwa [length, Int.natCast_mul, ← Int.natAbs_neg, Int.neg_sub]

end Seconds

theorem ofSeconds_neg (s : Int) :
    ofSeconds (-s) =
      { ofSeconds s with past := if s = 0 then (ofSeconds s).past else !(ofSeconds s).past } := by
  have hpast : decide (-s < 0) = if s = 0 then decide (s < 0) else !decide (s < 0) := by
    split <;> grind
  simp only [ofSeconds, Int.natAbs_neg, hpast]

/-- Relative times grow with the distance from now, are off by half a unit at most, keep to the
usual numbers of each unit and are the same from both sides but for their direction. -/
theorem between_monotone_close_symmetric {now a b : Instant} (hn : now.IsRepresentable)
    (ha : a.IsRepresentable) (hn' : now.isLeap = false) (ha' : a.isLeap = false)
    (hb' : b.isLeap = false) :
    ((b.nanoseconds - now.nanoseconds).natAbs ≤ (a.nanoseconds - now.nanoseconds).natAbs →
        (between b now).length ≤ (between a now).length) ∧
      2 * (((between a now).length : Int) - (a.wholeSecondsTo now).natAbs).natAbs ≤
        (between a now).unit.seconds ∧
      (between a now).IsUsual ∧
      between now a = { between a now with
        past := if a.wholeSecondsTo now = 0 then (between a now).past
          else !(between a now).past } := by
  have hshort : 2 * (a.wholeSecondsTo now).natAbs < Nat.pow 2 53 := by
    have hlt := natAbs_wholeSecondsTo_lt ha hn ha' hn'
    rw [pow_two_53]
    omega
  refine ⟨fun h => ?_, length_ofSeconds_near hshort, isUsual_ofSeconds hshort, ?_⟩
  · exact length_ofSeconds_mono hshort (natAbs_wholeSecondsTo_mono ha' hn' ha hn hb' h)
  · rw [between, wholeSecondsTo_swap ha' hn', ofSeconds_neg]
    rfl

/-- An hour ago is as long as the sixty minutes from now that are a second short of it. -/
theorem between_hour_ago :
    let now : Instant := ⟨1700000000, 0⟩
    let a : Instant := ⟨1699996400, 0⟩
    let b : Instant := ⟨1700003599, 0⟩
    (now.IsRepresentable ∧ a.IsRepresentable ∧ now.isLeap = false ∧ a.isLeap = false ∧
      b.isLeap = false) ∧
      ((b.nanoseconds - now.nanoseconds).natAbs ≤ (a.nanoseconds - now.nanoseconds).natAbs ∧
        (between b now).length ≤ (between a now).length) ∧
      2 * (((between a now).length : Int) - (a.wholeSecondsTo now).natAbs).natAbs ≤
      (between a now).unit.seconds ∧ (between a now).IsUsual ∧
      between now a = { between a now with
        past := if a.wholeSecondsTo now = 0 then (between a now).past
          else !(between a now).past } := by
  intro now a b
  have h := @between_monotone_close_symmetric now a b (by decide) (by decide) rfl rfl rfl
  exact ⟨by decide, ⟨by decide, h.1 (by decide)⟩, h.2⟩

end RelativeTime
end TimeMarkup
