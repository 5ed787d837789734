import TimeMarkup.Proofs.Time.Quotients
import TimeMarkup.Time.Relative

/-!
# Relative times as exactly rounded distances

The distance between two instants goes through milliseconds and two quotients with 53 binary digits.
It comes out as if it had been rounded once, save for distances of more than 285000 years that miss
half a second by less than a millisecond: their milliseconds have one digit too many, and are
rounded up to the half.
-/

namespace TimeMarkup
namespace Rounding

/-- The integer nearest to `n / d`; of two such integers the one farther from zero. -/
def IsNearest (n : Int) (d : Nat) (s : Int) : Prop :=
  2 * (n - s * d).natAbs ≤ d ∧ (2 * (n - s * d).natAbs = d → n.natAbs < (s * d).natAbs)

instance (n : Int) (d : Nat) (s : Int) : Decidable (IsNearest n d s) :=
  inferInstanceAs (Decidable (_ ∧ (_ → _)))

theorem isNearest_quotient {d : Nat} (hd : 0 < d) (n : Nat) : IsNearest n d (quotient n d) := by
  have hle := (le_quotient_iff hd n (quotient n d)).mp (Nat.le_refl _)
  have hlt := mt (le_quotient_iff hd n (quotient n d + 1)).mpr (Nat.not_succ_le_self _)
  rw [Nat.add_mul] at hlt
  rw [IsNearest, ← Int.natCast_mul]
  omega

theorem IsNearest.neg {n : Int} {d : Nat} {s : Int} (h : IsNearest n d s) :
    IsNearest (-n) d (-s) := by
  rw [IsNearest, Int.neg_mul] at *
  omega

theorem isNearest_sign_mul {d : Nat} (hd : 0 < d) (n : Int) :
    IsNearest n d (n.sign * quotient n.natAbs d) := by
  have h := isNearest_quotient hd n.natAbs
  rcases Int.lt_trichotomy n 0 with hn | rfl | hn
  · rw [Int.sign_eq_neg_one_of_neg hn, Int.neg_one_mul]
    have hneg := h.neg
    rwa [show -(n.natAbs : Int) = n by omega] at hneg
  · simpa [IsNearest] using Nat.ne_of_lt hd
  · rw [Int.sign_eq_one_of_pos hn, Int.one_mul]
    rwa [show (n.natAbs : Int) = n by omega] at h

theorem pow_two_53 : Nat.pow 2 53 = 9007199254740992 := rfl

/-- Of numbers with one binary digit too many, odd ones are rounded to a multiple of four. As a
thousand is one too, only those next to a half are rounded up to it. -/
theorem binaryQuotient_thousand {n : Nat} (hn : n + 1 < 2 * Nat.pow 2 53) :
    binaryQuotient 53 n 1000 = quotient n 1000 + if Nat.pow 2 53 ≤ n ∧
      n % 1000 = 499 then 1 else 0 := by
  have hexact {m g : Nat} (hg : g ∣ 1000) (hgm : g ∣ 2 * m) (hm : m < 2 * Nat.pow 2 53)
      (hmg : 2 * m < g * Nat.pow 2 53) :
      quotient (significantQuotient 53 m 1000).1 (significantQuotient 53 m 1000).2 =
        quotient m 1000 := by
    refine quotient_significantQuotient (by decide) hg hgm hmg ?_
    have hlog : m.log2 < 54 := by
      rcases Nat.eq_zero_or_pos m with rfl | hpos
      · decide
      · exact (Nat.log2_lt (by omega)).mpr hm
    have hthousand : Nat.log2 1000 = 9 := by decide
    omega
  rw [binaryQuotient]
  rcases Nat.lt_or_ge n (Nat.pow 2 53) with hshort | hlong
  · rw [significant_of_lt hshort, if_neg (by omega)]
    exact hexact (g := 2) (by decide) (Nat.dvd_mul_right 2 n) (by omega) (by omega)
  · have hfour := toMultiple_two n
    rw [significant_of_one_more hlong (by omega)]
    generalize toMultiple 2 n = m at *
    rw [pow_two_53] at *
    have heven : m % 2 = 0 ∧ m < 2 * 9007199254740992 := by
      repeat' split at hfour
      all_goals omega
    refine (hexact (g := 4) (by decide) (by omega) heven.2 (by omega)).trans ?_
    simp only [quotient]
    repeat' split at hfour
    all_goals split <;> omega

end Rounding

namespace Instant
open Rounding

/-- Nanoseconds since 1970-01-01T00:00:00Z, for instants outside leap seconds. -/
def nanoseconds (i : Instant) : Int :=
  1000000000 * i.seconds + i.nanos

/-- A distance whose milliseconds have more than 53 binary digits and are the last before a half of
a second. -/
def IsCarried (distance : Int) : Prop :=
  Nat.pow 2 53 ≤ distance.natAbs / 1000000 ∧ distance.natAbs / 1000000 % 1000 = 499

instance (distance : Int) : Decidable (IsCarried distance) :=
  inferInstanceAs (Decidable (_ ∧ _))

theorem IsRepresentable.seconds_mem {i : Instant} (h : i.IsRepresentable) :
    -8334601228800 ≤ i.seconds ∧ i.seconds ≤ 8210266876799 := by
  have hday := h.1
  simp only [hasDay, Bool.and_eq_true, decide_eq_true_eq] at hday
  have hfirst : firstDay = -96465292 := by decide
  have hlast : lastDay = 95026236 := by decide
  rw [dayNumber] at hday
  omega

/-- Cutting a distance to milliseconds leaves its rounding to seconds as it is. -/
theorem quotient_milliseconds (n : Nat) : quotient (n / 1000000) 1000 = quotient n 1000000000 := by
  simp only [quotient]
  omega

theorem sign_tdiv {d : Int} {n : Nat} (h : 0 < d.natAbs / n) : (d.tdiv n).sign = d.sign := by
  have hquotient : (0 : Int) < (d.natAbs / n : Nat) := Int.natCast_pos.mpr h
  have hpos : 0 < d.natAbs := Nat.pos_of_ne_zero fun h0 => by simp [h0] at h
  rcases Int.natAbs_eq d with hd | hd
  · have hdiv : d.tdiv n = (d.natAbs / n : Nat) := by
      rw [hd]
      rfl
    rw [hdiv, Int.sign_eq_one_of_pos hquotient, Int.sign_eq_one_of_pos (by omega)]
  · have hdiv : d.tdiv n = -((d.natAbs / n : Nat) : Int) := by
      rw [hd, Int.neg_tdiv, Int.natAbs_neg]
      rfl
    rw [hdiv, Int.sign_neg, Int.sign_eq_one_of_pos hquotient, Int.sign_eq_neg_one_of_neg (by omega)]

theorem sign_mul_binaryQuotient_milliseconds {d : Int} (hd : d.natAbs < 16544868105600000000000) :
    (d.tdiv 1000000).sign * (binaryQuotient 53 (d.tdiv 1000000).natAbs 1000 : Nat) =
      if IsCarried d then d.sign * (quotient d.natAbs 1000000000 : Nat) + d.sign
      else d.sign * (quotient d.natAbs 1000000000 : Nat) := by
  have hms : (d.tdiv 1000000).natAbs = d.natAbs / 1000000 := Int.natAbs_tdiv d 1000000
  have hquotient : binaryQuotient 53 (d.natAbs / 1000000) 1000 =
      quotient (d.natAbs / 1000000) 1000 + if IsCarried d then 1 else 0 :=
    binaryQuotient_thousand (by rw [pow_two_53]; omega)
  rw [quotient_milliseconds] at hquotient
  rw [hms, hquotient]
  rcases Nat.eq_zero_or_pos (d.natAbs / 1000000) with hzero | hpos
  · -- Less than a millisecond: both sides are zero.
    have hnone : ¬ IsCarried d := by
      rw [IsCarried, hzero]
      decide
    have hsmall : quotient d.natAbs 1000000000 = 0 := Nat.div_eq_of_lt (by omega)
    rw [if_neg hnone, if_neg hnone, hsmall]
    simp
  · rw [show (1000000 : Int) = (1000000 : Nat) from rfl, sign_tdiv hpos]
    by_cases hcarried : IsCarried d
    · rw [if_pos hcarried, if_pos hcarried, Int.natCast_add, Int.mul_add, Int.natCast_one,
        Int.mul_one]
    · rw [if_neg hcarried, if_neg hcarried, Nat.add_zero]

section Distance
variable {target now : Instant} (ht : target.IsRepresentable) (hn : now.IsRepresentable)
  (ht' : target.isLeap = false) (hn' : now.isLeap = false)
include ht' hn'

theorem nanosecondsTo_eq_sub : target.nanosecondsTo now = target.nanoseconds - now.nanoseconds := by
  simp only [nanosecondsTo, ht', hn', Bool.false_eq_true, if_false, ite_self, nanoseconds]
  omega

include ht hn

theorem natAbs_nanosecondsTo_lt : (target.nanosecondsTo now).natAbs < 16544868105600000000000 := by
  have htarget := ht.seconds_mem
  have hnow := hn.seconds_mem
  rw [nanosecondsTo_eq_sub ht' hn']
  simp only [isLeap, decide_eq_false_iff_not] at ht' hn'
  simp only [nanoseconds]
  omega

theorem wholeSecondsTo_nearest :
    let d := target.nanoseconds - now.nanoseconds
    ∃ e, IsNearest d 1000000000 e ∧ target.wholeSecondsTo now = if IsCarried d then e + d.sign
      else e := by
  intro d
  have hlt := natAbs_nanosecondsTo_lt ht hn ht' hn'
  rw [nanosecondsTo_eq_sub ht' hn'] at hlt
  refine ⟨_, isNearest_sign_mul (by decide) d, ?_⟩
  rw [wholeSecondsTo, nanosecondsTo_eq_sub ht' hn']
  exact sign_mul_binaryQuotient_milliseconds hlt

theorem natAbs_wholeSecondsTo_lt : (target.wholeSecondsTo now).natAbs < 16544868105602 := by
  obtain ⟨e, he, hs⟩ := wholeSecondsTo_nearest ht hn ht' hn'
  have hlt := natAbs_nanosecondsTo_lt ht hn ht' hn'
  rw [nanosecondsTo_eq_sub ht' hn'] at hlt
  have hsign := Int.sign_trichotomy (target.nanoseconds - now.nanoseconds)
  have hnear := he.1
  split at hs <;> omega

end Distance
end Instant

namespace TimeUnit

theorem forDistance_eq_iff (n : Nat) :
    (forDistance n = second ↔ n < 60) ∧ (forDistance n = minute ↔ 60 ≤ n ∧ n < 3600) ∧
      (forDistance n = hour ↔ 3600 ≤ n ∧ n < 86400) ∧ (forDistance n = day ↔ 86400 ≤ n) := by
  unfold forDistance
  repeat' split
  all_goals simp only [reduceCtorEq, true_iff, false_iff]; omega

/-- The noun that goes with a number of units. -/
def noun : TimeUnit → Nat → String
  | second, 1 => "second"
  | second, _ => "seconds"
  | minute, 1 => "minute"
  | minute, _ => "minutes"
  | hour, 1 => "hour"
  | hour, _ => "hours"
  | day, 1 => "day"
  | day, _ => "days"

end TimeUnit

namespace RelativeTime
open Rounding Instant

/-- The relative time says how far away an instant is that many whole seconds from now. -/
structure Describes (r : RelativeTime) (s : Int) : Prop where
  second : r.unit = .second ↔ s.natAbs < 60
  minute : r.unit = .minute ↔ 60 ≤ s.natAbs ∧ s.natAbs < 3600
  hour : r.unit = .hour ↔ 3600 ≤ s.natAbs ∧ s.natAbs < 86400
  day : r.unit = .day ↔ 86400 ≤ s.natAbs
  magnitude : IsNearest s.natAbs r.unit.seconds r.magnitude
  past : r.past = true ↔ s < 0
  text : r.text = Nat.toDigits 10 r.magnitude ++ ' ' :: (r.unit.noun r.magnitude).toList ++
    ' ' :: (if r.past then "ago" else "from now").toList

theorem text_eq (r : RelativeTime) :
    r.text = Nat.toDigits 10 r.magnitude ++ ' ' :: (r.unit.noun r.magnitude).toList ++
      ' ' :: (if r.past then "ago" else "from now").toList := by
  obtain ⟨magnitude, unit, past⟩ := r
  have hnoun : (unit.noun magnitude).toList =
      unit.name.toList ++ (if magnitude = 1 then [] else ['s']) := by
    by_cases h : magnitude = 1
    · subst h
      cases unit <;> rfl
    · cases unit <;> simp [TimeUnit.noun, TimeUnit.name, h]
  have hsuffix : (if past then " ago" else " from now").toList =
      ' ' :: (if past then "ago" else "from now").toList := by
    cases past <;> rfl
  simp only [RelativeTime.text, hnoun, hsuffix, List.cons_append, List.append_assoc]

theorem describes_ofSeconds {s : Int} (hs : 2 * s.natAbs < Nat.pow 2 53) :
    (ofSeconds s).Describes s where
  second := (TimeUnit.forDistance_eq_iff s.natAbs).1
  minute := (TimeUnit.forDistance_eq_iff s.natAbs).2.1
  hour := (TimeUnit.forDistance_eq_iff s.natAbs).2.2.1
  day := (TimeUnit.forDistance_eq_iff s.natAbs).2.2.2
  magnitude := by
    have hunit := (TimeUnit.forDistance s.natAbs).seconds_pos
    rw [ofSeconds, binaryQuotient_of_lt hunit hs]
    exact isNearest_quotient hunit s.natAbs
  past := by simp [ofSeconds]
  text := text_eq _

/-- A relative time is the exactly rounded distance of two instants, save for the distances that are
carried to the next half of a second. -/
theorem between_describes_nearest {target now : Instant} (ht : target.IsRepresentable)
    (hn : now.IsRepresentable) (ht' : target.isLeap = false) (hn' : now.isLeap = false) :
    let d := target.nanoseconds - now.nanoseconds
    let s := target.wholeSecondsTo now
    (∃ e, IsNearest d 1000000000 e ∧ s = if IsCarried d then e + d.sign else e) ∧
      (between target now).Describes s := by
  refine ⟨wholeSecondsTo_nearest ht hn ht' hn', describes_ofSeconds ?_⟩
  have hlt := natAbs_wholeSecondsTo_lt ht hn ht' hn'
  rw [pow_two_53]
  omega

/-- From the last instant back to the first one. -/
theorem between_longest :
    let first : Instant := ⟨-8334601228800, 0⟩
    let last : Instant := ⟨8210266876799, 999999999⟩
    let d := first.nanoseconds - last.nanoseconds
    let s := first.wholeSecondsTo last
    (first.IsRepresentable ∧ last.IsRepresentable ∧ first.isLeap = false ∧ last.isLeap = false) ∧
      (∃ e, IsNearest d 1000000000 e ∧ s = if IsCarried d then e + d.sign else e) ∧
      (between first last).Describes s :=
  ⟨by decide, between_describes_nearest (by decide) (by decide) rfl rfl⟩

/-- A distance of 12960000043199.499 s comes out a second longer, which makes it a day longer. -/
theorem wholeSecondsTo_carried :
    let target : Instant := ⟨6480000043199, 499000000⟩
    let now : Instant := ⟨-6480000000000, 0⟩
    (target.IsRepresentable ∧ now.IsRepresentable ∧ target.isLeap = false ∧ now.isLeap = false) ∧
      IsNearest (target.nanoseconds - now.nanoseconds) 1000000000 12960000043199 ∧
      target.wholeSecondsTo now = 12960000043200 ∧
      ¬ IsNearest (target.nanoseconds - now.nanoseconds) 1000000000 (target.wholeSecondsTo now) ∧
      (between target now).text = "150000001 days from now".toList := by
  decide +kernel

end RelativeTime
end TimeMarkup
