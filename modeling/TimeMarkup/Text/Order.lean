/-!
The order of texts, character by character; a text comes before all texts that go on after it.
-/

namespace TimeMarkup.Text

/-- Whether the first text comes before the second or is the same. -/
def le : List Char → List Char → Bool
  | [], _ => true
  | _ :: _, [] => false
  | a :: as, b :: bs => if a = b then le as bs else a.toNat < b.toNat

@[simp] theorem le_refl (cs : List Char) : le cs cs = true := by
  induction cs with
  | nil => rfl
  | cons c cs ih => simp [le, ih]

theorem le_total (as bs : List Char) : (le as bs || le bs as) = true := by
  induction as generalizing bs with
  | nil => rfl
  | cons a as ih =>
    cases bs with
    | nil => rfl
    | cons b bs =>
      simp only [le]
      by_cases h : a = b
      · simpa [h] using ih bs
      · have hn : a.toNat ≠ b.toNat := fun hn => h (Char.toNat_inj.mp hn)
        simp only [h, Ne.symm h, if_false, Bool.or_eq_true, decide_eq_true_eq]
        omega

end TimeMarkup.Text
