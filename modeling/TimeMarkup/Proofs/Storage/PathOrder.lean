import TimeMarkup.Proofs.Text.Splitting
import TimeMarkup.Storage.Path

/-!
# The order of paths

Paths are compared by their components, in which doubled slashes and inner dots do not count. They
are ordered so that of two paths one comes before the other unless they are the same path.
-/

namespace TimeMarkup

theorem Text.le_trans {as bs cs : List Char} (h : le as bs = true) (h' : le bs cs = true) :
    le as cs = true := by
  induction as generalizing bs cs with
  | nil => rfl
  | cons a as ih =>
    cases bs with
    | nil => cases h
    | cons b bs =>
      cases cs with
      | nil => cases h'
      | cons c cs =>
        simp only [le] at h h' ⊢
        by_cases hab : a = b
        · subst hab
          rw [if_pos rfl] at h
          split at h'
          · rw [if_pos ‹_›]
            exact ih h h'
          · rw [if_neg ‹_›]
            exact h'
        · rw [if_neg hab, decide_eq_true_iff] at h
          split at h'
          · rename_i hbc
            rw [← hbc, if_neg hab, decide_eq_true_iff]
            exact h
          · rw [decide_eq_true_iff] at h'
            rw [if_neg (by rintro rfl; omega), decide_eq_true_iff]
            omega

theorem Text.le_antisymm {as bs : List Char} (h : le as bs = true) (h' : le bs as = true) :
    as = bs := by
  induction as generalizing bs with
  | nil =>
    cases bs with
    | nil => rfl
    | cons b bs => cases h'
  | cons a as ih =>
    cases bs with
    | nil => cases h
    | cons b bs =>
      simp only [le] at h h'
      by_cases hab : a = b
      · subst hab
        rw [if_pos rfl] at h h'
        rw [ih h h']
      · rw [if_neg hab, decide_eq_true_iff] at h
        rw [if_neg (Ne.symm hab), decide_eq_true_iff] at h'
        omega

namespace Path
namespace Component
variable {a b c : Component}

theorem le_trans (h : a.le b = true) (h' : b.le c = true) : a.le c = true := by
  cases a <;> cases b <;> cases c <;> simp_all [le, rank]
  exact Text.le_trans h h'

theorem le_total (a b : Component) : (a.le b || b.le a) = true := by
  cases a <;> cases b <;> simp [le, rank]
  simpa using Text.le_total _ _

theorem le_antisymm (h : a.le b = true) (h' : b.le a = true) : a = b := by
  cases a <;> cases b <;> simp_all [le, rank]
  exact Text.le_antisymm h h'

end Component

theorem leComponents_trans {as bs cs : List Component} (h : leComponents as bs = true)
    (h' : leComponents bs cs = true) : leComponents as cs = true := by
  induction as generalizing bs cs with
  | nil => rfl
  | cons a as ih =>
    cases bs with
    | nil => cases h
    | cons b bs =>
      cases cs with
      | nil => cases h'
      | cons c cs =>
        simp only [leComponents] at h h' ⊢
        by_cases hab : a = b
        · subst hab
          rw [if_pos rfl] at h
          split at h'
          · rw [if_pos ‹_›]
            exact ih h h'
          · rw [if_neg ‹_›]
            exact h'
        · rw [if_neg hab] at h
          split at h'
          · rename_i hbc
            rw [← hbc, if_neg hab]
            exact h
          · have hac : a ≠ c := by
              rintro rfl
              exact hab (Component.le_antisymm h h')
            rw [if_neg hac]
            exact Component.le_trans h h'

theorem leComponents_total (as bs : List Component) :
    (leComponents as bs || leComponents bs as) = true := by
  induction as generalizing bs with
  | nil => rfl
  | cons a as ih =>
    cases bs with
    | nil => rfl
    | cons b bs =>
      simp only [leComponents]
      by_cases h : a = b
      · simpa [h] using ih bs
      · rw [if_neg h, if_neg (Ne.symm h)]
        exact Component.le_total a b

theorem le_trans {p q r : Path} (h : p.le q = true) (h' : q.le r = true) : p.le r = true :=
  leComponents_trans h h'

theorem le_total (p q : Path) : (p.le q || q.le p) = true :=
  leComponents_total p.components q.components

theorem same_symm {p q : Path} (h : p.same q = true) : q.same p = true :=
  same_iff.mpr (same_iff.mp h).symm

theorem same_trans {p q r : Path} (h : p.same q = true) (h' : q.same r = true) : p.same r = true :=
  same_iff.mpr ((same_iff.mp h).trans (same_iff.mp h'))

theorem steps_append_slash (p q : Path) :
    (p ++ '/' :: q).steps = (Text.words (· == '/') p).map Step.of ++ steps ('/' :: q) := by
  have hwords (p : Path) : Text.words (· == '/') (p ++ '/' :: q) =
      Text.words (· == '/') p ++ Text.words (· == '/') q := Text.words_append rfl p q
  have hend : hasTrailingSlash (p ++ '/' :: q) = hasTrailingSlash ('/' :: q) := by
    simp [hasTrailingSlash, List.getLast?_append]
  rw [steps, steps, hend, hwords, ← List.nil_append ('/' :: q), hwords, List.map_append,
    List.append_assoc]
  rfl

theorem isAbsolute_append_slash (p q : Path) :
    (p ++ '/' :: q).isAbsolute = (p.isEmpty || p.isAbsolute) := by
  cases p <;> rfl

/-- A slash more between two entries does not count. -/
theorem same_of_doubled_slash (p q : Path) :
    (p ++ '/' :: '/' :: q).same (p ++ '/' :: q) = true := by
  have hsteps : steps ('/' :: '/' :: q) = steps ('/' :: q) := steps_append_slash ['/'] q
  rw [same_iff, components, components, steps_append_slash, steps_append_slash, hsteps,
    isAbsolute_append_slash, isAbsolute_append_slash]

/-- Neither does a step to the same directory between two entries. -/
theorem same_of_inner_dot (p q : Path) :
    (p ++ '/' :: '.' :: '/' :: q).same (p ++ '/' :: q) = true := by
  have hsteps : steps ('/' :: '.' :: '/' :: q) = .here :: steps ('/' :: q) :=
    steps_append_slash ['/', '.'] q
  rw [same_iff, components, components, steps_append_slash, steps_append_slash p q, hsteps,
    isAbsolute_append_slash, isAbsolute_append_slash]
  cases p with
  | nil => simp [Component.ofStep]
  | cons c p =>
    by_cases hc : c = '/'
    · simp [isAbsolute, hc, Component.ofStep]
    · have hwords := Text.words_cons_ne_nil (p := (· == '/')) (beq_false_of_ne hc) p
      obtain ⟨w, ws, hfront⟩ := List.exists_cons_of_ne_nil hwords
      have hrelative : isAbsolute (c :: p) = false := by simp [isAbsolute, hc]
      rw [hfront, hrelative]
      cases hw : Step.of w <;> simp [hw, Component.ofStep]

example : same "a//b".toList "a/./b".toList = true ∧ same "a/./b".toList "a/b".toList = true ∧
    same "./a".toList "a".toList = false := by decide

end Path
end TimeMarkup
