/-!
Places in a text, counted in the bytes that its characters take. A character is never cut: the bytes
in front of a place hold the characters that end there or before, and those after it the ones that
start there.
-/

namespace TimeMarkup.Text

def byteLength (cs : List Char) : Nat :=
  cs.foldl (fun n c => n + c.utf8Size) 0

/-- The characters that end within the first `n` bytes. -/
def takeBytes : Nat → List Char → List Char
  | _, [] => []
  | n, c :: cs => if c.utf8Size ≤ n then c :: takeBytes (n - c.utf8Size) cs else []

/-- The characters that start after the first `n` bytes. -/
def dropBytes : Nat → List Char → List Char
  | _, [] => []
  | 0, cs => cs
  | n + 1, c :: cs => dropBytes (n + 1 - c.utf8Size) cs

/-- The text cut after its first `n` bytes. No cut goes through a character or lies after the
end. -/
def cut? : Nat → List Char → Option (List Char × List Char)
  | 0, cs => some ([], cs)
  | _ + 1, [] => none
  | n + 1, c :: cs =>
    if c.utf8Size ≤ n + 1 then
      (cut? (n + 1 - c.utf8Size) cs).map fun (before, after) => (c :: before, after)
    else none

/-- Two places in a text. -/
structure Span where
  start : Nat
  stop : Nat
  deriving DecidableEq

/-- The characters between two places, the second of which must not lie before the first. -/
def slice? (span : Span) (cs : List Char) : Option (List Char) :=
  if span.start ≤ span.stop then
    (cut? span.start cs).bind fun (_, after) =>
      (cut? (span.stop - span.start) after).map fun (taken, _) => taken
  else none

def sliceFrom? (start : Nat) (cs : List Char) : Option (List Char) :=
  (cut? start cs).map fun (_, after) => after

@[simp] theorem byteLength_nil : byteLength [] = 0 := rfl

theorem byteLength_cons (c : Char) (cs : List Char) :
    byteLength (c :: cs) = c.utf8Size + byteLength cs := by
  have shift : ∀ (ds : List Char) (n : Nat),
      ds.foldl (fun n c => n + c.utf8Size) n = n + ds.foldl (fun n c => n + c.utf8Size) 0 := by
    intro ds
    induction ds with
    | nil => intro n; rfl
    | cons d ds ih =>
      intro n
      rw [List.foldl_cons, List.foldl_cons, ih, ih (0 + d.utf8Size)]
      omega
  rw [byteLength, List.foldl_cons, shift, byteLength]
  omega

@[simp] theorem byteLength_append (as bs : List Char) :
    byteLength (as ++ bs) = byteLength as + byteLength bs := by
  induction as with
  | nil => simp
  | cons a as ih =>
    rw [List.cons_append, byteLength_cons, byteLength_cons, ih]
    omega

theorem byteLength_pos {cs : List Char} (h : cs ≠ []) : 0 < byteLength cs := by
  cases cs with
  | nil => exact absurd rfl h
  | cons c cs =>
    have := c.utf8Size_pos
    rw [byteLength_cons]
    omega

theorem cut?_eq_some_iff {n : Nat} {cs as bs : List Char} :
    cut? n cs = some (as, bs) ↔ cs = as ++ bs ∧ n = byteLength as := by
  fun_induction cut? n cs generalizing as bs with
  | case1 cs =>
    constructor
    · intro h
      simp only [Option.some.injEq, Prod.mk.injEq] at h
      obtain ⟨rfl, rfl⟩ := h
      simp
    · rintro ⟨h, hn⟩
      cases as with
      | nil => simp [h]
      | cons a as =>
        have := byteLength_pos (List.cons_ne_nil a as)
        omega
  | case2 n =>
    simp only [reduceCtorEq, false_iff, not_and]
    intro h
    obtain ⟨rfl, rfl⟩ := List.append_eq_nil_iff.mp h.symm
    simp
  | case3 n c cs hc ih =>
    simp only [Option.map_eq_some_iff, Prod.exists, Prod.mk.injEq]
    constructor
    · rintro ⟨before, after, h, rfl, rfl⟩
      obtain ⟨rfl, hn⟩ := ih.mp h
      rw [byteLength_cons]
      exact ⟨rfl, by omega⟩
    · rintro ⟨h, hn⟩
      cases as with
      | nil => simp at hn
      | cons a as =>
        rw [List.cons_append, List.cons.injEq] at h
        obtain ⟨rfl, rfl⟩ := h
        rw [byteLength_cons] at hn
        exact ⟨as, bs, ih.mpr ⟨rfl, by omega⟩, rfl, rfl⟩
  | case4 n c cs hc =>
    simp only [reduceCtorEq, false_iff, not_and]
    intro h hn
    cases as with
    | nil => simp at hn
    | cons a as =>
      rw [List.cons_append, List.cons.injEq] at h
      rw [byteLength_cons, ← h.1] at hn
      omega

theorem slice?_eq_some_iff {span : Span} {cs taken : List Char} :
    slice? span cs = some taken ↔ ∃ before after, cs = before ++ taken ++ after ∧
      span = ⟨byteLength before, byteLength before + byteLength taken⟩ := by
  obtain ⟨start, stop⟩ := span
  simp only [slice?, Option.ite_none_right_eq_some, Option.bind_eq_some_iff, Option.map_eq_some_iff,
    Prod.exists, cut?_eq_some_iff, Span.mk.injEq]
  constructor
  · rintro ⟨hle, before, _, ⟨rfl, rfl⟩, _, after, ⟨rfl, hn⟩, rfl⟩
    exact ⟨before, after, by simp, rfl, by omega⟩
  · rintro ⟨before, after, rfl, rfl, rfl⟩
    exact ⟨by omega, before, taken ++ after, ⟨by simp, rfl⟩, taken, after, ⟨rfl, by omega⟩, rfl⟩

theorem slice?_append (before taken after : List Char) :
    slice? ⟨byteLength before, byteLength before + byteLength taken⟩ (before ++ taken ++ after) =
      some taken :=
  slice?_eq_some_iff.mpr ⟨before, after, rfl, rfl⟩

theorem sliceFrom?_append (before after : List Char) :
    sliceFrom? (byteLength before) (before ++ after) = some after := by
  rw [sliceFrom?, cut?_eq_some_iff.mpr ⟨rfl, rfl⟩]
  rfl

@[simp] theorem dropBytes_zero (cs : List Char) : dropBytes 0 cs = cs := by
  cases cs <;> rfl

theorem takeBytes_append (as bs : List Char) : takeBytes (byteLength as) (as ++ bs) = as := by
  induction as with
  | nil =>
    cases bs with
    | nil => rfl
    | cons b bs => simp [takeBytes, Nat.not_le.mpr b.utf8Size_pos]
  | cons a as ih => simp [takeBytes, byteLength_cons, ih]

theorem dropBytes_append (as bs : List Char) : dropBytes (byteLength as) (as ++ bs) = bs := by
  induction as with
  | nil => simp
  | cons a as ih =>
    have := a.utf8Size_pos
    obtain ⟨n, hn⟩ : ∃ n, byteLength (a :: as) = n + 1 :=
      ⟨byteLength (a :: as) - 1, by rw [byteLength_cons]; omega⟩
    rw [hn, List.cons_append, dropBytes, ← hn, byteLength_cons, Nat.add_sub_cancel_left, ih]

end TimeMarkup.Text
