import Mathlib.Data.List.Basic
import TimeMarkup.Text.Split

/-!
# Fields and words of a text

The first field of a text ends at its first separator. Words are the fields that are not empty, so
that separators in front of a text do not matter.
-/

namespace TimeMarkup.Text

variable {p : Char → Bool} {c : Char} {cs : List Char}

theorem fields_cons_of_separator (h : p c = true) (cs : List Char) :
    fields p (c :: cs) = [] :: fields p cs := by
  rw [fields, if_pos h]

theorem fields_cons_of_not_separator {w : List Char} {ws : List (List Char)} (h : p c = false)
    (hcs : fields p cs = w :: ws) : fields p (c :: cs) = (c :: w) :: ws := by
  rw [fields, if_neg (by simp [h])]
  simp only [hcs]

theorem fields_of_no_separator (h : ∀ c ∈ cs, p c = false) : fields p cs = [cs] := by
  induction cs with
  | nil => rfl
  | cons c cs ih =>
    rw [List.forall_mem_cons] at h
    exact fields_cons_of_not_separator h.1 (ih h.2)

theorem fields_append (hc : p c = true) (cs rest : List Char) :
    fields p (cs ++ c :: rest) = fields p cs ++ fields p rest := by
  induction cs with
  | nil => exact fields_cons_of_separator hc rest
  | cons d cs ih =>
    by_cases hd : p d = true
    · rw [List.cons_append, fields_cons_of_separator hd, ih, fields_cons_of_separator hd,
        List.cons_append]
    · rw [Bool.not_eq_true] at hd
      obtain ⟨w, ws, hcs⟩ := List.exists_cons_of_ne_nil (fields_ne_nil p cs)
      rw [hcs, List.cons_append] at ih
      rw [List.cons_append, fields_cons_of_not_separator hd ih, fields_cons_of_not_separator hd hcs,
        List.cons_append]

theorem fields_append_separator (hcs : ∀ d ∈ cs, p d = false) (hc : p c = true) (rest : List Char) :
    fields p (cs ++ c :: rest) = cs :: fields p rest := by
  rw [fields_append hc, fields_of_no_separator hcs, List.singleton_append]

/-- Texts without separators are the fields of what they make with separators between them. -/
theorem fields_joined {w : List Char} {ws : List (List Char)}
    (h : ∀ v ∈ w :: ws, ∀ d ∈ v, p d = false) (hc : p c = true) :
    fields p (joined [c] (w :: ws)) = w :: ws := by
  induction ws generalizing w with
  | nil => exact fields_of_no_separator (h w List.mem_cons_self)
  | cons v ws ih =>
    rw [List.forall_mem_cons] at h
    have hjoined : joined [c] (w :: v :: ws) = w ++ c :: joined [c] (v :: ws) := by
      rw [joined, List.append_assoc, List.singleton_append]
      exact List.cons_ne_nil v ws
    rw [hjoined, fields_append_separator h.1 hc, ih h.2]

theorem mem_joined {separator : List Char} {ws : List (List Char)} (h : c ∈ joined separator ws) :
    c ∈ separator ∨ ∃ w ∈ ws, c ∈ w := by
  induction ws with
  | nil => cases h
  | cons w ws ih =>
    cases ws with
    | nil => exact .inr ⟨w, List.mem_cons_self, h⟩
    | cons v ws =>
      rw [joined, List.mem_append, List.mem_append] at h
      · rcases h with (h | h) | h
        · exact .inr ⟨w, List.mem_cons_self, h⟩
        · exact .inl h
        · obtain hseparator | ⟨u, hu, hc⟩ := ih h
          · exact .inl hseparator
          · exact .inr ⟨u, List.mem_cons_of_mem w hu, hc⟩
      · exact List.cons_ne_nil v ws

theorem words_of_no_separator (h : ∀ c ∈ cs, p c = false) :
    words p cs = [cs].filter (!·.isEmpty) := by
  rw [words, fields_of_no_separator h]

theorem words_append (hc : p c = true) (cs rest : List Char) :
    words p (cs ++ c :: rest) = words p cs ++ words p rest := by
  rw [words, fields_append hc, List.filter_append, words, words]

theorem words_cons_ne_nil (hc : p c = false) (cs : List Char) : words p (c :: cs) ≠ [] := by
  obtain ⟨w, ws, hcs⟩ := List.exists_cons_of_ne_nil (fields_ne_nil p cs)
  rw [words, fields_cons_of_not_separator hc hcs]
  simp

theorem words_append_separator (hcs : ∀ d ∈ cs, p d = false) (hc : p c = true) (rest : List Char) :
    words p (cs ++ c :: rest) = [cs].filter (!·.isEmpty) ++ words p rest := by
  rw [words_append hc, words_of_no_separator hcs]

theorem words_append_of_separators {front : List Char} (h : ∀ c ∈ front, p c = true)
    (cs : List Char) :
    words p (front ++ cs) = words p cs := by
  induction front with
  | nil => rfl
  | cons c front ih =>
    rw [List.forall_mem_cons] at h
    have hwords := @words_append_separator p c [] nofun h.1 (front ++ cs)
    rw [ih h.2] at hwords
    exact hwords

theorem words_joined {ws : List (List Char)} (h : ∀ w ∈ ws, w ≠ [] ∧ ∀ d ∈ w, p d = false)
    (hc : p c = true) :
    words p (joined [c] ws) = ws := by
  cases ws with
  | nil => rfl
  | cons w ws =>
    rw [words, fields_joined (fun v hv => (h v hv).2) hc, List.filter_eq_self]
    exact fun v hv => by simpa using (h v hv).1

/-! ## Parting at a character -/

theorem append_cons_inj {xs xs' ys ys' : List Char} {c : Char} (h : xs ++ c :: ys = xs' ++ c :: ys')
    (hxs : c ∉ xs) (hxs' : c ∉ xs') : xs = xs' ∧ ys = ys' := by
  rcases List.append_eq_append_iff.mp h with ⟨zs, rfl, hys⟩ | ⟨zs, rfl, hys⟩
  · cases zs with
    | nil => exact ⟨(List.append_nil xs).symm, (List.cons.inj hys).2⟩
    | cons z zs =>
      rw [List.cons_append, List.cons.injEq] at hys
      exact absurd (List.mem_append_right xs (hys.1 ▸ List.mem_cons_self)) hxs'
  · cases zs with
    | nil => exact ⟨List.append_nil xs', (List.cons.inj hys).2.symm⟩
    | cons z zs =>
      rw [List.cons_append, List.cons.injEq] at hys
      exact absurd (List.mem_append_right xs' (hys.1 ▸ List.mem_cons_self)) hxs

theorem append_cons_inj_right {xs xs' ys ys' : List Char} {c : Char}
    (h : xs ++ c :: ys = xs' ++ c :: ys') (hys : c ∉ ys) (hys' : c ∉ ys') :
    xs = xs' ∧ ys = ys' := by
  have hreverse := congrArg List.reverse h
  simp only [List.reverse_append, List.reverse_cons, List.append_assoc, List.singleton_append]
    at hreverse
  obtain ⟨hfront, hback⟩ :=
    append_cons_inj hreverse (by rwa [List.mem_reverse]) (by rwa [List.mem_reverse])
  exact ⟨List.reverse_injective hback, List.reverse_injective hfront⟩

end TimeMarkup.Text
