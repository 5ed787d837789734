import TimeMarkup.Markup.CharacterReference
/-!
The visible text of element content: the tags are taken out and the character references decoded.
-/

namespace TimeMarkup.Markup

/-- The content without tags. A tag runs from an angle bracket to the next closing one. -/
def stripTags : List Char → List Char
  | [] => []
  | c :: cs =>
    if c = '<' then
      match _h : cs.dropWhile (· != '>') with
      | _ :: rest => stripTags rest
      | [] => c :: stripTags cs
    else c :: stripTags cs
termination_by cs => cs.length
decreasing_by
  all_goals simp only [List.length_cons]
  · have := (List.dropWhile_sublist (l := cs) (· != '>')).length_le
    rw [_h, List.length_cons] at this
    omega
  · omega
  · omega

def textContent (content : List Char) : List Char :=
  decode (stripTags content)

@[simp] theorem stripTags_nil : stripTags [] = [] := by
  simp [stripTags]

theorem stripTags_cons_of_ne {c : Char} (h : c ≠ '<') (cs : List Char) :
    stripTags (c :: cs) = c :: stripTags cs := by
  rw [stripTags]
  simp [h]

theorem stripTags_of_not_mem {cs : List Char} (h : '<' ∉ cs) : stripTags cs = cs := by
  induction cs with
  | nil => simp
  | cons c cs ih =>
    simp only [List.mem_cons, not_or] at h
    rw [stripTags_cons_of_ne (Ne.symm h.1), ih h.2]

end TimeMarkup.Markup
