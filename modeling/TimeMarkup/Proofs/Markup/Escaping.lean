import Mathlib.Data.List.Basic
import TimeMarkup.Markup.TextContent

/-!
# Escaped texts

An escaped text holds no bracket and no quotation mark of its own, and its visible text is the text
itself.
-/

namespace TimeMarkup.Markup

def Unquoted (cs : List Char) : Prop := '"' ∉ cs ∧ '\x27' ∉ cs

instance (cs : List Char) : Decidable (Unquoted cs) :=
  inferInstanceAs (Decidable (_ ∧ _))

theorem escape_cons (c : Char) (cs : List Char) :
    escape (c :: cs) = escapeChar c ++ escape cs := rfl

/-- Characters other than those of references only come from themselves. -/
theorem mem_escape {c : Char} {cs : List Char} (h : c ∈ escape cs) (hc : c ∉ "&amp;lt;gt;".toList) :
    c ∈ cs ∧ c ≠ '<' ∧ c ≠ '>' := by
  simp only [escape, List.mem_flatMap] at h
  obtain ⟨d, hd, h⟩ := h
  unfold escapeChar at h
  split at h
  · have hsub : "&amp;".toList ⊆ "&amp;lt;gt;".toList := by decide
    exact absurd (hsub h) hc
  · have hsub : "&lt;".toList ⊆ "&amp;lt;gt;".toList := by decide
    exact absurd (hsub h) hc
  · have hsub : "&gt;".toList ⊆ "&amp;lt;gt;".toList := by decide
    exact absurd (hsub h) hc
  · rename_i hlt hgt
    rw [List.mem_singleton] at h
    subst h
    exact ⟨hd, hlt, hgt⟩

theorem lt_not_mem_escape (cs : List Char) : '<' ∉ escape cs :=
  fun h => (mem_escape h (by decide)).2.1 rfl

theorem Unquoted.escape {cs : List Char} (h : Unquoted cs) : Unquoted (escape cs) :=
  ⟨fun hm => h.1 (mem_escape hm (by decide)).1, fun hm => h.2 (mem_escape hm (by decide)).1⟩

theorem Unquoted.append {cs ds : List Char} (hcs : Unquoted cs) (hds : Unquoted ds) :
    Unquoted (cs ++ ds) := by
  constructor
  · rw [List.mem_append, not_or]
    exact ⟨hcs.1, hds.1⟩
  · rw [List.mem_append, not_or]
    exact ⟨hcs.2, hds.2⟩

theorem decode_reference {c : Char} (name : List Char) {cs : List Char}
    (h : reference? (name ++ cs) = some (c, cs)) :
    decode ('&' :: (name ++ cs)) = c :: decode cs := by
  rw [decode, if_pos rfl]
  split
  · rename_i hsome
    rw [h, Option.some.injEq, Prod.mk.injEq] at hsome
    rw [hsome.1, hsome.2]
  · rename_i hnone
    rw [h] at hnone
    exact absurd hnone (Option.some_ne_none _)

theorem decode_escapeChar_append (c : Char) (cs : List Char) :
    decode (escapeChar c ++ cs) = c :: decode cs := by
  unfold escapeChar
  split
  · exact decode_reference "amp;".toList rfl
  · exact decode_reference "lt;".toList rfl
  · exact decode_reference "gt;".toList rfl
  · rename_i hc _ _
    exact decode_cons_of_ne hc cs

theorem decode_escape (cs : List Char) : decode (escape cs) = cs := by
  induction cs with
  | nil => simp
  | cons c cs ih => rw [escape_cons, decode_escapeChar_append, ih]

theorem textContent_escape (cs : List Char) : textContent (escape cs) = cs := by
  rw [textContent, stripTags_of_not_mem (lt_not_mem_escape cs), decode_escape]

end TimeMarkup.Markup
