import TimeMarkup.Markup.Tag
/-!
Markup cut into stretches: comments and raw text, which hold no markup, `time` elements with their
content, and single characters of everything else. The stretches make up the whole of the source.
-/

namespace TimeMarkup.Markup

/-- A stretch of markup. A `time` element is kept as the name and the rest of its opening tag, its
content, and its closing tag. -/
inductive Stretch
  | plain (c : Char)
  | skipped (cs : List Char)
  | time (name attributes content closing : List Char)
  deriving DecidableEq

def Stretch.source : Stretch → List Char
  | plain c => [c]
  | skipped cs => cs
  | time name attributes content closing => openingTag name attributes ++ content ++ closing

/-- Takes a comment after its first two hyphens, to its end or to that of the text. -/
def commentBody : List Char → List Char × List Char
  | [] => ([], [])
  | '-' :: '-' :: '>' :: cs => (['-', '-', '>'], cs)
  | c :: cs =>
    let (body, rest) := commentBody cs
    (c :: body, rest)

def comment? : List Char → Option (List Char × List Char)
  | '<' :: '!' :: '-' :: '-' :: cs =>
    let (body, rest) := commentBody cs
    some ('<' :: '!' :: '-' :: '-' :: body, rest)
  | _ => none

/-- Takes an element whose content is raw text, to its closing tag or the end of the text. -/
def rawElement? (name : List Char) (cs : List Char) : Option (List Char × List Char) :=
  (openingTag? name cs).map fun (taken, body, rest) =>
    match upToClosing? name rest with
    | some (content, closing, rest') => (openingTag taken body ++ content ++ closing, rest')
    | none => (openingTag taken body ++ rest, [])

def rawNames : List (List Char) :=
  ["script".toList, "style".toList, "textarea".toList]

def timeName : List Char := "time".toList

def timeElement? (cs : List Char) : Option (Stretch × List Char) :=
  (openingTag? timeName cs).bind fun (name, attributes, rest) =>
    (upToClosing? timeName rest).map fun (content, closing, rest') =>
      (.time name attributes content closing, rest')

/-- Takes a comment, a raw element or a time element. -/
def region? (cs : List Char) : Option (Stretch × List Char) :=
  match comment? cs <|> rawNames.findSome? (rawElement? · cs) with
  | some (taken, rest) => some (.skipped taken, rest)
  | none => timeElement? cs

theorem commentBody_append (cs : List Char) : (commentBody cs).1 ++ (commentBody cs).2 = cs := by
  fun_induction commentBody cs <;> simp_all

theorem comment?_append {cs taken rest : List Char} (h : comment? cs = some (taken, rest)) :
    taken ++ rest = cs := by
  simp only [comment?] at h
  split at h
  · rename_i cs
    simp only [Option.some.injEq, Prod.mk.injEq] at h
    simp [← h.1, ← h.2, commentBody_append cs]
  · simp at h

theorem rawElement?_append {name cs taken rest : List Char}
    (h : rawElement? name cs = some (taken, rest)) : taken ++ rest = cs := by
  simp only [rawElement?, Option.map_eq_some_iff, Prod.exists] at h
  obtain ⟨t, b, r, ho, h⟩ := h
  have ho := openingTag?_append ho
  split at h
  · rename_i x c r' hc
    simp only [Prod.mk.injEq] at h
    rw [← h.1, ← h.2, ← ho, ← upToClosing?_append hc]
    simp
  · simp only [Prod.mk.injEq] at h
    rw [← h.1, ← h.2, ← ho]
    simp

theorem timeElement?_append {cs rest : List Char} {s : Stretch}
    (h : timeElement? cs = some (s, rest)) :
    s.source ++ rest = cs := by
  simp only [timeElement?, Option.bind_eq_some_iff, Option.map_eq_some_iff, Prod.exists,
    Prod.mk.injEq] at h
  obtain ⟨t, b, r, ho, x, c, r', hc, rfl, rfl⟩ := h
  rw [← openingTag?_append ho, ← upToClosing?_append hc]
  simp [Stretch.source]

theorem region?_append {cs rest : List Char} {s : Stretch} (h : region? cs = some (s, rest)) :
    s.source ++ rest = cs := by
  simp only [region?] at h
  split at h
  · rename_i taken r hs
    simp only [Option.some.injEq, Prod.mk.injEq] at h
    obtain ⟨rfl, rfl⟩ := h
    simp only [Option.orElse_eq_orElse, Option.orElse_eq_or, Option.or_eq_some_iff] at hs
    rcases hs with hs | ⟨-, hs⟩
    · exact comment?_append hs
    · obtain ⟨name, -, hs⟩ := List.exists_of_findSome?_eq_some hs
      exact rawElement?_append hs
  · exact timeElement?_append h

theorem region?_source_ne_nil {cs rest : List Char} {s : Stretch}
    (h : region? cs = some (s, rest)) :
    s.source ≠ [] := by
  simp only [region?] at h
  split at h
  · rename_i taken r hs
    simp only [Option.some.injEq, Prod.mk.injEq] at h
    obtain ⟨rfl, rfl⟩ := h
    simp only [Option.orElse_eq_orElse, Option.orElse_eq_or, Option.or_eq_some_iff] at hs
    rcases hs with hs | ⟨-, hs⟩
    · simp only [comment?] at hs
      split at hs <;> simp_all [Stretch.source]
      simp [← hs.1]
    · obtain ⟨name, -, hs⟩ := List.exists_of_findSome?_eq_some hs
      simp only [rawElement?, Option.map_eq_some_iff, Prod.exists] at hs
      obtain ⟨t, b, r, -, hs⟩ := hs
      split at hs <;> simp only [Prod.mk.injEq] at hs <;> simp [Stretch.source, openingTag, ← hs.1]
  · simp only [timeElement?, Option.bind_eq_some_iff, Option.map_eq_some_iff, Prod.exists,
      Prod.mk.injEq] at h
    obtain ⟨t, b, r, -, x, c, r', -, rfl, -⟩ := h
    simp [Stretch.source, openingTag]

theorem region?_length {cs rest : List Char} {s : Stretch} (h : region? cs = some (s, rest)) :
    rest.length < cs.length := by
  have hl := congrArg List.length (region?_append h)
  have hp := List.length_pos_iff.mpr (region?_source_ne_nil h)
  rw [List.length_append] at hl
  omega

/-- The stretches of a text: the first region that starts at each place, and single characters
between the regions. -/
def scan : List Char → List Stretch
  | [] => []
  | c :: cs =>
    match _h : region? (c :: cs) with
    | some (s, rest) => s :: scan rest
    | none => .plain c :: scan cs
termination_by cs => cs.length
decreasing_by
  · exact region?_length _h
  · simp

@[simp] theorem scan_nil : scan [] = [] := by
  simp [scan]

theorem scan_of_region {cs rest : List Char} {s : Stretch} (h : region? cs = some (s, rest)) :
    scan cs = s :: scan rest := by
  cases cs with
  | nil => simp [region?, comment?, timeElement?, openingTag?, rawElement?, rawNames] at h
  | cons c cs =>
    rw [scan]
    split <;> simp_all

theorem scan_of_not_region {c : Char} {cs : List Char} (h : region? (c :: cs) = none) :
    scan (c :: cs) = .plain c :: scan cs := by
  rw [scan]
  split <;> simp_all

/-- The stretches make up the text. -/
theorem flatMap_source_scan (cs : List Char) : (scan cs).flatMap Stretch.source = cs := by
  fun_induction scan cs with
  | case1 => rfl
  | case2 c cs s rest h ih => rw [List.flatMap_cons, ih, region?_append h]
  | case3 c cs _ ih => rw [List.flatMap_cons, ih]; rfl

end TimeMarkup.Markup
