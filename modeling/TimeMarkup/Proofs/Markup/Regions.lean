import TimeMarkup.Proofs.Markup.Tags

/-!
# Where regions start and end

What can start at an opening bracket is decided by the name behind it: the start of a comment is no
name, and of the readers of elements only the one of that very name can succeed. What a region takes
is decided by its own text alone, except that a comment or raw element without an end runs to that
of the text.
-/

namespace TimeMarkup.Markup

/-- The name behind an opening bracket, case folded. -/
def nameOf (cs : List Char) : List Char :=
  (cs.takeWhile fun c => !endsName c).map foldCase

theorem nameOf_append_of_endsName {c : Char} (h : endsName c = true) (cs ds : List Char) :
    nameOf (cs ++ c :: ds) = nameOf cs := by
  unfold nameOf
  congr 1
  induction cs with
  | nil => simp [h]
  | cons d cs ih => simp [List.takeWhile_cons, ih]

theorem nameOf_append_of_named {cs : List Char} (h : ∀ d ∈ cs, endsName d = false) {c : Char}
    (hc : endsName c = true) (ds : List Char) : nameOf (cs ++ c :: ds) = cs.map foldCase := by
  have hall : ∀ d ∈ cs, (!endsName d) = true := by
    intro d hd
    rw [h d hd]
    rfl
  rw [nameOf_append_of_endsName hc, nameOf, ← List.append_nil cs, List.takeWhile_append_of_pos hall]
  simp

theorem nameOf_written {name written : List Char} (hn : IsName name)
    (hw : written.map foldCase = name) {c : Char} (hc : endsName c = true) (cs : List Char) :
    nameOf (written ++ c :: cs) = name := by
  rw [nameOf_append_of_named (fun d hd => endsName_of_mem_written hn hw hd) hc, hw]

theorem nameOf_of_openingTag? {name cs written body rest : List Char} (hn : IsName name)
    (h : openingTag? name ('<' :: cs) = some (written, body, rest)) : nameOf cs = name := by
  simp only [openingTag?, Option.bind_eq_some_iff, Option.map_eq_some_iff, Prod.exists,
    Prod.mk.injEq] at h
  obtain ⟨t, r, ht, b, r', hb, rfl, rfl, rfl⟩ := h
  obtain ⟨rfl, hw⟩ := (tagName?_eq_some_iff hn).mp ht
  cases r with
  | nil => simp [openingBody?] at hb
  | cons c cs =>
    apply nameOf_written hn hw
    simp only [openingBody?] at hb
    split at hb
    · rename_i hc
      subst c
      decide
    · split at hb
      · rename_i hc
        simp only [endsName, hc, Bool.true_or]
      · simp at hb

theorem nameOf_of_openingTag?_ne_none {name cs : List Char} (hn : IsName name)
    (h : openingTag? name cs ≠ none) : ∃ ds, cs = '<' :: ds ∧ nameOf ds = name := by
  obtain ⟨⟨written, body, rest⟩, ho⟩ := Option.ne_none_iff_exists'.mp h
  have hcs := openingTag?_append ho
  subst cs
  exact ⟨written ++ body ++ ['>'] ++ rest, rfl, nameOf_of_openingTag? hn ho⟩

theorem openingTag?_eq_none {name cs : List Char} (hn : IsName name) (h : nameOf cs ≠ name) :
    openingTag? name ('<' :: cs) = none := by
  rw [Option.eq_none_iff_forall_ne_some]
  rintro ⟨written, body, rest⟩ ho
  exact h (nameOf_of_openingTag? hn ho)

theorem openingTag?_of_ne_lt {name : List Char} {c : Char} (h : c ≠ '<') (cs : List Char) :
    openingTag? name (c :: cs) = none := by
  unfold openingTag?
  split
  · rename_i heq
    exact absurd (List.cons.inj heq).1 h
  · rfl

theorem rawElement?_eq_none_iff {name cs : List Char} :
    rawElement? name cs = none ↔ openingTag? name cs = none := by
  unfold rawElement?
  exact Option.map_eq_none_iff

theorem timeElement?_eq_none_of_openingTag? {cs : List Char} (h : openingTag? timeName cs = none) :
    timeElement? cs = none := by
  rw [timeElement?, h]
  rfl

theorem comment?_eq_none {c : Char} {cs : List Char} (h : c = '<' → ¬ ['!', '-', '-'] <+: cs) :
    comment? (c :: cs) = none := by
  unfold comment?
  split
  · rename_i cs' heq
    obtain ⟨rfl, rfl⟩ := List.cons.inj heq
    exact absurd ⟨cs', rfl⟩ (h rfl)
  · rfl

/-- The exclamation mark of a comment would belong to a name. -/
theorem comment?_eq_none_of_isName {cs : List Char} (h : IsName (nameOf cs)) :
    comment? ('<' :: cs) = none := by
  apply comment?_eq_none
  rintro - ⟨ds, rfl⟩
  have hmem : '!' ∈ nameOf (['!', '-', '-'] ++ ds) := by
    have hb : endsName '!' = false := by decide
    have hf : foldCase '!' = '!' := by decide
    simp [nameOf, hb, hf]
  have := h _ hmem
  revert this
  decide

theorem region?_eq_none_iff {cs : List Char} : region? cs = none ↔
    comment? cs = none ∧ (∀ name ∈ rawNames, openingTag? name cs = none) ∧
      timeElement? cs = none := by
  unfold region?
  simp only [← rawElement?_eq_none_iff, ← List.findSome?_eq_none_iff]
  cases hc : comment? cs with
  | some p => simp
  | none => cases hr : rawNames.findSome? (rawElement? · cs) <;> simp

theorem region?_of_ne_lt {c : Char} (h : c ≠ '<') (cs : List Char) : region? (c :: cs) = none :=
  region?_eq_none_iff.mpr ⟨comment?_eq_none fun hc => absurd hc h,
    fun _ _ => openingTag?_of_ne_lt h cs, timeElement?_eq_none_of_openingTag?
    (openingTag?_of_ne_lt h cs)⟩

theorem region?_eq_none_of_name {cs : List Char} (hc : ¬ ['!', '-', '-'] <+: cs)
    (hn : nameOf cs ∉ timeName :: rawNames) : region? ('<' :: cs) = none := by
  have hnone : ∀ name ∈ timeName :: rawNames, openingTag? name ('<' :: cs) = none :=
    fun name hmem => openingTag?_eq_none (isName_of_mem hmem) fun heq => hn (heq ▸ hmem)
  exact region?_eq_none_iff.mpr ⟨comment?_eq_none fun _ => hc,
    fun name hmem => hnone name (List.mem_cons_of_mem _ hmem),
    timeElement?_eq_none_of_openingTag? (hnone _ List.mem_cons_self)⟩

theorem region?_of_comment? {cs taken rest : List Char} (h : comment? cs = some (taken, rest)) :
    region? cs = some (.skipped taken, rest) := by
  simp [region?, h]

theorem region?_of_rawElement? {name cs taken rest : List Char} (hmem : name ∈ rawNames)
    (h : rawElement? name cs = some (taken, rest)) : region? cs = some (.skipped taken, rest) := by
  have hn := isName_of_mem (List.mem_cons_of_mem timeName hmem)
  have ho : openingTag? name cs ≠ none := by
    rw [ne_eq, ← rawElement?_eq_none_iff, h]
    exact Option.some_ne_none _
  obtain ⟨cs, rfl, hname⟩ := nameOf_of_openingTag?_ne_none hn ho
  have hfind : rawNames.findSome? (rawElement? · ('<' :: cs)) = some (taken, rest) := by
    cases hf : rawNames.findSome? (rawElement? · ('<' :: cs)) with
    | none =>
      rw [List.findSome?_eq_none_iff.mp hf name hmem] at h
      exact absurd h.symm (Option.some_ne_none _)
    | some found =>
      obtain ⟨other, ho, hfound⟩ := List.exists_of_findSome?_eq_some hf
      by_cases heq : other = name
      · rw [← hfound, heq, h]
      · have hnone := openingTag?_eq_none (isName_of_mem (List.mem_cons_of_mem _ ho))
          fun hsame => heq (hsame.symm.trans hname)
        rw [rawElement?_eq_none_iff.mpr hnone] at hfound
        exact absurd hfound.symm (Option.some_ne_none _)
  simp [region?, comment?_eq_none_of_isName (hname ▸ hn), hfind]

theorem region?_of_timeElement? {cs rest : List Char} {s : Stretch}
    (h : timeElement? cs = some (s, rest)) : region? cs = some (s, rest) := by
  have hn := isName_timeName
  have ho : openingTag? timeName cs ≠ none := by
    intro ho
    rw [timeElement?_eq_none_of_openingTag? ho] at h
    exact absurd h.symm (Option.some_ne_none _)
  obtain ⟨cs, rfl, hname⟩ := nameOf_of_openingTag?_ne_none hn ho
  have hraw : ∀ name ∈ rawNames, rawElement? name ('<' :: cs) = none := by
    intro name hmem
    apply rawElement?_eq_none_iff.mpr
    apply openingTag?_eq_none (isName_of_mem (List.mem_cons_of_mem _ hmem))
    rintro rfl
    rw [hname] at hmem
    revert hmem
    decide
  have hfind : rawNames.findSome? (rawElement? · ('<' :: cs)) = none :=
    List.findSome?_eq_none_iff.mpr hraw
  simp [region?, comment?_eq_none_of_isName (hname ▸ hn), hfind, h]

theorem region?_cases {cs rest : List Char} {s : Stretch} (h : region? cs = some (s, rest)) :
    (∃ taken, s = .skipped taken ∧ comment? cs = some (taken, rest)) ∨
    (∃ name taken, name ∈ rawNames ∧ s = .skipped taken ∧
      rawElement? name cs = some (taken, rest)) ∨
    timeElement? cs = some (s, rest) := by
  unfold region? at h
  split at h
  · rename_i taken r hs
    simp only [Option.some.injEq, Prod.mk.injEq] at h
    obtain ⟨rfl, rfl⟩ := h
    simp only [Option.orElse_eq_orElse, Option.orElse_eq_or, Option.or_eq_some_iff] at hs
    rcases hs with hs | ⟨-, hs⟩
    · exact Or.inl ⟨taken, rfl, hs⟩
    · obtain ⟨name, hmem, hs⟩ := List.exists_of_findSome?_eq_some hs
      exact Or.inr (Or.inl ⟨name, taken, hmem, rfl, hs⟩)
  · exact Or.inr (Or.inr h)

theorem commentBody_append_end {body : List Char} (h : ¬ ['-', '-', '>'] <:+: body)
    (rest : List Char) :
    commentBody (body ++ '-' :: '-' :: '>' :: rest) = (body ++ ['-', '-', '>'], rest) := by
  induction body with
  | nil => rfl
  | cons c cs ih =>
    have hcs : ¬ ['-', '-', '>'] <:+: cs := fun hwithin => h (List.infix_cons hwithin)
    -- the end of the comment cannot lie across the body and the hyphens behind it
    have hearly : ∀ ds, c = '-' → cs ++ '-' :: '-' :: '>' :: rest = '-' :: '>' :: ds → False := by
      intro ds hc heq
      subst c
      match cs, heq with
      | [], heq => simp at heq
      | [b], heq => simp at heq
      | b :: b' :: bs, heq =>
        simp only [List.cons_append, List.cons.injEq] at heq
        obtain ⟨rfl, rfl, -⟩ := heq
        exact h ⟨[], bs, rfl⟩
    rw [List.cons_append, commentBody.eq_3 _ _ hearly, ih hcs]
    rfl

theorem commentBody_cases {cs body rest : List Char} (h : commentBody cs = (body, rest)) :
    rest = [] ∨ ∃ inner, body = inner ++ ['-', '-', '>'] ∧ ¬ ['-', '-', '>'] <:+: inner := by
  fun_induction commentBody cs generalizing body rest with
  | case1 => exact Or.inl (Prod.mk.inj h).2.symm
  | case2 cs => exact Or.inr ⟨[], (Prod.mk.inj h).1.symm, by decide⟩
  | case3 c cs hearly b r hb ih =>
    obtain ⟨rfl, rfl⟩ := Prod.mk.inj h
    rcases ih hb with hr | ⟨inner, rfl, hinner⟩
    · exact Or.inl hr
    · refine Or.inr ⟨c :: inner, rfl, ?_⟩
      intro hwithin
      rcases List.infix_cons_iff.mp hwithin with ⟨ds, hds⟩ | hwithin
      · obtain ⟨rfl, rfl⟩ := List.cons.inj hds
        have happ := commentBody_append cs
        rw [hb] at happ
        exact hearly _ rfl happ.symm
      · exact hinner hwithin

theorem comment?_local {taken rest rest' : List Char}
    (h : comment? (taken ++ rest) = some (taken, rest)) (hend : rest = [] → rest' = []) :
    comment? (taken ++ rest') = some (taken, rest') := by
  have happ := comment?_append h
  unfold comment? at h
  split at h
  · rename_i cs heq
    simp only [Option.some.injEq, Prod.mk.injEq] at h
    obtain ⟨rfl, hrest⟩ := h
    have hbody : commentBody cs = ((commentBody cs).1, rest) := Prod.ext rfl hrest
    rcases commentBody_cases hbody with hnil | ⟨inner, hinner, hlacks⟩
    · rw [hend hnil, ← hnil, heq, comment?, hbody]
    · simp only [List.cons_append, hinner, List.append_assoc, List.nil_append, comment?,
        commentBody_append_end hlacks]
  · simp at h

theorem rawElement?_local {name taken rest rest' : List Char} (hn : IsName name)
    (h : rawElement? name (taken ++ rest) = some (taken, rest)) (hend : rest = [] → rest' = []) :
    rawElement? name (taken ++ rest') = some (taken, rest') := by
  simp only [rawElement?, Option.map_eq_some_iff, Prod.exists] at h
  obtain ⟨t, b, r, ho, h⟩ := h
  split at h
  · rename_i content closing r' hc
    simp only [Prod.mk.injEq] at h
    obtain ⟨rfl, rfl⟩ := h
    have happ : openingTag t b ++ content ++ closing ++ rest' = openingTag t b ++
        (content ++ (closing ++ rest')) := by
      simp
    simp only [rawElement?, happ, openingTag?_local hn ho, Option.map_some,
      upToClosing?_local hn hc]
  · rename_i hc
    simp only [Prod.mk.injEq] at h
    obtain ⟨rfl, rfl⟩ := h
    simp only [rawElement?, hend rfl, List.append_nil, openingTag?_local hn ho, Option.map_some, hc]

theorem timeElement?_local {cs rest : List Char} {s : Stretch}
    (h : timeElement? cs = some (s, rest)) (rest' : List Char) :
    timeElement? (s.source ++ rest') = some (s, rest') := by
  have hn := isName_timeName
  simp only [timeElement?, Option.bind_eq_some_iff, Option.map_eq_some_iff, Prod.exists,
    Prod.mk.injEq] at h
  obtain ⟨t, b, r, ho, content, closing, r', hc, rfl, rfl⟩ := h
  have happ : openingTag t b ++ content ++ closing ++ rest' = openingTag t b ++
      (content ++ (closing ++ rest')) := by
    simp
  simp only [Stretch.source, happ, timeElement?, openingTag?_local hn ho, Option.bind_some,
    upToClosing?_local hn hc, Option.map_some]

/-- A region stays one in front of any other text; if it has run to the end of the text, nothing may
follow. -/
theorem region?_local {rest rest' : List Char} {s : Stretch}
    (h : region? (s.source ++ rest) = some (s, rest)) (hend : rest = [] → rest' = []) :
    region? (s.source ++ rest') = some (s, rest') := by
  rcases region?_cases h with ⟨taken, rfl, hc⟩ | ⟨name, taken, hmem, rfl, hr⟩ | ht
  · exact region?_of_comment? (comment?_local hc hend)
  · have hn := isName_of_mem (List.mem_cons_of_mem timeName hmem)
    exact region?_of_rawElement? hmem (rawElement?_local hn hr hend)
  · exact region?_of_timeElement? (timeElement?_local ht rest')

end TimeMarkup.Markup
