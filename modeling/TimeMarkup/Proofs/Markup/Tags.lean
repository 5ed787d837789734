import Mathlib.Data.List.Infix
import TimeMarkup.Markup.Scan

/-!
# What the readers of tags take

Names are read up to case folding, a closing tag is one name and blanks, and the body of an opening
tag is the run of a machine that only remembers which quotation mark is open.
-/

namespace TimeMarkup.Markup

/-- Simple case folding of the characters that fold to the letters of tag names. -/
def foldCase (c : Char) : Char :=
  if c = '\u017F' then 's' else c.toLower

/-- Whether a tag's name ends in front of a character. -/
def endsName (c : Char) : Bool :=
  isBlank c || c == '/' || c == '>'

def IsName (name : List Char) : Prop := ∀ n ∈ name, 97 ≤ n.toNat ∧ n.toNat ≤ 122

instance (name : List Char) : Decidable (IsName name) :=
  List.decidableBAll (fun n : Char => 97 ≤ n.toNat ∧ n.toNat ≤ 122) name

theorem isName_of_mem {name : List Char} (h : name ∈ timeName :: rawNames) : IsName name := by
  revert name
  decide

theorem isName_timeName : IsName timeName := isName_of_mem List.mem_cons_self

theorem foldCase_of_not_letter {c : Char} (h : c.toNat < 65 ∨ 90 < c.toNat) (hs : c ≠ '\u017F') :
    foldCase c = c := by
  rw [foldCase, if_neg hs]
  apply dif_neg
  rintro ⟨hlo, hhi⟩
  have h1 : 65 ≤ c.toNat := UInt32.le_iff_toNat_le.mp hlo
  have h2 : c.toNat ≤ 90 := UInt32.le_iff_toNat_le.mp hhi
  omega

theorem foldCase_of_endsName {c : Char} (h : endsName c = true) : foldCase c = c := by
  apply foldCase_of_not_letter
  · simp only [endsName, isBlank, Bool.or_eq_true, Bool.and_eq_true, decide_eq_true_eq, beq_iff_eq]
      at h
    rcases h with (h | rfl) | rfl
    · omega
    · decide
    · decide
  · rintro rfl
    revert h
    decide

theorem isLetter_eq {n : Char} (hn : n.toNat ≤ 122) (c : Char) :
    isLetter n c = (foldCase c == n) := by
  have hs : n ≠ '\u017F' := by
    rintro rfl
    revert hn
    decide
  unfold isLetter foldCase
  by_cases hc : c = '\u017F'
  · subst c
    have h1 : ('\u017F'.toLower == n) = false := by
      rw [beq_eq_false_iff_ne]
      exact fun h => hs (h ▸ by decide)
    rw [h1, if_pos rfl, Bool.false_or, beq_self_eq_true, Bool.and_true]
    exact Bool.beq_comm
  · rw [if_neg hc, beq_eq_false_iff_ne.mpr hc, Bool.and_false, Bool.or_false]

theorem tagName?_eq_some_iff {name cs taken rest : List Char} (hn : IsName name) :
    tagName? name cs = some (taken, rest) ↔ cs = taken ++ rest ∧ taken.map foldCase = name := by
  fun_induction tagName? name cs generalizing taken rest with
  | case1 cs =>
    simp only [Option.some.injEq, Prod.mk.injEq, List.map_eq_nil_iff]
    constructor
    · rintro ⟨rfl, rfl⟩
      exact ⟨rfl, rfl⟩
    · rintro ⟨rfl, rfl⟩
      exact ⟨rfl, rfl⟩
  | case2 n ns =>
    simp only [reduceCtorEq, false_iff, not_and]
    intro h
    obtain ⟨rfl, rfl⟩ := List.append_eq_nil_iff.mp h.symm
    simp
  | case3 n ns c cs hc ih =>
    have hletter := hn n List.mem_cons_self
    rw [isLetter_eq hletter.2, beq_iff_eq] at hc
    simp only [Option.map_eq_some_iff, Prod.exists, Prod.mk.injEq]
    constructor
    · rintro ⟨t, r, h, rfl, rfl⟩
      obtain ⟨rfl, ht⟩ := (ih fun m hm => hn m (List.mem_cons_of_mem n hm)).mp h
      exact ⟨rfl, by rw [List.map_cons, hc, ht]⟩
    · rintro ⟨h, ht⟩
      cases taken with
      | nil => simp at ht
      | cons t ts =>
        rw [List.cons_append, List.cons.injEq] at h
        rw [List.map_cons, List.cons.injEq] at ht
        obtain ⟨rfl, rfl⟩ := h
        exact ⟨ts, rest, (ih fun m hm => hn m (List.mem_cons_of_mem n hm)).mpr ⟨rfl, ht.2⟩,
          rfl, rfl⟩
  | case4 n ns c cs hc =>
    have hletter := hn n List.mem_cons_self
    rw [isLetter_eq hletter.2, beq_iff_eq] at hc
    simp only [reduceCtorEq, false_iff, not_and]
    intro h ht
    cases taken with
    | nil => simp at ht
    | cons t ts =>
      rw [List.cons_append, List.cons.injEq] at h
      rw [List.map_cons, List.cons.injEq, ← h.1] at ht
      exact hc ht.1

theorem endsName_of_mem_written {name written : List Char} (hn : IsName name)
    (hw : written.map foldCase = name) {c : Char} (hc : c ∈ written) : endsName c = false := by
  by_contra h
  rw [Bool.not_eq_false] at h
  have hmem : foldCase c ∈ name := hw ▸ List.mem_map_of_mem hc
  rw [foldCase_of_endsName h] at hmem
  have := hn c hmem
  simp only [endsName, isBlank, Bool.or_eq_true, Bool.and_eq_true, decide_eq_true_eq, beq_iff_eq]
    at h
  rcases h with (h | rfl) | rfl
  · omega
  · revert this
    decide
  · revert this
    decide

theorem lt_not_mem_written {name written : List Char} (hn : IsName name)
    (hw : written.map foldCase = name) : '<' ∉ written := by
  intro h
  have hmem : foldCase '<' ∈ name := hw ▸ List.mem_map_of_mem h
  have := hn _ hmem
  revert this
  decide

def IsClosing (name tag : List Char) : Prop :=
  ∃ written blanks, tag = '<' :: '/' :: written ++ blanks ++ ['>'] ∧ written.map foldCase = name ∧
    ∀ c ∈ blanks, isBlank c = true

theorem closingTag?_eq_some_iff {name cs tag rest : List Char} (hn : IsName name) :
    closingTag? name cs = some (tag, rest) ↔ cs = tag ++ rest ∧ IsClosing name tag := by
  constructor
  · intro h
    refine ⟨(closingTag?_append h).symm, ?_⟩
    unfold closingTag? at h
    split at h
    · rename_i cs
      simp only [Option.bind_eq_some_iff, Prod.exists] at h
      obtain ⟨written, r, hw, h⟩ := h
      split at h
      · simp only [Option.some.injEq, Prod.mk.injEq] at h
        exact ⟨written, r.takeWhile isBlank, h.1.symm, ((tagName?_eq_some_iff hn).mp hw).2,
          List.all_eq_true.mp List.all_takeWhile⟩
      · simp at h
    · simp at h
  · rintro ⟨rfl, written, blanks, rfl, hw, hb⟩
    have hname : tagName? name (written ++ (blanks ++ '>' :: rest)) =
        some (written, blanks ++ '>' :: rest) :=
      (tagName?_eq_some_iff hn).mpr ⟨rfl, hw⟩
    have hend : isBlank '>' = false := by decide
    simp only [closingTag?, List.cons_append, List.append_assoc, List.nil_append, hname,
      Option.bind_some, List.dropWhile_append_of_pos hb, List.takeWhile_append_of_pos hb,
      List.dropWhile_cons, hend, List.takeWhile_cons, List.append_nil, Bool.false_eq_true, if_false]

theorem IsClosing.eq_lt_cons {name tag : List Char} (hn : IsName name) (h : IsClosing name tag) :
    ∃ cs, tag = '<' :: cs ∧ '<' ∉ cs := by
  obtain ⟨written, blanks, rfl, hw, hb⟩ := h
  refine ⟨'/' :: written ++ blanks ++ ['>'], rfl, ?_⟩
  intro hmem
  simp only [List.cons_append, List.append_assoc, List.mem_cons, List.mem_append, List.not_mem_nil,
    or_false] at hmem
  rcases hmem with h | h | h | h
  · exact absurd h (by decide)
  · exact lt_not_mem_written hn hw h
  · exact absurd (hb _ h) (by decide)
  · exact absurd h (by decide)

theorem closingTag?_append_of_isClosing {name tag : List Char} (hn : IsName name)
    (ht : IsClosing name tag) (rest : List Char) :
    closingTag? name (tag ++ rest) = some (tag, rest) :=
  (closingTag?_eq_some_iff hn).mpr ⟨rfl, ht⟩

theorem upToClosing?_append_of_isClosing {name tag : List Char} (hn : IsName name)
    (ht : IsClosing name tag) (rest : List Char) :
    upToClosing? name (tag ++ rest) = some ([], tag, rest) := by
  have hclosing := closingTag?_append_of_isClosing hn ht rest
  obtain ⟨body, rfl, -⟩ := ht.eq_lt_cons hn
  rw [List.cons_append] at hclosing
  rw [List.cons_append, upToClosing?, hclosing]

/-- A closing tag has its only opening bracket in front, so none can begin in front of another and
end within it. -/
theorem upToClosing?_of_isClosing {name content tag : List Char} (hn : IsName name)
    (hc : ∀ t, IsClosing name t → ¬ t <:+: content) (ht : IsClosing name tag) (rest : List Char) :
    upToClosing? name (content ++ (tag ++ rest)) = some (content, tag, rest) := by
  obtain ⟨body, htag, -⟩ := ht.eq_lt_cons hn
  induction content with
  | nil => exact upToClosing?_append_of_isClosing hn ht rest
  | cons c cs ih =>
    have hnone : closingTag? name (c :: cs ++ (tag ++ rest)) = none := by
      rw [Option.eq_none_iff_forall_ne_some]
      rintro ⟨t, r⟩ h
      obtain ⟨heq, hclosing⟩ := (closingTag?_eq_some_iff hn).mp h
      rcases List.append_eq_append_iff.mp heq with ⟨as, rfl, has⟩ | ⟨as, has, -⟩
      · obtain ⟨ts, hts, hlt⟩ := hclosing.eq_lt_cons hn
        rw [List.cons_append, List.cons.injEq] at hts
        cases as with
        | nil => exact hc _ hclosing (by simp)
        | cons a as =>
          rw [htag, List.cons_append, List.cons_append, List.cons.injEq] at has
          exact hlt (hts.2 ▸ List.mem_append_right cs (has.1 ▸ List.mem_cons_self))
      · exact hc _ hclosing ⟨[], as, by rw [has]; rfl⟩
    have hcs : ∀ t, IsClosing name t → ¬ t <:+: cs :=
      fun t h hwithin => hc t h (List.infix_cons hwithin)
    rw [List.cons_append] at hnone
    rw [List.cons_append, upToClosing?, hnone, ih hcs]
    rfl

theorem upToClosing?_ne_none {name tag : List Char} (hn : IsName name) (ht : IsClosing name tag)
    (cs rest : List Char) : upToClosing? name (cs ++ (tag ++ rest)) ≠ none := by
  induction cs with
  | nil =>
    rw [List.nil_append, upToClosing?_append_of_isClosing hn ht]
    exact Option.some_ne_none _
  | cons c cs ih =>
    rw [List.cons_append, upToClosing?]
    split
    · exact Option.some_ne_none _
    · rwa [ne_eq, Option.map_eq_none_iff]

theorem isClosing_of_upToClosing? {name cs content tag rest : List Char} (hn : IsName name)
    (h : upToClosing? name cs = some (content, tag, rest)) : IsClosing name tag := by
  fun_induction upToClosing? name cs generalizing content with
  | case1 => simp at h
  | case2 c cs tag' rest' hc =>
    simp only [Option.some.injEq, Prod.mk.injEq] at h
    obtain ⟨-, rfl, rfl⟩ := h
    exact ((closingTag?_eq_some_iff hn).mp hc).2
  | case3 c cs _ ih =>
    simp only [Option.map_eq_some_iff, Prod.exists, Prod.mk.injEq] at h
    obtain ⟨x, t, r, h, -, rfl, rfl⟩ := h
    exact ih h

theorem lacks_of_upToClosing? {name cs content tag rest : List Char} (hn : IsName name)
    (h : upToClosing? name cs = some (content, tag, rest)) :
    ∀ t, IsClosing name t → ¬ t <:+: content := by
  fun_induction upToClosing? name cs generalizing content with
  | case1 => simp at h
  | case2 c cs tag' rest' hc =>
    simp only [Option.some.injEq, Prod.mk.injEq] at h
    obtain ⟨rfl, -, -⟩ := h
    intro t ht hwithin
    obtain ⟨ts, rfl, -⟩ := ht.eq_lt_cons hn
    simp at hwithin
  | case3 c cs hc ih =>
    have hup : upToClosing? name (c :: cs) = some (content, tag, rest) := by
      rw [upToClosing?, hc]
      exact h
    have happ := upToClosing?_append hup
    simp only [Option.map_eq_some_iff, Prod.exists, Prod.mk.injEq] at h
    obtain ⟨x, t, r, h, rfl, rfl, rfl⟩ := h
    intro t' ht' hwithin
    rcases List.infix_cons_iff.mp hwithin with ⟨ds, hds⟩ | hwithin
    · have hclosing : closingTag? name (c :: cs) = some (t', ds ++ t ++ r) :=
        (closingTag?_eq_some_iff hn).mpr ⟨by rw [← happ, ← hds]; simp, ht'⟩
      rw [hc] at hclosing
      exact absurd hclosing.symm (Option.some_ne_none _)
    · exact ih h t' ht' hwithin

theorem upToClosing?_local {name cs content tag rest : List Char} (hn : IsName name)
    (h : upToClosing? name cs = some (content, tag, rest)) (rest' : List Char) :
    upToClosing? name (content ++ (tag ++ rest')) = some (content, tag, rest') :=
  upToClosing?_of_isClosing hn (lacks_of_upToClosing? hn h) (isClosing_of_upToClosing? hn h) rest'

theorem tagBody?_local {q : Option Char} {cs body rest : List Char}
    (h : tagBody? q cs = some (body, rest)) (rest' : List Char) :
    tagBody? q (body ++ '>' :: rest') = some (body, rest') := by
  fun_induction tagBody? q cs generalizing body with
  | case1 => simp at h
  | case2 cs =>
    simp only [Option.some.injEq, Prod.mk.injEq] at h
    rw [← h.1, List.nil_append, tagBody?, if_pos rfl]
  | case3 c cs hc ih =>
    simp only [Option.map_eq_some_iff, Prod.exists, Prod.mk.injEq] at h
    obtain ⟨b, r, h, rfl, rfl⟩ := h
    rw [List.cons_append, tagBody?, if_neg hc, ih h]
    rfl
  | case4 p c cs ih =>
    simp only [Option.map_eq_some_iff, Prod.exists, Prod.mk.injEq] at h
    obtain ⟨b, r, h, rfl, rfl⟩ := h
    rw [List.cons_append, tagBody?, ih h]
    rfl

theorem openingBody?_local {cs body rest : List Char} (h : openingBody? cs = some (body, rest))
    (rest' : List Char) : openingBody? (body ++ '>' :: rest') = some (body, rest') := by
  cases cs with
  | nil => simp [openingBody?] at h
  | cons c cs =>
    rw [openingBody?] at h
    split at h
    · simp only [Option.some.injEq, Prod.mk.injEq] at h
      rw [← h.1, List.nil_append, openingBody?, if_pos rfl]
    · rename_i hc
      split at h
      · rename_i hs
        simp only [Option.map_eq_some_iff, Prod.exists, Prod.mk.injEq] at h
        obtain ⟨b, r, h, rfl, rfl⟩ := h
        rw [List.cons_append, openingBody?, if_neg hc, if_pos hs, tagBody?_local h]
        rfl
      · simp at h

theorem openingTag?_local {name cs written body rest : List Char} (hn : IsName name)
    (h : openingTag? name cs = some (written, body, rest)) (rest' : List Char) :
    openingTag? name (openingTag written body ++ rest') = some (written, body, rest') := by
  unfold openingTag? at h
  split at h
  · simp only [Option.bind_eq_some_iff, Option.map_eq_some_iff, Prod.exists, Prod.mk.injEq] at h
    obtain ⟨t, r, ht, b, r', hb, rfl, rfl, rfl⟩ := h
    have hname : tagName? name (t ++ (b ++ '>' :: rest')) = some (t, b ++ '>' :: rest') :=
      (tagName?_eq_some_iff hn).mpr ⟨rfl, ((tagName?_eq_some_iff hn).mp ht).2⟩
    have happ : openingTag t b ++ rest' = '<' :: (t ++ (b ++ '>' :: rest')) := by simp [openingTag]
    simp only [happ, openingTag?, hname, Option.bind_some, openingBody?_local hb, Option.map_some]
  · simp at h

/-- The quotation mark that is open after a text of which no bracket closes the tag. -/
def quoteAfter : Option Char → List Char → Option Char
  | q, [] => q
  | none, c :: cs => quoteAfter (opensQuote c) cs
  | some q, c :: cs => quoteAfter (if c = q then none else some q) cs

theorem tagBody?_append_of_some {q : Option Char} {cs body rest : List Char}
    (h : tagBody? q cs = some (body, rest)) (ds : List Char) :
    tagBody? q (cs ++ ds) = some (body, rest ++ ds) := by
  have hlocal := tagBody?_local h (rest ++ ds)
  rwa [← List.cons_append, ← List.append_assoc, tagBody?_append h] at hlocal

theorem tagBody?_append_of_none {q : Option Char} {cs : List Char} (h : tagBody? q cs = none)
    (ds : List Char) :
    tagBody? q (cs ++ ds) =
      (tagBody? (quoteAfter q cs) ds).map fun (body, rest) => (cs ++ body, rest) := by
  fun_induction tagBody? q cs with
  | case1 => simp [quoteAfter]
  | case2 => simp at h
  | case3 c cs hc ih =>
    rw [Option.map_eq_none_iff] at h
    rw [List.cons_append, tagBody?, if_neg hc, ih h, Option.map_map, quoteAfter]
    rfl
  | case4 p c cs ih =>
    rw [Option.map_eq_none_iff] at h
    rw [List.cons_append, tagBody?, ih h, Option.map_map, quoteAfter]
    rfl

end TimeMarkup.Markup
