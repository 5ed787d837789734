import TimeMarkup.Proofs.Markup.Encodings
import TimeMarkup.Proofs.Markup.Pieces
import TimeMarkup.Proofs.Markup.Refilling
import TimeMarkup.Proofs.Text.Numerals

/-!
# Markup read from left to right

Apart from time elements, markup consists of comments and raw elements, whose insides are not
markup, of complete tags, in which quotes hide brackets, and of single characters. All but the
single characters end with a bracket or the text, so that a closing tag that starts in one of them
ends there.
-/

namespace TimeMarkup.Markup

inductive Token
  | plain (c : Char)
  | tag (cs : List Char)
  | verbatim (cs : List Char)
  deriving DecidableEq

namespace Token

def source : Token → List Char
  | plain c => [c]
  | tag cs => cs
  | verbatim cs => cs

@[simp] theorem source_tag (cs : List Char) : (tag cs).source = cs := rfl

def isVerbatim : Token → Bool
  | verbatim _ => true
  | _ => false

end Token

/-- Whether what follows a bracket starts a tag's name, with a slash in front if the tag is a
closing one. -/
def startsName : List Char → Bool
  | '/' :: c :: _ => c.isAlpha
  | c :: _ => c.isAlpha
  | [] => false

/-- Takes a complete tag. -/
def tag? : List Char → Option (List Char × List Char)
  | '<' :: cs =>
    if startsName cs then
      (openingBody? (cs.dropWhile fun c => !endsName c)).map fun (body, rest) =>
        (openingTag (cs.takeWhile fun c => !endsName c) body, rest)
    else none
  | _ => none

/-- Takes a comment or a raw element. -/
def verbatim? (cs : List Char) : Option (List Char × List Char) :=
  comment? cs <|> rawNames.findSome? (rawElement? · cs)

def token? : List Char → Option (Token × List Char)
  | [] => none
  | c :: cs =>
    match verbatim? (c :: cs) with
    | some (taken, rest) => some (.verbatim taken, rest)
    | none =>
      match tag? (c :: cs) with
      | some (taken, rest) => some (.tag taken, rest)
      | none => some (.plain c, cs)

theorem region?_of_verbatim? {cs taken rest : List Char} (h : verbatim? cs = some (taken, rest)) :
    region? cs = some (.skipped taken, rest) := by
  have hread : (comment? cs <|> rawNames.findSome? (rawElement? · cs)) = some (taken, rest) := h
  simp only [region?, hread]

theorem region?_of_not_verbatim? {cs : List Char} (h : verbatim? cs = none) :
    region? cs = timeElement? cs := by
  have hread : (comment? cs <|> rawNames.findSome? (rawElement? · cs)) = none := h
  simp only [region?, hread]

theorem tag?_eq_some {cs taken rest : List Char} (h : tag? cs = some (taken, rest)) :
    taken ++ rest = cs ∧ ∃ name body, taken = openingTag name body := by
  unfold tag? at h
  split at h
  · rename_i cs
    simp only [Option.ite_none_right_eq_some, Option.map_eq_some_iff, Prod.exists, Prod.mk.injEq]
      at h
    obtain ⟨-, body, r, hbody, rfl, rfl⟩ := h
    have hread := openingBody?_append hbody
    have hsplit := List.takeWhile_append_dropWhile (p := fun c => !endsName c) (l := cs)
    rw [← hread] at hsplit
    exact ⟨by simpa [openingTag] using hsplit, _, _, rfl⟩
  · cases h

theorem token?_cases {cs rest : List Char} {u : Token} (h : token? cs = some (u, rest)) :
    (∃ taken, u = .verbatim taken ∧ verbatim? cs = some (taken, rest)) ∨
    (∃ taken, u = .tag taken ∧ verbatim? cs = none ∧ tag? cs = some (taken, rest)) ∨
    ∃ c, u = .plain c ∧ cs = c :: rest ∧ verbatim? cs = none ∧ tag? cs = none := by
  cases cs with
  | nil => cases h
  | cons c cs =>
    rw [token?] at h
    cases hv : verbatim? (c :: cs) with
    | some p =>
      rw [hv] at h
      obtain ⟨rfl, rfl⟩ := Prod.mk.inj (Option.some.inj h)
      exact Or.inl ⟨p.1, rfl, rfl⟩
    | none =>
      rw [hv] at h
      cases ht : tag? (c :: cs) with
      | some p =>
        rw [ht] at h
        obtain ⟨rfl, rfl⟩ := Prod.mk.inj (Option.some.inj h)
        exact Or.inr (Or.inl ⟨p.1, rfl, rfl, rfl⟩)
      | none =>
        rw [ht] at h
        obtain ⟨rfl, rfl⟩ := Prod.mk.inj (Option.some.inj h)
        exact Or.inr (Or.inr ⟨c, rfl, rfl, rfl, rfl⟩)

theorem token?_append {cs rest : List Char} {u : Token} (h : token? cs = some (u, rest)) :
    u.source ++ rest = cs ∧ u.source ≠ [] := by
  rcases token?_cases h with ⟨taken, rfl, hv⟩ | ⟨taken, rfl, -, ht⟩ | ⟨c, rfl, rfl, -⟩
  · have hregion := region?_of_verbatim? hv
    exact ⟨region?_append hregion, region?_source_ne_nil hregion⟩
  · obtain ⟨happ, name, body, rfl⟩ := tag?_eq_some ht
    exact ⟨happ, List.cons_ne_nil _ _⟩
  · exact ⟨rfl, List.cons_ne_nil _ _⟩

theorem token?_length {cs rest : List Char} {u : Token} (h : token? cs = some (u, rest)) :
    rest.length < cs.length := by
  obtain ⟨happ, hne⟩ := token?_append h
  have hlength := congrArg List.length happ
  have hpos := List.length_pos_iff.mpr hne
  rw [List.length_append] at hlength
  omega

/-- The tokens of a text. -/
def tokens (cs : List Char) : List Token :=
  match _h : token? cs with
  | some (u, rest) => u :: tokens rest
  | none => []
termination_by cs.length
decreasing_by exact token?_length _h

theorem tokens_of_token? {cs rest : List Char} {u : Token} (h : token? cs = some (u, rest)) :
    tokens cs = u :: tokens rest := by
  rw [tokens]
  split <;> simp_all

theorem eq_nil_of_token? {cs : List Char} (h : token? cs = none) : cs = [] := by
  cases cs with
  | nil => rfl
  | cons c cs =>
    rw [token?] at h
    split at h
    · cases h
    · split at h <;> cases h

theorem tokens_nil : tokens [] = [] := by
  rw [tokens]
  rfl

/-- The tokens make up the text. -/
theorem flatMap_source_tokens (cs : List Char) : (tokens cs).flatMap Token.source = cs := by
  fun_induction tokens cs with
  | case1 cs u rest h ih => rw [List.flatMap_cons, ih, (token?_append h).1]
  | case2 cs h =>
    rw [eq_nil_of_token? h]
    rfl

theorem source_ne_nil_of_mem_tokens {cs : List Char} {u : Token} (h : u ∈ tokens cs) :
    u.source ≠ [] := by
  fun_induction tokens cs with
  | case1 cs v rest hv ih =>
    rcases List.mem_cons.mp h with rfl | h
    · exact (token?_append hv).2
    · exact ih h
  | case2 => cases h

/-! ## Tags of time elements -/

theorem isAlpha_of_foldCase {c : Char} (h : foldCase c = 't') : c.isAlpha = true := by
  rw [foldCase] at h
  split at h
  · exact absurd h (by decide)
  · have hnat := congrArg Char.toNat h
    rw [Text.toNat_toLower] at hnat
    have hcases : c.toNat = 't'.toNat ∨ c.toNat = 'T'.toNat := by
      change _ = 116 at hnat
      change c.toNat = 116 ∨ c.toNat = 84
      split at hnat <;> omega
    rcases hcases with hc | hc
    · rw [Char.toNat_inj.mp hc]
      decide
    · rw [Char.toNat_inj.mp hc]
      decide

theorem exists_isAlpha_of_timeName {written : List Char} (h : written.map foldCase = timeName) :
    ∃ c cs, written = c :: cs ∧ c.isAlpha = true := by
  cases written with
  | nil => cases h
  | cons c cs => exact ⟨c, cs, rfl, isAlpha_of_foldCase (List.cons.inj h).1⟩

theorem tag?_of_openingTag? {cs written body rest : List Char}
    (h : openingTag? timeName cs = some (written, body, rest)) :
    tag? cs = some (openingTag written body, rest) := by
  unfold openingTag? at h
  split at h
  · rename_i cs
    simp only [Option.bind_eq_some_iff, Option.map_eq_some_iff, Prod.exists, Prod.mk.injEq] at h
    obtain ⟨t, r, hname, b, r', hbody, rfl, rfl, rfl⟩ := h
    obtain ⟨rfl, hwritten⟩ := (tagName?_eq_some_iff isName_timeName).mp hname
    have hall : ∀ c ∈ t, (!endsName c) = true := by
      intro c hc
      rw [endsName_of_mem_written isName_timeName hwritten hc]
      rfl
    have hends : ∀ c ∈ r.head?, (!endsName c) = false := by
      intro c hc
      cases r with
      | nil => cases hc
      | cons d ds =>
        rw [openingBody?_cons, Option.ite_none_right_eq_some] at hbody
        rw [← Option.some.inj hc, hbody.1]
        rfl
    have hstarts : startsName (t ++ r) = true := by
      obtain ⟨c, cs, rfl, halpha⟩ := exists_isAlpha_of_timeName hwritten
      have hne : c ≠ '/' := by
        rintro rfl
        exact absurd halpha (by decide)
      rw [List.cons_append, startsName]
      · exact halpha
      · exact fun _ _ heq _ => hne heq
    rw [tag?, if_pos hstarts, Text.takeWhile_append_of_head hall hends,
      Text.dropWhile_append_of_head hall hends, hbody]
    rfl
  · cases h

theorem paired_of_forall {cs : List Char} (h : ∀ c ∈ cs, c ≠ '>' ∧ opensQuote c = none) :
    Paired cs := by
  induction cs with
  | nil => exact .nil
  | cons c cs ih =>
    rw [List.forall_mem_cons] at h
    exact .cons h.1.1 h.1.2 (ih h.2)

/-- Closing tags hold neither quotes nor other brackets. -/
theorem IsClosing.forall_mem {name written blanks : List Char} (hn : IsName name)
    (hw : written.map foldCase = name) (hb : ∀ c ∈ blanks, isBlank c = true) :
    ∀ c ∈ '/' :: (written ++ blanks), c ≠ '>' ∧ opensQuote c = none := by
  have hletter {c : Char} (hc : c ∈ written) : 97 ≤ (foldCase c).toNat := by
    have hmem : foldCase c ∈ name := hw ▸ List.mem_map_of_mem hc
    exact (hn _ hmem).1
  intro c hc
  rw [opensQuote, ite_eq_right_iff]
  rcases List.mem_cons.mp hc with rfl | hc
  · decide
  · rcases List.mem_append.mp hc with hc | hc
    · have hfold := hletter hc
      refine ⟨?_, ?_⟩
      · rintro rfl
        revert hfold
        decide
      · rintro (rfl | rfl)
        · revert hfold
          decide
        · revert hfold
          decide
    · have hblank := hb c hc
      refine ⟨?_, ?_⟩
      · rintro rfl
        revert hblank
        decide
      · rintro (rfl | rfl)
        · revert hblank
          decide
        · revert hblank
          decide

theorem tag?_of_closingTag? {cs closing rest : List Char}
    (h : closingTag? timeName cs = some (closing, rest)) :
    tag? cs = some (closing, rest) := by
  obtain ⟨rfl, written, blanks, rfl, hw, hb⟩ := (closingTag?_eq_some_iff isName_timeName).mp h
  have hbody :=
    tagBody?_of_paired (paired_of_forall (IsClosing.forall_mem isName_timeName hw hb)) rest
  obtain ⟨c, cs, rfl, halpha⟩ := exists_isAlpha_of_timeName hw
  have happ : '<' :: '/' :: (c :: cs) ++ blanks ++ ['>'] ++ rest = '<' :: '/' ::
      (c :: cs ++ blanks ++ '>' :: rest) := by
    simp
  have hstarts : startsName ('/' :: (c :: cs ++ blanks ++ '>' :: rest)) = true := halpha
  have hslash : ¬ (!endsName '/') = true := by decide
  rw [List.cons_append] at hbody
  rw [happ, tag?, if_pos hstarts, List.dropWhile_cons_of_neg (p := fun c => !endsName c) hslash,
    List.takeWhile_cons_of_neg (p := fun c => !endsName c) hslash, openingBody?_cons,
    if_pos (by decide), hbody]
  simp [openingTag]

/-! ## Where tokens end -/

theorem IsClosing.eq_append_gt {name closing : List Char} (hn : IsName name)
    (h : IsClosing name closing) :
    ∃ cs, closing = cs ++ ['>'] ∧ '>' ∉ cs := by
  obtain ⟨written, blanks, rfl, hw, hb⟩ := h
  refine ⟨'<' :: '/' :: (written ++ blanks), by simp, ?_⟩
  rw [List.mem_cons, not_or]
  exact ⟨by decide, fun hmem => (IsClosing.forall_mem hn hw hb _ hmem).1 rfl⟩

/-- A closing tag that starts in front of a bracket does not run on behind it. -/
theorem closingTag?_append_gt {name : List Char} (hn : IsName name) (cs rest : List Char) :
    closingTag? name (cs ++ '>' :: rest) =
      (closingTag? name (cs ++ ['>'])).map fun (closing, behind) => (closing, behind ++ rest) := by
  cases hr : closingTag? name (cs ++ ['>']) with
  | some p =>
    obtain ⟨closing, behind⟩ := p
    obtain ⟨heq, hclosing⟩ := (closingTag?_eq_some_iff hn).mp hr
    refine (closingTag?_eq_some_iff hn).mpr ⟨?_, hclosing⟩
    rw [← List.append_assoc, ← heq, List.append_assoc]
    rfl
  | none =>
    rw [Option.map_none, Option.eq_none_iff_forall_ne_some]
    rintro ⟨closing, behind⟩ h
    obtain ⟨heq, hclosing⟩ := (closingTag?_eq_some_iff hn).mp h
    obtain ⟨ds, rfl, hds⟩ := hclosing.eq_append_gt hn
    have hfound : ∃ r, cs ++ ['>'] = ds ++ ['>'] ++ r := by
      rw [List.append_assoc] at heq
      rcases List.append_eq_append_iff.mp heq with ⟨as, rfl, has⟩ | ⟨as, rfl, has⟩
      · cases as with
        | nil => exact ⟨[], by simp⟩
        | cons a as =>
          obtain ⟨rfl, -⟩ := List.cons.inj has
          exact absurd (List.mem_append_right cs List.mem_cons_self) hds
      · cases as with
        | nil => exact ⟨[], by simp⟩
        | cons a as =>
          obtain ⟨rfl, -⟩ := List.cons.inj has
          exact ⟨as ++ ['>'], by simp⟩
    obtain ⟨r, hr'⟩ := hfound
    rw [hr', closingTag?_append_of_isClosing hn hclosing] at hr
    cases hr

theorem upToClosing?_append_gt {name : List Char} (hn : IsName name) (cs rest : List Char) :
    upToClosing? name (cs ++ '>' :: rest) =
      match upToClosing? name (cs ++ ['>']) with
      | some (content, closing, behind) => some (content, closing, behind ++ rest)
      | none => (upToClosing? name rest).map fun (content, closing, behind) =>
        (cs ++ '>' :: content, closing, behind) := by
  induction cs with
  | nil => rfl
  | cons c cs ih =>
    have hclosing := closingTag?_append_gt hn (c :: cs) rest
    rw [List.cons_append, List.cons_append] at hclosing
    rw [List.cons_append, List.cons_append, upToClosing?, upToClosing?, hclosing]
    cases closingTag? name (c :: (cs ++ ['>'])) with
    | some p => rfl
    | none =>
      simp only [Option.map_none, ih]
      cases upToClosing? name (cs ++ ['>']) with
      | some p => rfl
      | none => simp [Function.comp_def]

theorem verbatim?_ends {cs taken rest : List Char} (h : verbatim? cs = some (taken, rest)) :
    rest = [] ∨ ∃ front, taken = front ++ ['>'] := by
  rcases region?_cases (region?_of_verbatim? h) with ⟨t, heq, hc⟩ | ⟨name, t, hmem, heq, hr⟩ | ht
  · obtain rfl := Stretch.skipped.inj heq
    unfold comment? at hc
    split at hc
    · rename_i ds
      obtain ⟨rfl, hrest⟩ := Prod.mk.inj (Option.some.inj hc)
      rcases commentBody_cases (Prod.ext rfl hrest : commentBody ds = ((commentBody ds).1, rest))
        with hnil | ⟨inner, hinner, -⟩
      · exact Or.inl hnil
      · exact Or.inr ⟨'<' :: '!' :: '-' :: '-' :: (inner ++ ['-', '-']), by simp [hinner]⟩
    · cases hc
  · obtain rfl := Stretch.skipped.inj heq
    simp only [rawElement?, Option.map_eq_some_iff, Prod.exists] at hr
    obtain ⟨t, b, r, -, hr⟩ := hr
    split at hr
    · rename_i content closing r' hup
      obtain ⟨rfl, -⟩ := Prod.mk.inj hr
      have hn := isName_of_mem (List.mem_cons_of_mem timeName hmem)
      obtain ⟨ds, rfl, -⟩ := (isClosing_of_upToClosing? hn hup).eq_append_gt hn
      exact Or.inr ⟨openingTag t b ++ content ++ ds, by simp⟩
    · exact Or.inl (Prod.mk.inj hr).2.symm
  · simp only [timeElement?, Option.bind_eq_some_iff, Option.map_eq_some_iff, Prod.mk.injEq,
      reduceCtorEq, false_and, and_false, exists_false] at ht

/-- The next closing tag of a time element lies in the first token or behind it. -/
theorem upToClosing?_token {cs rest : List Char} {u : Token} (h : token? cs = some (u, rest)) :
    upToClosing? timeName cs =
      match upToClosing? timeName u.source with
      | some (content, closing, behind) => some (content, closing, behind ++ rest)
      | none => (upToClosing? timeName rest).map fun (content, closing, behind) =>
        (u.source ++ content, closing, behind) := by
  obtain ⟨happ, -⟩ := token?_append h
  have hbracket (hends : rest = [] ∨ ∃ front, u.source = front ++ ['>']) :
      upToClosing? timeName (u.source ++ rest) =
        match upToClosing? timeName u.source with
        | some (content, closing, behind) => some (content, closing, behind ++ rest)
        | none =>
          (upToClosing? timeName rest).map fun (content, closing, behind) =>
            (u.source ++ content, closing, behind) := by
    rcases hends with rfl | ⟨front, hfront⟩
    · cases hup : upToClosing? timeName u.source with
      | some p => simp [hup]
      | none => simp [hup, upToClosing?]
    · have hgt := upToClosing?_append_gt isName_timeName front rest
      rw [hfront, List.append_assoc, List.singleton_append, hgt]
      simp
  rcases token?_cases h with ⟨taken, rfl, hv⟩ | ⟨taken, rfl, -, ht⟩ | ⟨c, rfl, rfl, -, ht⟩
  · rw [← happ]
    exact hbracket (verbatim?_ends hv)
  · obtain ⟨-, name, body, rfl⟩ := tag?_eq_some ht
    rw [← happ]
    exact hbracket (Or.inr ⟨'<' :: name ++ body, rfl⟩)
  · -- A bracket of its own does not start a closing tag, as that would be a tag.
    have hnone : closingTag? timeName (c :: rest) = none := by
      cases hclosing : closingTag? timeName (c :: rest) with
      | none => rfl
      | some p =>
        rw [tag?_of_closingTag? hclosing] at ht
        cases ht
    have hsingle : upToClosing? timeName (Token.plain c).source = none := by
      simp [Token.source, upToClosing?, closingTag?]
    rw [upToClosing?, hnone, hsingle]
    rfl

end TimeMarkup.Markup
