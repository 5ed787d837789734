import Mathlib.Data.List.Forall2
import TimeMarkup.Proofs.Markup.Quotations

/-!
# Markup with other contents

Contents without quotation marks and brackets are put in place of others, in which no quotation of a
tag in front ends. A reader of tags that runs across such a content leaves it with the same
quotation mark open, so what was no tag before the change is none after it, and the scanner cuts the
new markup where it has cut the old one.
-/

namespace TimeMarkup.Markup

/-- The second stretch is the first one, or one that changes with its new content. -/
inductive Stretch.Refilled (changes : Stretch → Bool) : Stretch → Stretch → Prop
  | same (s : Stretch) : Refilled changes s s
  | content {old new : List Char} (name tagBody closing : List Char) :
      changes (.time name tagBody old closing) = true → Unquoted new → '<' ∉ new →
      Refilled changes (.time name tagBody old closing) (.time name tagBody new closing)

/-- What is known of a stretch that a scanner has cut. -/
def Stretch.Formed : Stretch → Prop
  | plain _ => True
  | skipped cs => ∃ ds, cs = '<' :: ds
  | time _ _ _ closing => IsClosing timeName closing

theorem formed_of_region? {cs rest : List Char} {s : Stretch} (h : region? cs = some (s, rest)) :
    s.Formed ∧ ∀ c, s ≠ .plain c := by
  rcases region?_cases h with ⟨taken, rfl, hc⟩ | ⟨name, taken, hmem, rfl, hr⟩ | ht
  · refine ⟨?_, by simp⟩
    unfold comment? at hc
    split at hc
    · simp only [Option.some.injEq, Prod.mk.injEq] at hc
      exact ⟨_, hc.1.symm⟩
    · simp at hc
  · refine ⟨?_, by simp⟩
    simp only [rawElement?, Option.map_eq_some_iff, Prod.exists] at hr
    obtain ⟨t, b, r, -, hr⟩ := hr
    split at hr
    · exact ⟨_, (Prod.mk.inj hr).1.symm⟩
    · exact ⟨_, (Prod.mk.inj hr).1.symm⟩
  · simp only [timeElement?, Option.bind_eq_some_iff, Option.map_eq_some_iff, Prod.exists,
      Prod.mk.injEq] at ht
    obtain ⟨t, b, r, -, content, closing, r', hc, rfl, rfl⟩ := ht
    exact ⟨isClosing_of_upToClosing? isName_timeName hc, by simp⟩

theorem formed_of_mem_scan {cs : List Char} {s : Stretch} (h : s ∈ scan cs) : s.Formed := by
  fun_induction scan cs with
  | case1 => simp at h
  | case2 c cs t rest hr ih =>
    rcases List.mem_cons.mp h with rfl | h
    · exact (formed_of_region? hr).1
    · exact ih h
  | case3 c cs _ ih =>
    rcases List.mem_cons.mp h with rfl | h
    · trivial
    · exact ih h

theorem Stretch.Formed.eq_plain_or_lt {s : Stretch} (h : s.Formed) :
    (∃ c, s = .plain c) ∨ ∃ ds, s.source = '<' :: ds := by
  cases s with
  | plain c => exact Or.inl ⟨c, rfl⟩
  | skipped cs => exact Or.inr h
  | time name tagBody content closing => exact Or.inr ⟨_, rfl⟩

section
variable {changes : Stretch → Bool}

theorem Stretch.Refilled.formed {s t : Stretch} (h : Stretch.Refilled changes s t) (hs : s.Formed) :
    t.Formed := by
  cases h with
  | same => exact hs
  | content => exact hs

theorem flatMap_source_plain (cs : List Char) : (cs.map .plain).flatMap Stretch.source = cs := by
  induction cs with
  | nil => rfl
  | cons c cs ih => rw [List.map_cons, List.flatMap_cons, ih]; rfl

/-- A text without a bracket in front of stretches consists of plain ones. -/
theorem exists_plain_prefix {ss : List Stretch} {cs rest : List Char} (hss : ∀ s ∈ ss, s.Formed)
    (hcs : '<' ∉ cs) (h : ss.flatMap Stretch.source = cs ++ rest) :
    ∃ ts, ss = cs.map .plain ++ ts ∧ ts.flatMap Stretch.source = rest := by
  induction cs generalizing ss with
  | nil => exact ⟨ss, rfl, h⟩
  | cons c cs ih =>
    rw [List.mem_cons, not_or] at hcs
    cases ss with
    | nil => simp at h
    | cons s ss =>
      rw [List.flatMap_cons] at h
      rcases (hss s List.mem_cons_self).eq_plain_or_lt with ⟨d, rfl⟩ | ⟨ds, hs⟩
      · obtain ⟨rfl, htail⟩ := List.cons.inj h
        obtain ⟨ts, rfl, hts⟩ := ih (fun t ht => hss t (List.mem_cons_of_mem _ ht)) hcs.2 htail
        exact ⟨ts, rfl, hts⟩
      · rw [hs] at h
        exact absurd (List.cons.inj h).1 hcs.1

theorem exists_plain_of_refilled {ss ts' : List Stretch} {cs : List Char}
    (h : List.Forall₂ (Stretch.Refilled changes) ss (cs.map .plain ++ ts')) :
    ∃ ts, ss = cs.map .plain ++ ts ∧ List.Forall₂ (Stretch.Refilled changes) ts ts' := by
  induction cs generalizing ss with
  | nil => exact ⟨ss, rfl, h⟩
  | cons c cs ih =>
    rw [List.map_cons, List.cons_append, List.forall₂_cons_right_iff] at h
    obtain ⟨s, ss, hs, hss, rfl⟩ := h
    obtain ⟨ts, rfl, hts⟩ := ih hss
    cases hs with
    | same => exact ⟨ts, rfl, hts⟩

/-- Stretches that change hold a closing tag. -/
theorem eq_or_exists_closing {ss ss' : List Stretch} (hss : ∀ s ∈ ss, s.Formed)
    (h : List.Forall₂ (Stretch.Refilled changes) ss ss') :
    ss' = ss ∨ ∃ before closing after,
      ss.flatMap Stretch.source = before ++ (closing ++ after) ∧ IsClosing timeName closing := by
  induction h with
  | nil => exact Or.inl rfl
  | @cons s s' ss ss' hs _ ih =>
    have hs₁ := hss s List.mem_cons_self
    cases hs with
    | same =>
      rcases ih fun t ht => hss t (List.mem_cons_of_mem _ ht) with
        rfl | ⟨before, closing, after, heq, hc⟩
      · exact Or.inl rfl
      · exact Or.inr ⟨s.source ++ before, closing, after, by rw [List.flatMap_cons, heq]; simp, hc⟩
    | content name tagBody closing =>
      exact Or.inr
        ⟨_, closing, _, by rw [List.flatMap_cons, Stretch.source, List.append_assoc], hs₁⟩

/-- A tag that is read is followed by a closing tag of a time element. -/
def ClosedAfter (read : Option (List Char × List Char)) : Prop :=
  ∃ body rest, read = some (body, rest) ∧ upToClosing? timeName rest ≠ none

/-- The second reader only takes a tag if the first one does, and a tag with a closing tag behind it
only if the first one takes such a tag. -/
def Follows (first second : Option (List Char × List Char)) : Prop :=
  (second ≠ none → first ≠ none) ∧ (ClosedAfter second → ClosedAfter first)

section
variable {q : Option Char} {first second : Option (List Char × List Char)}

theorem Follows.of_closedAfter (h : ClosedAfter first) : Follows first second := by
  obtain ⟨body, rest, rfl, hclosed⟩ := h
  exact ⟨fun _ => Option.some_ne_none _, fun _ => ⟨body, rest, rfl, hclosed⟩⟩

theorem closedAfter_of_tagBody? {cs body rest closing : List Char}
    (hb : tagBody? q cs = some (body, rest)) (hc : IsClosing timeName closing)
    (before after : List Char) :
    ClosedAfter (tagBody? q (cs ++ (before ++ (closing ++ after)))) := by
  refine ⟨body, rest ++ (before ++ (closing ++ after)), tagBody?_append_of_some hb _, ?_⟩
  rw [← List.append_assoc]
  exact upToClosing?_ne_none isName_timeName hc _ _

/-- Two texts that are passed lead to the same run behind them. -/
theorem Follows.tagBody?_append {cs cs' ds ds' : List Char} (hcs : tagBody? q cs = none)
    (hcs' : tagBody? q cs' = none)
    (h : Follows (tagBody? (quoteAfter q cs) ds) (tagBody? (quoteAfter q cs') ds')) :
    Follows (tagBody? q (cs ++ ds)) (tagBody? q (cs' ++ ds')) := by
  rw [tagBody?_append_of_none hcs, tagBody?_append_of_none hcs']
  constructor
  · intro hne
    simp only [ne_eq, Option.map_eq_none_iff] at hne ⊢
    exact h.1 hne
  · rintro ⟨body, rest, hsome, hclosed⟩
    simp only [Option.map_eq_some_iff, Prod.exists, Prod.mk.injEq] at hsome
    obtain ⟨b, r, hsome, rfl, rfl⟩ := hsome
    obtain ⟨b', r', hsome', hclosed'⟩ := h.2 ⟨b, r, hsome, hclosed⟩
    exact ⟨cs ++ b', r', by rw [hsome']; rfl, hclosed'⟩

/-- A quotation that ends in neither of two contents is open behind both. -/
theorem Follows.tagBody?_content {tag old new ds ds' : List Char} {mark : Char}
    (htag : tagBody? q tag = none) (hquote : quoteAfter q tag = some mark) (hold : mark ∉ old)
    (hnew : mark ∉ new) (h : Follows (tagBody? (some mark) ds) (tagBody? (some mark) ds')) :
    Follows (tagBody? q (tag ++ (old ++ ds))) (tagBody? q (tag ++ (new ++ ds'))) := by
  obtain ⟨holdBody, holdQuote⟩ := passed_of_not_mem hold
  obtain ⟨hnewBody, hnewQuote⟩ := passed_of_not_mem hnew
  apply Follows.tagBody?_append htag htag
  rw [hquote]
  apply Follows.tagBody?_append holdBody hnewBody
  rwa [holdQuote, hnewQuote]

end

theorem follows_tagBody?_append {ss ss' : List Stretch} (hss : ∀ s ∈ ss, s.Formed)
    (hr : List.Forall₂ (Stretch.Refilled changes) ss ss') {q : Option Char} (cs : List Char)
    (h : tagBody? q cs = none →
      Follows (tagBody? (quoteAfter q cs) (ss.flatMap Stretch.source))
        (tagBody? (quoteAfter q cs) (ss'.flatMap Stretch.source))) :
    Follows (tagBody? q (cs ++ ss.flatMap Stretch.source))
      (tagBody? q (cs ++ ss'.flatMap Stretch.source)) := by
  cases hcs : tagBody? q cs with
  | none => exact .tagBody?_append hcs hcs (h hcs)
  | some p =>
    obtain ⟨body, rest⟩ := p
    rcases eq_or_exists_closing hss hr with rfl | ⟨before, closing, after, heq, hc⟩
    · exact ⟨id, id⟩
    · rw [heq]
      exact .of_closedAfter (closedAfter_of_tagBody? hcs hc before after)

/-- The run of a reader of tags over refilled stretches. What it has read behind the name of the tag
starts with a character that ends the name. -/
theorem follows_tagBody? {name written : List Char} (hmem : name ∈ timeName :: rawNames)
    (hw : written.map foldCase = name) {ss ss' : List Stretch} (hss : ∀ s ∈ ss, s.Formed)
    (hr : List.Forall₂ (Stretch.Refilled changes) ss ss') {c : Char} (hc : startsBody c = true)
    {cs : List Char} (hopen : tagBody? none (c :: cs) = none)
    (hkeeps : keepsMarks changes (written ++ c :: cs) ss = true) :
    Follows (tagBody? (quoteAfter none (c :: cs)) (ss.flatMap Stretch.source))
      (tagBody? (quoteAfter none (c :: cs)) (ss'.flatMap Stretch.source)) := by
  induction hr generalizing cs with
  | nil => exact ⟨id, id⟩
  | @cons s s' ss ss' hs hr ih =>
    have htail : ∀ t ∈ ss, t.Formed := fun t ht => hss t (List.mem_cons_of_mem _ ht)
    have hs₁ := hss s List.mem_cons_self
    -- the run over the other stretches, once this one is passed
    have hrest (hpassed : tagBody? (quoteAfter none (c :: cs)) s.source = none) :
        Follows (tagBody? (quoteAfter (quoteAfter none (c :: cs)) s.source)
          (ss.flatMap Stretch.source))
          (tagBody? (quoteAfter (quoteAfter none (c :: cs)) s.source)
            (ss'.flatMap Stretch.source)) := by
      have hboth : tagBody? none (c :: (cs ++ s.source)) = none :=
        tagBody?_append_eq_none_iff.mpr ⟨hopen, hpassed⟩
      have htext := keepsMarks_tail hkeeps
      rw [List.append_assoc, List.cons_append] at htext
      have hfollows := ih htail hboth htext
      rwa [← List.cons_append, quoteAfter_append] at hfollows
    simp only [List.flatMap_cons]
    cases hs with
    | same => exact follows_tagBody?_append htail hr _ hrest
    | @content old new elementName tagBody closing hchanges hnew _ =>
      simp only [Stretch.source, List.append_assoc]
      cases htag : tagBody? (quoteAfter none (c :: cs)) (openingTag elementName tagBody) with
      | some p => exact .of_closedAfter (closedAfter_of_tagBody? htag hs₁ old _)
      | none =>
        have hpassed : tagBody? none (c :: (cs ++ openingTag elementName tagBody)) = none :=
          tagBody?_append_eq_none_iff.mpr ⟨hopen, htag⟩
        have hmark := isMark_quoteAfter (isMark_quoteAfter isMark_none (c :: cs))
          (openingTag elementName tagBody)
        obtain ⟨mark, hquote⟩ :=
          exists_quoteAfter_of_passed (isMark_quoteAfter isMark_none (c :: cs)) htag
        rw [← openingTag] at hquote
        rw [hquote] at hmark
        -- the mark of the open quotation is in neither content
        have hold : mark ∉ old := by
          refine not_mem_of_keepsMarks hkeeps hchanges hmem ?_
          rw [List.append_assoc, List.cons_append,
            openMark?_append (isName_of_mem hmem) hw hc hpassed]
          rw [← List.cons_append, quoteAfter_append, hquote]
        apply Follows.tagBody?_content htag hquote hold (hmark.not_mem_of_unquoted hnew)
        refine follows_tagBody?_append htail hr closing fun hclosing => ?_
        obtain ⟨holdBody, holdQuote⟩ := passed_of_not_mem hold
        have hsource : quoteAfter (quoteAfter none (c :: cs))
            (Stretch.time elementName tagBody old closing).source =
            quoteAfter (some mark) closing := by
          rw [Stretch.source, quoteAfter_append, quoteAfter_append, hquote, holdQuote]
        rw [← hsource]
        apply hrest
        rw [Stretch.source, tagBody?_append_eq_none_iff, tagBody?_append_eq_none_iff,
          quoteAfter_append, hquote, holdQuote]
        exact ⟨⟨htag, holdBody⟩, hclosing⟩

theorem forall_formed_of_refilled {ss ss' : List Stretch} (hss : ∀ s ∈ ss, s.Formed)
    (hr : List.Forall₂ (Stretch.Refilled changes) ss ss') : ∀ s ∈ ss', s.Formed := by
  induction hr with
  | nil => exact hss
  | cons hs _ ih =>
    intro t ht
    rcases List.mem_cons.mp ht with rfl | ht
    · exact hs.formed (hss _ List.mem_cons_self)
    · exact ih (fun u hu => hss u (List.mem_cons_of_mem _ hu)) t ht

/-- A plain text in front of refilled stretches was in front of the original ones. -/
theorem exists_prefix_of_refilled {ss ss' : List Stretch} (hss : ∀ s ∈ ss, s.Formed)
    (hr : List.Forall₂ (Stretch.Refilled changes) ss ss') {cs rest : List Char} (hcs : '<' ∉ cs)
    (h : ss'.flatMap Stretch.source = cs ++ rest) :
    ∃ ts ts', ss = cs.map .plain ++ ts ∧
      ss.flatMap Stretch.source = cs ++ ts.flatMap Stretch.source ∧
      ts'.flatMap Stretch.source = rest ∧ (∀ s ∈ ts, s.Formed) ∧
      List.Forall₂ (Stretch.Refilled changes) ts ts' := by
  obtain ⟨ts', rfl, hts'⟩ := exists_plain_prefix (forall_formed_of_refilled hss hr) hcs h
  obtain ⟨ts, rfl, hts⟩ := exists_plain_of_refilled hr
  refine ⟨ts, ts', rfl, ?_, hts', fun s hs => hss s (List.mem_append_right _ hs), hts⟩
  rw [List.flatMap_append, flatMap_source_plain]

theorem openingBody?_cons (c : Char) (cs : List Char) :
    openingBody? (c :: cs) = if endsName c then tagBody? none (c :: cs) else none := by
  by_cases hc : c = '>'
  · subst c
    rfl
  · by_cases hs : (isBlank c || c == '/') = true
    · have hquote : opensQuote c = none := by
        unfold opensQuote
        rw [if_neg]
        rintro (rfl | rfl)
        · exact absurd hs (by decide)
        · exact absurd hs (by decide)
      rw [openingBody?, if_neg hc, if_pos hs, endsName, hs, Bool.true_or, if_pos rfl, tagBody?,
        if_neg hc, hquote]
    · have hends : endsName c = false := by
        rw [endsName, Bool.not_eq_true] at *
        rw [hs, Bool.false_or, beq_eq_false_iff_ne]
        exact hc
      rw [openingBody?, if_neg hc, if_neg hs, hends]
      rfl

theorem Follows.none_right (first : Option (List Char × List Char)) : Follows first none :=
  ⟨fun h => absurd rfl h, fun ⟨_, _, h, _⟩ => absurd h.symm (Option.some_ne_none _)⟩

theorem map_snd_openingTag? (name cs : List Char) :
    (openingTag? name ('<' :: cs)).map Prod.snd = (tagName? name cs).bind fun p =>
      openingBody? p.2 := by
  simp only [openingTag?, Option.map_bind]
  congr 1
  funext p
  simp only [Function.comp_apply, Option.map_map]
  exact Option.map_id'

theorem follows_openingBody? {name written : List Char} (hmem : name ∈ timeName :: rawNames)
    (hw : written.map foldCase = name) {ss ss' : List Stretch} (hss : ∀ s ∈ ss, s.Formed)
    (hr : List.Forall₂ (Stretch.Refilled changes) ss ss')
    (hkeeps : keepsMarks changes written ss = true) :
    Follows (openingBody? (ss.flatMap Stretch.source))
      (openingBody? (ss'.flatMap Stretch.source)) := by
  cases hcs' : ss'.flatMap Stretch.source with
  | nil => exact .none_right _
  | cons c cs' =>
    by_cases hc : endsName c
    · have hlt : '<' ∉ [c] := by
        rw [List.mem_singleton]
        rintro rfl
        exact absurd hc (by decide)
      have hsplit : ss'.flatMap Stretch.source = [c] ++ cs' := hcs'
      obtain ⟨ts, ts', rfl, hts, rfl, hf, hr'⟩ := exists_prefix_of_refilled hss hr hlt hsplit
      rw [keepsMarks_plain_append] at hkeeps
      rw [hts, List.singleton_append, openingBody?_cons, openingBody?_cons, if_pos hc, if_pos hc]
      refine follows_tagBody?_append hf hr' [c] fun hopen => ?_
      have hstarts : startsBody c = true := by
        rw [endsName, Bool.or_eq_true, beq_iff_eq] at hc
        rcases hc with hc | rfl
        · exact hc
        · cases hopen
      exact follows_tagBody? hmem hw hf hr' hstarts hopen hkeeps
    · rw [openingBody?_cons, if_neg hc]
      exact .none_right _

/-- As for the body of a tag, so for the whole of it. -/
theorem follows_openingTag? {ss ss' : List Stretch} (hss : ∀ s ∈ ss, s.Formed)
    (hr : List.Forall₂ (Stretch.Refilled changes) ss ss') (hkeeps : keepsMarks changes [] ss = true)
    {name : List Char} (hmem : name ∈ timeName :: rawNames) :
    Follows ((openingTag? name ('<' :: ss.flatMap Stretch.source)).map Prod.snd)
      ((openingTag? name ('<' :: ss'.flatMap Stretch.source)).map Prod.snd) := by
  have hn := isName_of_mem hmem
  rw [map_snd_openingTag?, map_snd_openingTag?]
  cases ht : tagName? name (ss'.flatMap Stretch.source) with
  | none => exact .none_right _
  | some p =>
    obtain ⟨written, rest⟩ := p
    obtain ⟨heq, hw⟩ := (tagName?_eq_some_iff hn).mp ht
    obtain ⟨ts, ts', rfl, hts, rfl, hf, hr'⟩ :=
      exists_prefix_of_refilled hss hr (lt_not_mem_written hn hw) heq
    rw [keepsMarks_plain_append] at hkeeps
    rw [(tagName?_eq_some_iff hn).mpr ⟨hts, hw⟩]
    exact follows_openingBody? hmem hw hf hr' hkeeps

theorem timeElement?_ne_none_iff {cs : List Char} :
    timeElement? cs ≠ none ↔ ClosedAfter ((openingTag? timeName cs).map Prod.snd) := by
  unfold timeElement? ClosedAfter
  cases openingTag? timeName cs with
  | none => simp
  | some p =>
    obtain ⟨written, body, rest⟩ := p
    simp [Option.map_eq_none_iff]

/-- No region starts where none has started. -/
theorem region?_eq_none_of_refilled {ss ss' : List Stretch} (hss : ∀ s ∈ ss, s.Formed)
    (hr : List.Forall₂ (Stretch.Refilled changes) ss ss') {c : Char}
    (hkeeps : c = '<' → keepsMarks changes [] ss = true)
    (h : region? (c :: ss.flatMap Stretch.source) = none) :
    region? (c :: ss'.flatMap Stretch.source) = none := by
  by_cases hc : c = '<'
  · subst c
    have hkeeps := hkeeps rfl
    obtain ⟨hcomment, hraw, htime⟩ := region?_eq_none_iff.mp h
    refine region?_eq_none_iff.mpr ⟨comment?_eq_none ?_, fun name hmem => ?_, ?_⟩
    · rintro - ⟨ds, hds⟩
      obtain ⟨ts, ts', -, hts, -⟩ := exists_prefix_of_refilled hss hr (by decide) hds.symm
      rw [hts] at hcomment
      simp [comment?] at hcomment
    · by_contra hne
      have hfirst := (follows_openingTag? hss hr hkeeps (List.mem_cons_of_mem timeName hmem)).1
        (by rwa [ne_eq, Option.map_eq_none_iff])
      rw [ne_eq, Option.map_eq_none_iff] at hfirst
      exact hfirst (hraw name hmem)
    · by_contra hne
      exact timeElement?_ne_none_iff.mpr ((follows_openingTag? hss hr hkeeps List.mem_cons_self).2
        (timeElement?_ne_none_iff.mp hne)) htime
  · exact region?_of_ne_lt hc _

/-- A time element stays one with another content that holds no bracket. -/
theorem timeElement?_refilled {name tagBody old new closing rest : List Char}
    (h : timeElement? (openingTag name tagBody ++ old ++ closing ++ rest) =
      some (.time name tagBody old closing, rest))
    (hnew : '<' ∉ new) (rest' : List Char) :
    timeElement? (openingTag name tagBody ++ new ++ closing ++ rest') =
      some (.time name tagBody new closing, rest') := by
  have hn := isName_timeName
  simp only [timeElement?, Option.bind_eq_some_iff, Option.map_eq_some_iff, Prod.exists,
    Prod.mk.injEq, Stretch.time.injEq] at h
  obtain ⟨t, b, r, ho, content, c, r', hc, ⟨rfl, rfl, rfl, rfl⟩, rfl⟩ := h
  have hlacks : ∀ tag, IsClosing timeName tag → ¬ tag <:+: new := by
    intro tag htag hwithin
    obtain ⟨cs, rfl, -⟩ := htag.eq_lt_cons hn
    exact hnew (hwithin.subset List.mem_cons_self)
  have hup := upToClosing?_of_isClosing hn hlacks (isClosing_of_upToClosing? hn hc) rest'
  have happ : openingTag t b ++ new ++ c ++ rest' = openingTag t b ++ (new ++ (c ++ rest')) :=
    by simp
  simp only [happ, timeElement?, openingTag?_local hn ho, Option.bind_some, hup, Option.map_some]

theorem flatMap_source_eq_nil {ss : List Stretch} (hss : ∀ s ∈ ss, s.Formed)
    (h : ss.flatMap Stretch.source = []) : ss = [] := by
  cases ss with
  | nil => rfl
  | cons s ss =>
    rw [List.flatMap_cons, List.append_eq_nil_iff] at h
    rcases (hss s List.mem_cons_self).eq_plain_or_lt with ⟨c, rfl⟩ | ⟨ds, hs⟩
    · exact absurd h.1 (List.cons_ne_nil c [])
    · rw [hs] at h
      exact absurd h.1 (List.cons_ne_nil _ _)

/-- What the scanner has found at the front of a text. -/
theorem scan_eq_cons {cs : List Char} {s : Stretch} {ss : List Stretch} (h : scan cs = s :: ss) :
    ((∃ c, s = .plain c ∧ region? (c :: ss.flatMap Stretch.source) = none) ∨
      region? cs = some (s, ss.flatMap Stretch.source)) ∧
      scan (ss.flatMap Stretch.source) = ss := by
  cases cs with
  | nil => simp at h
  | cons c cs =>
    cases hr : region? (c :: cs) with
    | some p =>
      obtain ⟨t, rest⟩ := p
      rw [scan_of_region hr] at h
      obtain ⟨rfl, rfl⟩ := List.cons.inj h
      rw [flatMap_source_scan]
      exact ⟨Or.inr rfl, rfl⟩
    | none =>
      rw [scan_of_not_region hr] at h
      obtain ⟨rfl, rfl⟩ := List.cons.inj h
      rw [flatMap_source_scan]
      exact ⟨Or.inl ⟨c, rfl, hr⟩, rfl⟩

/-- Refilled markup is cut where the original one was. -/
theorem scan_refilled {ss ss' : List Stretch} (h : scan (ss.flatMap Stretch.source) = ss)
    (hr : List.Forall₂ (Stretch.Refilled changes) ss ss') (hsealed : isSealed changes ss = true) :
    scan (ss'.flatMap Stretch.source) = ss' := by
  induction hr with
  | nil => exact scan_nil
  | @cons s s' ss ss' hs hr ih =>
    rw [isSealed, Bool.and_eq_true] at hsealed
    obtain ⟨hfront, htail⟩ := scan_eq_cons h
    have hss : ∀ t ∈ ss, t.Formed := fun t ht => formed_of_mem_scan (htail.symm ▸ ht)
    have ih := ih htail hsealed.2
    rw [List.flatMap_cons] at hfront ⊢
    rcases hfront with ⟨c, rfl, hnone⟩ | hregion
    · cases hs with
      | same =>
        have hkeeps (hc : c = '<') : keepsMarks changes [] ss = true := by
          simpa [hc] using hsealed.1
        have hnone' := region?_eq_none_of_refilled hss hr hkeeps hnone
        exact (scan_of_not_region hnone').trans (congrArg _ ih)
    · cases hs with
      | same =>
        have hend : ss.flatMap Stretch.source = [] → ss'.flatMap Stretch.source = [] := by
          intro hnil
          rw [flatMap_source_eq_nil hss hnil, List.forall₂_nil_left_iff] at hr
          rw [hr]
          rfl
        rw [scan_of_region (region?_local hregion hend), ih]
      | @content old new name tagBody closing _ _ hlt =>
        rcases region?_cases hregion with ⟨_, heq, _⟩ | ⟨_, _, _, heq, _⟩ | htime
        · simp at heq
        · simp at heq
        · have hnew := timeElement?_refilled htime hlt (ss'.flatMap Stretch.source)
          exact (scan_of_region (region?_of_timeElement? hnew)).trans (congrArg _ ih)

end

end TimeMarkup.Markup
