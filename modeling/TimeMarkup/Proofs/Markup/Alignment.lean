import TimeMarkup.Proofs.Markup.Cuts
import TimeMarkup.Proofs.Markup.Tokens

/-!
# The scanner beside the reading

The scanner takes the content of a time element without looking for comments and raw elements in it.
It still follows the reading from left to right if no closing tag of a time element stands in one of
them, and if it cuts at the ends of tags. No comment and no raw element is then cut by an element,
whatever is nested in what.
-/

namespace TimeMarkup.Markup
open Text (Span byteLength byteLength_append)

/-- Where the scanner is when the reading comes to a token: between its stretches, or within a time
element. -/
inductive Stage
  | outside
  | within (asks : Bool)

/-- The scanner follows the reading. A tag outside of time elements starts one, or has a cut behind
it. A time element ends with a closing tag that stands in a tag; behind that, there is a cut at the
end of the tag. The closing tag stands in a comment or raw element only if nothing comes of it: the
element does not ask for a local time, and none is found in what is left of the comment. -/
def keepsWhole : Stage → List Token → Bool
  | _, [] => true
  | .outside, .tag cs :: us =>
    match timeElement? (cs ++ us.flatMap Token.source) with
    | some (s, _) => keepsWhole (.within s.asks) us
    | none => decide (CutsBetween cs (us.flatMap Token.source)) && keepsWhole .outside us
  | .outside, _ :: us => keepsWhole .outside us
  | .within asks, u :: us =>
    match upToClosing? timeName u.source with
    | some (_, _, behind) =>
      (!u.isVerbatim || !asks && decide ((Document.parse behind).elements = [])) &&
        decide (CutsBetween behind (us.flatMap Token.source)) && keepsWhole .outside us
    | none => keepsWhole (.within asks) us

theorem cutsBetween_of_not_mem {cs : List Char} (h : '<' ∉ cs) (rest : List Char) :
    CutsBetween cs rest :=
  cutsBetween_of_scan (scan_plain_append h rest) (flatMap_source_plain cs)

theorem cutsBetween_tag {name body rest : List Char}
    (h : region? (openingTag name body ++ rest) = none)
    (hsingle : '<' ∉ (openingTag name body).tail) : CutsBetween (openingTag name body) rest :=
  cutsBetween_of_scan ((scan_of_not_region h).trans (congrArg _ (scan_plain_append hsingle rest)))
    (flatMap_source_plain _)

/-- A closing tag has a bracket of its own, so none is left for what stands behind it. -/
theorem not_mem_behind {cs front closing behind : List Char}
    (h : upToClosing? timeName cs = some (front, closing, behind)) (hsingle : '<' ∉ cs.tail) :
    '<' ∉ behind := by
  obtain ⟨ds, rfl, -⟩ := (isClosing_of_upToClosing? isName_timeName h).eq_lt_cons isName_timeName
  obtain ⟨d, es, heq⟩ : ∃ d es, front ++ '<' :: ds = d :: es :=
    List.exists_cons_of_ne_nil (List.append_ne_nil_of_right_ne_nil front (List.cons_ne_nil _ ds))
  rw [← upToClosing?_append h, heq] at hsingle
  exact fun hmem => hsingle (List.mem_append_right es hmem)

/-- Sources in which the scanner follows the reading for sure: there are no closing tags of time
elements in comments and raw elements, and a tag has no bracket but the one in front. -/
theorem keepsWhole_of_single {cs : List Char}
    (hverbatim : ∀ taken, .verbatim taken ∈ tokens cs → upToClosing? timeName taken = none)
    (hsingle : ∀ taken, .tag taken ∈ tokens cs → '<' ∉ taken.tail) (stage : Stage) :
    keepsWhole stage (tokens cs) = true := by
  fun_induction tokens cs generalizing stage with
  | case1 cs u rest hu ih =>
    have ih := ih (fun taken hmem => hverbatim taken (List.mem_cons_of_mem _ hmem))
      (fun taken hmem => hsingle taken (List.mem_cons_of_mem _ hmem))
    rcases token?_cases hu with ⟨taken, rfl, -⟩ | ⟨taken, rfl, hv, ht⟩ | ⟨c, rfl, -⟩
    · cases stage with
      | outside => exact ih _
      | within asks =>
        have hnone := hverbatim taken List.mem_cons_self
        rw [keepsWhole, Token.source, hnone]
        exact ih _
    · obtain ⟨happ, name, body, rfl⟩ := tag?_eq_some ht
      have hlt := hsingle _ List.mem_cons_self
      cases stage with
      | outside =>
        rw [keepsWhole, flatMap_source_tokens]
        cases htime : timeElement? (openingTag name body ++ rest) with
        | some p => exact ih _
        | none =>
          have hnone : region? (openingTag name body ++ rest) = none := by
            rw [happ, region?_of_not_verbatim? hv, ← happ, htime]
          have hcut := cutsBetween_tag hnone hlt
          simp only [hcut, decide_true, Bool.true_and]
          exact ih _
      | within asks =>
        rw [keepsWhole, Token.source_tag, flatMap_source_tokens]
        cases hup : upToClosing? timeName (openingTag name body) with
        | none => exact ih _
        | some p =>
          have hcut := cutsBetween_of_not_mem (not_mem_behind hup hlt) rest
          simp only [hcut, decide_true, Token.isVerbatim, Bool.not_false, Bool.true_or,
            Bool.true_and]
          exact ih _
    · cases stage with
      | outside => exact ih _
      | within asks =>
        have hnone : upToClosing? timeName [c] = none := by
          simp [upToClosing?, closingTag?]
        rw [keepsWhole, Token.source, hnone]
        exact ih _
  | case2 => cases stage <;> rfl

/-- The stretches of the scanner beside the tokens of the reading. The closing tag of a time element
may stand within a token. -/
inductive Aligned : List Token → List Stretch → Prop
  | nil : Aligned [] []
  | plain {us : List Token} {ss : List Stretch} (c : Char) (h : Aligned us ss) :
      Aligned (.plain c :: us) (.plain c :: ss)
  | verbatim {us : List Token} {ss : List Stretch} (cs : List Char) (h : Aligned us ss) :
      Aligned (.verbatim cs :: us) (.skipped cs :: ss)
  | tag {us : List Token} {ss : List Stretch} (cs : List Char) (h : Aligned us ss) :
      Aligned (.tag cs :: us) (scan cs ++ ss)
  | element {us inner : List Token} {ss : List Stretch} {u : Token}
      {name tagBody front closing behind : List Char} (hu : u.source = front ++ closing ++ behind)
      (hverbatim : u.isVerbatim = true →
        (Element.read tagBody 0 (inner.flatMap Token.source ++ front)).isOptedIn = false ∧
          (Document.parse behind).elements = [])
      (h : Aligned us ss) : Aligned (.tag (openingTag name tagBody) :: (inner ++ u :: us))
        (.time name tagBody (inner.flatMap Token.source ++ front) closing :: (scan behind ++ ss))

/-- Within a time element the reading goes on to the token with its closing tag. -/
theorem exists_closing_token {cs content closing rest : List Char} {asks : Bool}
    (hup : upToClosing? timeName cs = some (content, closing, rest))
    (h : keepsWhole (.within asks) (tokens cs) = true) :
    ∃ inner u front behind tail, tokens cs = inner ++ u :: tokens tail ∧
      content = inner.flatMap Token.source ++ front ∧
      u.source = front ++ closing ++ behind ∧ rest = behind ++ tail ∧
      (u.isVerbatim = true → asks = false ∧ (Document.parse behind).elements = []) ∧
      CutsBetween behind tail ∧ keepsWhole .outside (tokens tail) = true := by
  fun_induction tokens cs generalizing content with
  | case1 cs u r hu ih =>
    rw [upToClosing?_token hu] at hup
    rw [keepsWhole] at h
    cases hhere : upToClosing? timeName u.source with
    | some p =>
      obtain ⟨front, tag, behind⟩ := p
      rw [hhere] at hup
      obtain ⟨rfl, rfl, rfl⟩ : front = content ∧ tag = closing ∧ behind ++ r = rest := by
        simpa using hup
      simp only [hhere, Bool.and_eq_true, decide_eq_true_eq, flatMap_source_tokens] at h
      obtain ⟨⟨hverbatim, hcut⟩, hkeeps⟩ := h
      refine ⟨[], u, front, behind, r, rfl, rfl, (upToClosing?_append hhere).symm, rfl,
        fun hu => ?_, hcut, hkeeps⟩
      simpa [hu] using hverbatim
    | none =>
      rw [hhere] at hup
      simp only [hhere] at h
      simp only [Option.map_eq_some_iff, Prod.exists, Prod.mk.injEq] at hup
      obtain ⟨content', tag, behind', hup, rfl, rfl, rfl⟩ := hup
      obtain ⟨inner, v, front, behind, tail, htokens, rfl, hv, rfl, hverbatim, hcut, hkeeps⟩ :=
        ih hup h
      refine ⟨u :: inner, v, front, behind, tail, ?_, ?_, hv, rfl, hverbatim, hcut, hkeeps⟩
      · rw [htokens, List.cons_append]
      · rw [List.flatMap_cons, List.append_assoc]
  | case2 cs hnone =>
    rw [eq_nil_of_token? hnone] at hup
    cases hup

theorem aligned_tokens_scan {cs : List Char} (h : keepsWhole .outside (tokens cs) = true) :
    Aligned (tokens cs) (scan cs) := by
  induction hlength : cs.length using Nat.strongRecOn generalizing cs with
  | ind n ih =>
    subst hlength
    cases htoken : token? cs with
    | none =>
      rw [eq_nil_of_token? htoken, tokens_nil, scan_nil]
      exact .nil
    | some p =>
      obtain ⟨u, rest⟩ := p
      have hrest := token?_length htoken
      rw [tokens_of_token? htoken] at h ⊢
      rcases token?_cases htoken with
        ⟨taken, rfl, hv⟩ | ⟨taken, rfl, hv, ht⟩ | ⟨c, rfl, rfl, hv, ht⟩
      · rw [scan_of_region (region?_of_verbatim? hv)]
        exact .verbatim taken (ih _ hrest h rfl)
      · obtain ⟨happ, -⟩ := tag?_eq_some ht
        rw [keepsWhole, flatMap_source_tokens, happ] at h
        cases htime : timeElement? cs with
        | none =>
          simp only [htime, Bool.and_eq_true, decide_eq_true_eq] at h
          rw [← happ, h.1]
          exact .tag taken (ih _ hrest h.2 rfl)
        | some q =>
          obtain ⟨s, behind⟩ := q
          have hbehind := region?_length (region?_of_timeElement? htime)
          simp only [htime] at h
          rw [scan_of_region (region?_of_timeElement? htime)]
          simp only [timeElement?, Option.bind_eq_some_iff, Option.map_eq_some_iff, Prod.exists,
            Prod.mk.injEq] at htime
          obtain ⟨name, tagBody, r, ho, content, closing, r', hup, rfl, rfl⟩ := htime
          rw [tag?_of_openingTag? ho] at ht
          obtain ⟨rfl, rfl⟩ := Prod.mk.inj (Option.some.inj ht)
          obtain ⟨inner, u, front, left, tail, htokens, rfl, hu, rfl, hverbatim, hcut, hkeeps⟩ :=
            exists_closing_token hup h
          have htail : tail.length < cs.length := by
            rw [List.length_append] at hbehind
            omega
          rw [htokens, hcut]
          exact .element hu hverbatim (ih _ htail hkeeps rfl)
      · have hnone : region? (c :: rest) = none := by
          rw [region?_of_not_verbatim? hv]
          apply timeElement?_eq_none_of_openingTag?
          cases ho : openingTag? timeName (c :: rest) with
          | none => rfl
          | some q =>
            rw [tag?_of_openingTag? ho] at ht
            cases ht
        rw [scan_of_not_region hnone]
        exact .plain c (ih _ hrest h rfl)

/-! ## Spans of regions and places of elements -/

/-- Where the comments and raw elements lie if the first token starts at a place. -/
def verbatimSpans (place : Nat) : List Token → List Span
  | [] => []
  | .verbatim cs :: us => ⟨place, place + byteLength cs⟩ :: verbatimSpans (place + byteLength cs) us
  | u :: us => verbatimSpans (place + byteLength u.source) us

/-- The elements of stretches, each with the place where its opening tag starts. -/
def placedFrom (place : Nat) : List Stretch → List (Nat × Element)
  | [] => []
  | s :: ss =>
    (Element.ofStretch? place s).toList.map (place, ·) ++ placedFrom
      (place + byteLength s.source) ss

/-- The element does not start in the region, and its content neither starts nor ends within it. -/
def Uncut (region : Span) (p : Nat × Element) : Prop :=
  ¬ (region.start ≤ p.1 ∧ p.1 < region.stop) ∧
    ¬ (region.start < p.2.content.start ∧ p.2.content.start < region.stop) ∧
    ¬ (region.start < p.2.content.stop ∧ p.2.content.stop < region.stop)

instance (region : Span) (p : Nat × Element) : Decidable (Uncut region p) :=
  inferInstanceAs (Decidable (¬ _ ∧ ¬ _ ∧ ¬ _))

theorem map_snd_placedFrom (place : Nat) (ss : List Stretch) :
    (placedFrom place ss).map Prod.snd = Element.ofStretches place ss := by
  induction ss generalizing place with
  | nil => rfl
  | cons s ss ih =>
    rw [placedFrom, List.map_append, ih, List.map_map, Element.ofStretches]
    simp [Function.comp_def]

theorem placedFrom_append (place : Nat) (ss ts : List Stretch) :
    placedFrom place (ss ++ ts) =
      placedFrom place ss ++ placedFrom (place + byteLength (ss.flatMap Stretch.source)) ts := by
  induction ss generalizing place with
  | nil => rfl
  | cons s ss ih =>
    rw [List.cons_append, placedFrom, ih, placedFrom, List.flatMap_cons, byteLength_append,
      List.append_assoc, Nat.add_assoc]

theorem verbatimSpans_append (place : Nat) (us vs : List Token) :
    verbatimSpans place (us ++ vs) =
      verbatimSpans place us ++
        verbatimSpans (place + byteLength (us.flatMap Token.source)) vs := by
  induction us generalizing place with
  | nil => rfl
  | cons u us ih =>
    have hplace : place + byteLength u.source + byteLength (us.flatMap Token.source) =
        place + byteLength ((u :: us).flatMap Token.source) := by
      rw [List.flatMap_cons, byteLength_append, Nat.add_assoc]
    cases u with
    | verbatim cs =>
      rw [List.cons_append, verbatimSpans, ih, verbatimSpans, ← hplace]
      rfl
    | _ =>
      rw [List.cons_append, verbatimSpans, ih, verbatimSpans, ← hplace]
      · exact nofun
      · exact nofun

/-- What an element is made of. -/
theorem eq_of_mem_placedFrom {place : Nat} {ss : List Stretch} {p : Nat × Element}
    (h : p ∈ placedFrom place ss) :
    ∃ before name tagBody content closing behind,
      ss.flatMap Stretch.source =
        before ++ (openingTag name tagBody ++ content ++ closing ++ behind) ∧
      p.1 = place + byteLength before ∧
      p.2 = Element.read tagBody (p.1 + byteLength (openingTag name tagBody)) content := by
  induction ss generalizing place with
  | nil => cases h
  | cons s ss ih =>
    rw [placedFrom, List.mem_append, List.mem_map] at h
    rcases h with ⟨e, he, rfl⟩ | h
    · rw [Option.mem_toList] at he
      cases s with
      | time name tagBody content closing =>
        simp only [Element.ofStretch?, Option.ite_none_right_eq_some, Option.some.injEq] at he
        exact ⟨[], name, tagBody, content, closing, ss.flatMap Stretch.source, rfl, rfl, he.2.symm⟩
      | _ => cases he
    · obtain ⟨before, name, tagBody, content, closing, behind, hsource, hplace, he⟩ := ih h
      refine ⟨s.source ++ before, name, tagBody, content, closing, behind, ?_, ?_, he⟩
      · rw [List.flatMap_cons, hsource, ← List.append_assoc]
      · rw [hplace, byteLength_append, Nat.add_assoc]

theorem bounds_of_mem_placedFrom {place : Nat} {ss : List Stretch} {p : Nat × Element}
    (h : p ∈ placedFrom place ss) :
    place ≤ p.1 ∧ p.1 < p.2.content.start ∧ p.2.content.start ≤ p.2.content.stop ∧
      p.2.content.stop ≤ place + byteLength (ss.flatMap Stretch.source) := by
  obtain ⟨before, name, tagBody, content, closing, behind, hsource, hplace, he⟩ :=
    eq_of_mem_placedFrom h
  have hopening : 0 < byteLength (openingTag name tagBody) :=
    Text.byteLength_pos (List.cons_ne_nil _ _)
  simp only [he, Element.read, hsource, byteLength_append]
  omega

theorem placedFrom_eq_nil {cs : List Char} (h : (Document.parse cs).elements = []) (place : Nat) :
    placedFrom place (scan cs) = [] := by
  have hnone : Element.ofStretches place (scan cs) = [] :=
    Element.ofStretches_eq_nil_iff.mpr (Element.ofStretches_eq_nil_iff.mp h)
  rw [← map_snd_placedFrom, List.map_eq_nil_iff] at hnone
  exact hnone

theorem mem_verbatimSpans_cons {place : Nat} {u : Token} {us : List Token} {r : Span} :
    r ∈ verbatimSpans place (u :: us) ↔
      (u.isVerbatim = true ∧ r = ⟨place, place + byteLength u.source⟩) ∨
      r ∈ verbatimSpans (place + byteLength u.source) us := by
  cases u with
  | verbatim cs => simp [verbatimSpans, Token.isVerbatim, Token.source]
  | _ => simp [verbatimSpans, Token.isVerbatim]

theorem bounds_of_mem_verbatimSpans {place : Nat} {us : List Token} {r : Span}
    (h : r ∈ verbatimSpans place us) :
    place ≤ r.start ∧ r.start ≤ r.stop ∧ r.stop ≤ place + byteLength (us.flatMap Token.source) := by
  induction us generalizing place with
  | nil => cases h
  | cons u us ih =>
    rw [List.flatMap_cons, byteLength_append]
    rcases mem_verbatimSpans_cons.mp h with ⟨-, rfl⟩ | h
    · dsimp only
      omega
    · have hbounds := ih h
      omega

/-- Elements that are found wholly in front of a region, or wholly behind it, do not cut it. -/
theorem uncut_of_apart {place place' : Nat} {us : List Token} {ss : List Stretch} {r : Span}
    {p : Nat × Element} (hr : r ∈ verbatimSpans place us) (hp : p ∈ placedFrom place' ss)
    (h : place + byteLength (us.flatMap Token.source) ≤ place' ∨
      place' + byteLength (ss.flatMap Stretch.source) ≤ place) :
    Uncut r p := by
  have hregion := bounds_of_mem_verbatimSpans hr
  have hplaced := bounds_of_mem_placedFrom hp
  unfold Uncut
  omega

/-- An element does not cut the regions that lie within its content. -/
theorem uncut_of_within {place : Nat} {us : List Token} {r : Span} {p : Nat × Element}
    (hr : r ∈ verbatimSpans place us) (hstart : p.1 < p.2.content.start)
    (hplace : p.2.content.start ≤ place)
    (hstop : place + byteLength (us.flatMap Token.source) ≤ p.2.content.stop) : Uncut r p := by
  have hregion := bounds_of_mem_verbatimSpans hr
  unfold Uncut
  omega

theorem mem_placedFrom_time {place : Nat} {name tagBody content closing : List Char}
    {p : Nat × Element} (h : p ∈ placedFrom place [.time name tagBody content closing]) :
    (Element.read tagBody 0 content).isOptedIn = true ∧
      p = (place, Element.read tagBody (place + byteLength (openingTag name tagBody)) content) := by
  rw [placedFrom, placedFrom, List.append_nil, List.mem_map] at h
  obtain ⟨e, he, rfl⟩ := h
  rw [Option.mem_toList, Element.ofStretch?, Option.ite_none_right_eq_some] at he
  exact ⟨he.1, congrArg _ (Option.some.inj he.2).symm⟩

/-- Regions of the reading are not cut by the elements of the scanner beside it. -/
theorem Aligned.uncut {us : List Token} {ss : List Stretch} (h : Aligned us ss) {place : Nat}
    {r : Span} {p : Nat × Element} (hr : r ∈ verbatimSpans place us)
    (hp : p ∈ placedFrom place ss) : Uncut r p := by
  induction h generalizing place with
  | nil => cases hr
  | plain c _ ih => exact ih hr hp
  | @verbatim us ss cs _ ih =>
    have hp : p ∈ placedFrom (place + byteLength cs) ss := hp
    rw [← List.singleton_append, verbatimSpans_append, List.flatMap_singleton, List.mem_append]
      at hr
    rcases hr with hr | hr
    · exact uncut_of_apart hr hp (.inl (by rw [List.flatMap_singleton]; rfl))
    · exact ih hr hp
  | @tag us ss cs _ ih =>
    have hr : r ∈ verbatimSpans (place + byteLength cs) us := hr
    rw [placedFrom_append, flatMap_source_scan, List.mem_append] at hp
    rcases hp with hp | hp
    · exact uncut_of_apart hr hp (.inr (by rw [flatMap_source_scan]))
    · exact ih hr hp
  | @element us inner ss u name tagBody front closing behind hu hverbatim _ ih =>
    have hopening : 0 < byteLength (openingTag name tagBody) :=
      Text.byteLength_pos (List.cons_ne_nil _ _)
    have htoken : byteLength u.source = byteLength front + byteLength closing +
        byteLength behind := by
      rw [hu, byteLength_append, byteLength_append]
    have htime :
        byteLength
          (Stretch.time name tagBody (inner.flatMap Token.source ++ front) closing).source =
        byteLength (openingTag name tagBody) +
          (byteLength (inner.flatMap Token.source) + byteLength front) + byteLength closing := by
      rw [Stretch.source, byteLength_append, byteLength_append, byteLength_append]
    have hend :
        place + byteLength
          (Stretch.time name tagBody (inner.flatMap Token.source ++ front) closing).source +
          byteLength behind =
        place + byteLength (openingTag name tagBody) + byteLength (inner.flatMap Token.source) +
          byteLength u.source := by
      omega
    -- the regions: those within the content, the token of the closing tag, and those behind it
    have hr : r ∈ verbatimSpans (place + byteLength (openingTag name tagBody))
        (inner ++ ([u] ++ us)) := hr
    rw [verbatimSpans_append, verbatimSpans_append, List.flatMap_singleton, List.mem_append,
      List.mem_append] at hr
    -- the elements: the one with this content, those in what is left of its last token, and those
    -- behind it
    rw [← List.singleton_append, placedFrom_append, placedFrom_append, List.flatMap_singleton,
      flatMap_source_scan, hend, List.mem_append, List.mem_append] at hp
    have hlast : r ∈ verbatimSpans (place + byteLength (openingTag name tagBody) + byteLength
        (inner.flatMap Token.source)) [u] → u.isVerbatim = true := by
      intro hr
      rcases mem_verbatimSpans_cons.mp hr with ⟨hv, -⟩ | hr
      · exact hv
      · cases hr
    rcases hp with hp | hp | hp
    · obtain ⟨hasks, hread⟩ := mem_placedFrom_time hp
      rcases hr with hr | hr | hr
      · rw [hread]
        refine uncut_of_within hr ?_ (Nat.le_refl _) ?_
        · simpa only [Element.read, Nat.lt_add_right_iff_pos] using hopening
        · simp only [Element.read, byteLength_append, Nat.add_assoc, Nat.le_add_right,
            Nat.add_le_add_iff_left]
      · exact absurd hasks (Bool.eq_false_iff.mp (hverbatim (hlast hr)).1)
      · refine uncut_of_apart hr hp (.inr ?_)
        rw [List.flatMap_singleton]
        omega
    · rcases hr with hr | hr | hr
      · refine uncut_of_apart hr hp (.inl ?_)
        omega
      · rw [placedFrom_eq_nil (hverbatim (hlast hr)).2] at hp
        cases hp
      · refine uncut_of_apart hr hp (.inr ?_)
        rw [flatMap_source_scan, hend]
    · rcases hr with hr | hr | hr
      · refine uncut_of_apart hr hp (.inl ?_)
        omega
      · refine uncut_of_apart hr hp (.inl ?_)
        rw [List.flatMap_singleton]
      · exact ih hr hp

end TimeMarkup.Markup
