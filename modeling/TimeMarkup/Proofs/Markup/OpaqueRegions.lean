import TimeMarkup.Proofs.Markup.Alignment

/-!
# Comments and raw elements stay whole

The walk that puts new texts in leaves a region alone that lies apart from the contents it replaces.
Where the scanner follows the reading, a comment or raw element either lies apart from them or
within one.
-/

namespace TimeMarkup.Markup
open Text (byteLength byteLength_append)

theorem exists_append_of_byteLength_le {as bs cs ds : List Char} (h : as ++ bs = cs ++ ds)
    (hle : byteLength as ≤ byteLength cs) : ∃ es, cs = as ++ es ∧ bs = es ++ ds := by
  rcases List.append_eq_append_iff.mp h with ⟨es, rfl, rfl⟩ | ⟨es, rfl, rfl⟩
  · exact ⟨es, rfl, rfl⟩
  · cases es with
    | nil => exact ⟨[], by simp⟩
    | cons e es =>
      have hpos := Text.byteLength_pos (List.cons_ne_nil e es)
      rw [byteLength_append] at hle
      omega

theorem slice?_of_append {head tail taken : List Char} {place stop : Nat}
    (hstop : stop ≤ byteLength head) (h : Text.slice? ⟨place, stop⟩ (head ++ tail) = some taken) :
    Text.slice? ⟨place, stop⟩ head = some taken := by
  obtain ⟨x, y, hsource, hspan⟩ := Text.slice?_eq_some_iff.mp h
  have hlength : byteLength (x ++ taken) ≤ byteLength head := by
    rw [byteLength_append, ← (Text.Span.mk.inj hspan).2]
    exact hstop
  obtain ⟨z, rfl, -⟩ := exists_append_of_byteLength_le hsource.symm hlength
  exact Text.slice?_eq_some_iff.mpr ⟨x, z, rfl, hspan⟩

/-- A slice that runs across a region. -/
theorem slice?_across {head region tail taken : List Char} {place stop : Nat}
    (hplace : place ≤ byteLength head) (hstop : byteLength (head ++ region) ≤ stop)
    (h : Text.slice? ⟨place, stop⟩ (head ++ region ++ tail) = some taken) :
    ∃ before behind, Text.sliceFrom? place head = some before ∧
      Text.slice? ⟨byteLength (head ++ region), stop⟩ (head ++ region ++ tail) = some behind ∧
      taken = before ++ region ++ behind := by
  obtain ⟨x, y, hsource, hspan⟩ := Text.slice?_eq_some_iff.mp h
  obtain ⟨rfl, rfl⟩ := Text.Span.mk.inj hspan
  rw [List.append_assoc, List.append_assoc] at hsource
  obtain ⟨before, rfl, htaken⟩ := exists_append_of_byteLength_le hsource.symm hplace
  rw [← List.append_assoc] at htaken
  have hlength : byteLength (before ++ region) ≤ byteLength taken := by
    simp only [byteLength_append] at hstop ⊢
    omega
  obtain ⟨behind, rfl, rfl⟩ := exists_append_of_byteLength_le htaken.symm hlength
  refine ⟨before, behind, Text.sliceFrom?_append x before,
    Text.slice?_eq_some_iff.mpr ⟨x ++ before ++ region, y, ?_, ?_⟩, rfl⟩
  · simp
  · simp [Nat.add_assoc]

theorem sliceFrom?_across {head region tail out : List Char} {place : Nat}
    (hplace : place ≤ byteLength head)
    (h : Text.sliceFrom? place (head ++ region ++ tail) = some out) :
    ∃ before, Text.sliceFrom? place head = some before ∧ out = before ++ region ++ tail := by
  rw [Text.sliceFrom?, Option.map_eq_some_iff] at h
  obtain ⟨⟨x, y⟩, hcut, rfl⟩ := h
  obtain ⟨hsource, rfl⟩ := Text.cut?_eq_some_iff.mp hcut
  rw [List.append_assoc] at hsource
  obtain ⟨z, rfl, rfl⟩ := exists_append_of_byteLength_le hsource.symm hplace
  exact ⟨z, Text.sliceFrom?_append x z, by simp⟩

namespace Document

/-- The walk over elements apart from a region puts the region between what it makes of the two
sides. -/
theorem withTexts?_apart {head region tail out : List Char} (hne : region ≠ []) {place : Nat}
    {es : List Element} (hplace : place ≤ byteLength head)
    (hes : es.Pairwise fun e e' => e.content.stop ≤ e'.content.start)
    (hle : ∀ e ∈ es, e.content.start ≤ e.content.stop)
    (hapart : ∀ e ∈ es,
      e.content.stop ≤ byteLength head ∨ byteLength (head ++ region) ≤ e.content.start)
    (h : withTexts? (head ++ region ++ tail) place es = some out) :
    ∃ before behind,
      withTexts? head place (es.filter (·.content.stop ≤ byteLength head)) = some before ∧
      withTexts? (head ++ region ++ tail) (byteLength (head ++ region))
        (es.filter (byteLength (head ++ region) ≤ ·.content.start)) = some behind ∧
      out = before ++ region ++ behind := by
  have hregion : byteLength head < byteLength (head ++ region) := by
    have hpos := Text.byteLength_pos hne
    rw [byteLength_append]
    omega
  induction es generalizing place out with
  | nil =>
    obtain ⟨before, hbefore, rfl⟩ := sliceFrom?_across hplace h
    exact ⟨before, tail, hbefore, Text.sliceFrom?_append _ tail, rfl⟩
  | cons e es ih =>
    obtain ⟨hlater, hes'⟩ := List.pairwise_cons.mp hes
    have hle' := List.forall_mem_cons.mp hle
    have hapart' := List.forall_mem_cons.mp hapart
    simp only [withTexts?, Option.bind_eq_bind, Option.bind_eq_some_iff, Option.some.injEq] at h
    obtain ⟨taken, hslice, after, hafter, rfl⟩ := h
    rcases hapart'.1 with hfront | hback
    · -- the element stands in front of the region
      obtain ⟨before, behind, hbefore, hbehind, rfl⟩ := ih hfront hes' hle'.2 hapart'.2 hafter
      have hslice' : Text.slice? ⟨place, e.content.start⟩ head = some taken := by
        rw [List.append_assoc] at hslice
        exact slice?_of_append (Nat.le_trans hle'.1 hfront) hslice
      have hkept : (e :: es).filter (·.content.stop ≤ byteLength head) =
          e :: es.filter (·.content.stop ≤ byteLength head) :=
            List.filter_cons_of_pos (decide_eq_true hfront)
      have hdropped : (e :: es).filter (byteLength (head ++ region) ≤ ·.content.start) =
          es.filter (byteLength (head ++ region) ≤ ·.content.start) :=
        List.filter_cons_of_neg (by rw [decide_eq_true_eq]; omega)
      refine ⟨taken ++ escape e.text ++ before, behind, ?_, ?_, by simp⟩
      · rw [hkept, withTexts?, hslice', Option.bind_eq_bind, Option.bind_some, hbefore]
        rfl
      · rw [hdropped]
        exact hbehind
    · -- all elements stand behind it
      have hstart : ∀ e' ∈ e :: es, byteLength (head ++ region) ≤ e'.content.start := by
        intro e' he'
        rcases List.mem_cons.mp he' with rfl | he'
        · exact hback
        · exact Nat.le_trans hback (Nat.le_trans hle'.1 (hlater e' he'))
      have hnone : (e :: es).filter (·.content.stop ≤ byteLength head) = [] := by
        apply List.filter_eq_nil_iff.mpr
        intro e' he'
        have hbounds := And.intro (hstart e' he') (hle e' he')
        rw [decide_eq_true_eq]
        omega
      have hall : (e :: es).filter (byteLength (head ++ region) ≤ ·.content.start) = e :: es :=
        List.filter_eq_self.mpr fun e' he' => decide_eq_true (hstart e' he')
      obtain ⟨before, behind, hbefore, hbehind, rfl⟩ := slice?_across hplace hback hslice
      refine ⟨before, behind ++ escape e.text ++ after, ?_, ?_, by simp⟩
      · rw [hnone]
        exact hbefore
      · rw [hall, withTexts?, hbehind, Option.bind_eq_bind, Option.bind_some, hafter]
        rfl

/-- The elements of a source, each with the place where its opening tag starts. -/
def placed (source : List Char) : List (Nat × Element) :=
  placedFrom 0 (scan source)

theorem map_snd_placed (source : List Char) :
    (placed source).map Prod.snd = (parse source).elements :=
  map_snd_placedFrom 0 (scan source)

theorem mem_verbatimSpans_of_tokens {source region : List Char} {us vs : List Token}
    (h : tokens source = us ++ .verbatim region :: vs) :
    ⟨byteLength (us.flatMap Token.source), byteLength (us.flatMap Token.source ++ region)⟩ ∈
      verbatimSpans 0 (tokens source) := by
  rw [h, verbatimSpans_append, List.mem_append, mem_verbatimSpans_cons]
  refine Or.inr (Or.inl ⟨rfl, ?_⟩)
  rw [Nat.zero_add, ← byteLength_append]
  rfl

theorem IsRewriting.map_content {source : List Char} {d : Document} (h : IsRewriting source d) :
    d.elements.map (·.content) = (Document.parse source).elements.map (·.content) :=
  (map_eq_of_forall₂ (fun _ _ he => he.content.symm) h.2).symm

/-- New texts leave the contents of elements where they were. -/
theorem IsRewriting.exists_placed {source : List Char} {d : Document} (h : IsRewriting source d)
    {e : Element} (he : e ∈ d.elements) : ∃ p ∈ placed source, p.2.content = e.content := by
  have hcontent : e.content ∈ (Document.parse source).elements.map (·.content) :=
    h.map_content ▸ List.mem_map_of_mem he
  rw [← map_snd_placed, List.map_map] at hcontent
  exact List.mem_map.mp hcontent

theorem IsRewriting.pairwise_changed {source : List Char} {d : Document}
    (h : IsRewriting source d) :
    (d.elements.filter (·.isChanged)).Pairwise fun e e' => e.content.stop ≤ e'.content.start := by
  have hspans : (d.elements.map (·.content)).Pairwise fun s t => s.stop < t.start := by
    rw [h.map_content]
    exact List.pairwise_map.mpr (pairwise_elements_parse source)
  exact ((List.pairwise_map.mp hspans).filter _).imp Nat.le_of_lt

/-- Comments and raw elements are not cut. If the scanner follows the reading of a source, no
element starts in such a region, and no content starts or ends within it. Whatever texts are set,
either one of them stands for the whole region or the region stays as it is, between what becomes of
the two sides. -/
theorem region_kept_whole {source region : List Char} {us vs : List Token}
    (h : keepsWhole .outside (tokens source) = true)
    (htokens : tokens source = us ++ .verbatim region :: vs) {d : Document}
    (hd : IsRewriting source d) :
    let head := us.flatMap Token.source
    let start := byteLength head
    let stop := byteLength (head ++ region)
    let changed := d.elements.filter (·.isChanged)
    (placed source).map Prod.snd = (parse source).elements ∧
      (∀ p ∈ placed source, Uncut ⟨start, stop⟩ p) ∧
      ((∃ e ∈ changed, e.content.start ≤ start ∧ stop ≤ e.content.stop) ∨
        ∃ before behind, withTexts? head 0 (changed.filter (·.content.stop ≤ start)) = some before ∧
          withTexts? source stop (changed.filter (stop ≤ ·.content.start)) = some behind ∧
          d.html? = some (before ++ region ++ behind)) := by
  intro head start stop changed
  have huncut : ∀ p ∈ placed source, Uncut ⟨start, stop⟩ p := fun p hp =>
    (aligned_tokens_scan h).uncut (mem_verbatimSpans_of_tokens htokens) hp
  refine ⟨map_snd_placed source, huncut, ?_⟩
  have hsource : head ++ region ++ vs.flatMap Token.source = source := by
    rw [← flatMap_source_tokens source, htokens]
    simp [head, Token.source]
  have hne : region ≠ [] := by
    have hmem : Token.verbatim region ∈ tokens source := by
      rw [htokens]
      exact List.mem_append_right us List.mem_cons_self
    exact source_ne_nil_of_mem_tokens hmem
  have hmem {e : Element} (he : e ∈ changed) : e ∈ d.elements := (List.mem_filter.mp he).1
  have hle : ∀ e ∈ changed, e.content.start ≤ e.content.stop := by
    intro e he
    obtain ⟨p, hp, hcontent⟩ := hd.exists_placed (hmem he)
    exact hcontent ▸ (bounds_of_mem_placedFrom hp).2.2.1
  by_cases hwithin : ∃ e ∈ changed, e.content.start ≤ start ∧ stop ≤ e.content.stop
  · exact Or.inl hwithin
  · have hapart : ∀ e ∈ changed, e.content.stop ≤ start ∨ stop ≤ e.content.start := by
      intro e he
      obtain ⟨p, hp, hcontent⟩ := hd.exists_placed (hmem he)
      have hcut := huncut p hp
      have hnot : ¬ (e.content.start ≤ start ∧ stop ≤ e.content.stop) :=
        fun hboth => hwithin ⟨e, he, hboth⟩
      have hspan := hle e he
      simp only [Uncut, hcontent] at hcut
      omega
    have hhtml := html?_of_isRewriting hd
    generalize (Layout.ofStretches (scan source)).filled _ = out at hhtml
    have hwalk : withTexts? (head ++ region ++ vs.flatMap Token.source) 0 changed = some out := by
      rw [hsource, ← hd.1]
      exact hhtml
    obtain ⟨before, behind, hbefore, hbehind, rfl⟩ :=
      withTexts?_apart hne (Nat.zero_le _) hd.pairwise_changed hle hapart hwalk
    rw [hsource] at hbehind
    exact Or.inr ⟨before, behind, hbefore, hbehind, hhtml⟩

/-- There is a comment in front of an element, and a raw element and a quoted bracket within it. The
text of the element stands for the raw element. -/
theorem region_kept_whole_script :
    let front := "<!-- </time> --><time datetime=0 data-local-time=date>a".toList
    let script := "<script>'<time>'</script>".toList
    let back := "<p title='>'>b</time >".toList
    let source := front ++ script ++ back
    let us := tokens front
    let d := (parse source).setTexts [(0, "x".toList)]
    let head := us.flatMap Token.source
    let start := byteLength head
    let stop := byteLength (head ++ script)
    let changed := d.elements.filter (·.isChanged)
    keepsWhole .outside (tokens source) = true ∧
      tokens source = us ++ .verbatim script :: tokens back ∧
      IsRewriting source d ∧ (placed source).map Prod.snd = (parse source).elements ∧
      (∀ p ∈ placed source, Uncut ⟨start, stop⟩ p) ∧
      ((∃ e ∈ changed, e.content.start ≤ start ∧ stop ≤ e.content.stop) ∨
        ∃ before behind, withTexts? head 0 (changed.filter (·.content.stop ≤ start)) = some before ∧
          withTexts? source stop (changed.filter (stop ≤ ·.content.start)) = some behind ∧
          d.html? = some (before ++ script ++ behind)) := by
  intro front script back source us d head start stop changed
  have hkeeps : keepsWhole .outside (tokens source) = true := by decide +kernel
  have htokens : tokens source = us ++ .verbatim script :: tokens back := by decide +kernel
  have hd : IsRewriting source d := (IsRewriting.parse source).setTexts _
  exact ⟨hkeeps, htokens, hd, region_kept_whole hkeeps htokens hd⟩

/-- The closing tag in a comment ends the element. -/
theorem comment_cut :
    let front := "<time datetime=0 data-local-time=date>a".toList
    let comment := "<!-- </time> -->".toList
    let back := "b</time>".toList
    let source := front ++ comment ++ back
    tokens source = tokens front ++ .verbatim comment :: tokens back ∧
      (∃ p ∈ placed source, ¬ Uncut ⟨byteLength front, byteLength (front ++ comment)⟩ p) ∧
      ((parse source).setTexts [(0, "x".toList)]).html? =
        some "<time datetime=0 data-local-time=date>x</time> -->b</time>".toList := by
  decide +kernel

end Document

end TimeMarkup.Markup
