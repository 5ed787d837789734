import Mathlib.Data.List.Basic
import TimeMarkup.Markup.Document

/-!
# Markup cut at the contents of its elements

A layout is a text cut into the contents of elements and what stands between them. The scanner gives
one for each source, with no gap empty, and the walk that puts new texts in follows it from cut to
cut.
-/

namespace TimeMarkup.Markup
open Text (Span byteLength byteLength_append byteLength_pos slice?_append sliceFrom?_append)

namespace Element
variable {name tagBody content closing : List Char} {ss : List Stretch} {place : Nat}

theorem ofStretches_optedIn (h : (read tagBody 0 content).isOptedIn) :
    ofStretches place (.time name tagBody content closing :: ss) =
      read tagBody (place + byteLength (openingTag name tagBody)) content ::
        ofStretches (place + byteLength (Stretch.time name tagBody content closing).source) ss := by
  have hread : ofStretch? place (.time name tagBody content closing) =
      some (read tagBody (place + byteLength (openingTag name tagBody)) content) := if_pos h
  rw [ofStretches, hread]
  rfl

theorem ofStretches_notOptedIn (h : ¬ (read tagBody 0 content).isOptedIn) :
    ofStretches place (.time name tagBody content closing :: ss) =
      ofStretches (place + byteLength (Stretch.time name tagBody content closing).source) ss := by
  have hread : ofStretch? place (.time name tagBody content closing) = none := if_neg h
  rw [ofStretches, hread]
  rfl

theorem ofStretches_other {s : Stretch}
    (h : ∀ name tagBody content closing, s = .time name tagBody content closing → False) :
    ofStretches place (s :: ss) = ofStretches (place + byteLength s.source) ss := by
  have hread : ofStretch? place s = none := by
    cases s with
    | time name tagBody content closing => exact absurd rfl (h name tagBody content closing)
    | plain c => rfl
    | skipped cs => rfl
  rw [ofStretches, hread]
  rfl

end Element

/-- The contents of elements, each with the text in front of it, and the text after the last one. -/
structure Layout where
  cuts : List (List Char × List Char)
  rest : List Char

namespace Layout

def source (l : Layout) : List Char :=
  l.cuts.flatMap (fun cut => cut.1 ++ cut.2) ++ l.rest

/-- Where the contents lie if the first cut starts at a place. -/
def spansFrom (place : Nat) : List (List Char × List Char) → List Span
  | [] => []
  | (gap, content) :: cuts =>
    ⟨place + byteLength gap, place + byteLength gap + byteLength content⟩ ::
      spansFrom (place + byteLength gap + byteLength content) cuts

def spans (l : Layout) : List Span :=
  spansFrom 0 l.cuts

def contents (l : Layout) : List (List Char) :=
  l.cuts.map Prod.snd

/-- The text in which the contents with a new one are replaced. -/
def filled (new : Nat → Option (List Char)) (l : Layout) : List Char :=
  (l.cuts.mapIdx fun i cut => cut.1 ++ (new i).getD cut.2).flatten ++ l.rest

/-- The layout with more text in front. -/
def behind (before : List Char) : Layout → Layout
  | ⟨[], rest⟩ => ⟨[], before ++ rest⟩
  | ⟨(gap, content) :: cuts, rest⟩ => ⟨(before ++ gap, content) :: cuts, rest⟩

def ofStretches : List Stretch → Layout
  | [] => ⟨[], []⟩
  | .time name tagBody content closing :: ss =>
    if (Element.read tagBody 0 content).isOptedIn then
      let l := (ofStretches ss).behind closing
      ⟨(openingTag name tagBody, content) :: l.cuts, l.rest⟩
    else (ofStretches ss).behind (openingTag name tagBody ++ content ++ closing)
  | s :: ss => (ofStretches ss).behind s.source

@[simp] theorem source_behind (before : List Char) (l : Layout) :
    (l.behind before).source = before ++ l.source := by
  obtain ⟨_ | ⟨cut, cuts⟩, rest⟩ := l
  · rfl
  · simp [behind, source]

@[simp] theorem filled_behind (new : Nat → Option (List Char)) (before : List Char) (l : Layout) :
    (l.behind before).filled new = before ++ l.filled new := by
  obtain ⟨_ | ⟨cut, cuts⟩, rest⟩ := l
  · rfl
  · simp [behind, filled, List.mapIdx_cons]

@[simp] theorem contents_behind (before : List Char) (l : Layout) :
    (l.behind before).contents = l.contents := by
  obtain ⟨_ | ⟨cut, cuts⟩, rest⟩ := l
  · rfl
  · rfl

theorem spansFrom_behind (place : Nat) (before : List Char) (l : Layout) :
    spansFrom place (l.behind before).cuts = spansFrom (place + byteLength before) l.cuts := by
  obtain ⟨_ | ⟨cut, cuts⟩, rest⟩ := l
  · rfl
  · simp only [behind, spansFrom, byteLength_append, Nat.add_assoc]

theorem source_cons (cut : List Char × List Char) (cuts : List (List Char × List Char))
    (rest : List Char) :
    source ⟨cut :: cuts, rest⟩ = cut.1 ++ cut.2 ++ source ⟨cuts, rest⟩ := by
  simp [source]

theorem filled_cons (new : Nat → Option (List Char)) (cut : List Char × List Char)
    (cuts : List (List Char × List Char)) (rest : List Char) :
    filled new ⟨cut :: cuts, rest⟩ =
      cut.1 ++ (new 0).getD cut.2 ++ filled (fun i => new (i + 1)) ⟨cuts, rest⟩ := by
  simp [filled, List.mapIdx_cons]

theorem filled_congr {new new' : Nat → Option (List Char)} {l : Layout}
    (h : ∀ i < l.cuts.length, new i = new' i) : l.filled new = l.filled new' := by
  obtain ⟨cuts, rest⟩ := l
  induction cuts generalizing new new' with
  | nil => rfl
  | cons cut cuts ih =>
    have htail : filled (fun i => new (i + 1)) ⟨cuts, rest⟩ =
        filled (fun i => new' (i + 1)) ⟨cuts, rest⟩ :=
      ih fun i hi => h (i + 1) (Nat.succ_lt_succ hi)
    rw [filled_cons, filled_cons, htail, h 0 (Nat.zero_lt_succ _)]

theorem source_ofStretches (ss : List Stretch) :
    (ofStretches ss).source = ss.flatMap Stretch.source := by
  fun_induction ofStretches ss with
  | case1 => rfl
  | case2 name tagBody content closing ss _ l ih =>
    rw [source_cons, source_behind, ih]
    simp [Stretch.source]
  | case3 name tagBody content closing ss _ ih =>
    rw [source_behind, ih]
    rfl
  | case4 s ss _ ih =>
    rw [source_behind, ih]
    rfl

theorem spansFrom_ofStretches (place : Nat) (ss : List Stretch) :
    spansFrom place (ofStretches ss).cuts =
      (Element.ofStretches place ss).map (·.content) := by
  fun_induction ofStretches ss generalizing place with
  | case1 => rfl
  | case2 name tagBody content closing ss h l ih =>
    rw [spansFrom, spansFrom_behind, ih, Element.ofStretches_optedIn h]
    simp [Element.read, Stretch.source, Nat.add_assoc]
  | case3 name tagBody content closing ss h ih =>
    rw [spansFrom_behind, ih, Element.ofStretches_notOptedIn h]
    rfl
  | case4 s ss hs ih => rw [spansFrom_behind, ih, Element.ofStretches_other hs]

@[simp] theorem length_spansFrom (place : Nat) (cuts : List (List Char × List Char)) :
    (spansFrom place cuts).length = cuts.length := by
  induction cuts generalizing place with
  | nil => rfl
  | cons cut cuts ih => rw [spansFrom, List.length_cons, List.length_cons, ih]

theorem length_cuts_ofStretches (place : Nat) (ss : List Stretch) :
    (ofStretches ss).cuts.length = (Element.ofStretches place ss).length := by
  rw [← length_spansFrom place, spansFrom_ofStretches, List.length_map]

theorem behind_gap_ne_nil {l : Layout} (h : ∀ cut ∈ l.cuts, cut.1 ≠ []) (before : List Char) :
    ∀ cut ∈ (l.behind before).cuts, cut.1 ≠ [] := by
  obtain ⟨_ | ⟨cut, cuts⟩, rest⟩ := l
  · exact h
  · intro other hother
    rcases List.mem_cons.mp hother with rfl | hother
    · have hcut := h cut List.mem_cons_self
      simp [hcut]
    · exact h other (List.mem_cons_of_mem _ hother)

theorem ofStretches_gap_ne_nil (ss : List Stretch) : ∀ cut ∈ (ofStretches ss).cuts, cut.1 ≠ [] := by
  fun_induction ofStretches ss with
  | case1 => simp
  | case2 name tagBody content closing ss _ l ih =>
    intro cut hcut
    rcases List.mem_cons.mp hcut with rfl | hcut
    · simp [openingTag]
    · exact behind_gap_ne_nil ih closing cut hcut
  | case3 name tagBody content closing ss _ ih => exact behind_gap_ne_nil ih _
  | case4 s ss _ ih => exact behind_gap_ne_nil ih _

theorem start_lt_of_mem_spansFrom {place : Nat} {cuts : List (List Char × List Char)}
    (h : ∀ cut ∈ cuts, cut.1 ≠ []) {span : Span} (hs : span ∈ spansFrom place cuts) :
    place < span.start := by
  induction cuts generalizing place with
  | nil => simp [spansFrom] at hs
  | cons cut cuts ih =>
    have hgap := byteLength_pos (h cut List.mem_cons_self)
    rw [spansFrom] at hs
    rcases List.mem_cons.mp hs with rfl | hs
    · exact Nat.lt_add_of_pos_right hgap
    · have := ih (fun other ho => h other (List.mem_cons_of_mem _ ho)) hs
      omega

theorem spansFrom_pairwise {cuts : List (List Char × List Char)} (h : ∀ cut ∈ cuts, cut.1 ≠ [])
    (place : Nat) : (spansFrom place cuts).Pairwise fun s t => s.stop < t.start := by
  induction cuts generalizing place with
  | nil => exact .nil
  | cons cut cuts ih =>
    have hcuts : ∀ other ∈ cuts, other.1 ≠ [] := fun other ho => h other (List.mem_cons_of_mem _ ho)
    exact .cons (fun span hs => start_lt_of_mem_spansFrom hcuts hs) (ih hcuts _)

/-- Each span is that of its content in the source. -/
theorem slice?_of_getElem? {before content : List Char} {l : Layout} {i : Nat} {span : Span}
    (hs : (spansFrom (byteLength before) l.cuts)[i]? = some span)
    (hc : l.contents[i]? = some content) :
    Text.slice? span (before ++ l.source) = some content := by
  obtain ⟨cuts, rest⟩ := l
  induction cuts generalizing before i with
  | nil => simp [contents] at hc
  | cons cut cuts ih =>
    rw [contents, List.map_cons] at hc
    rw [spansFrom] at hs
    rw [source_cons]
    cases i with
    | zero =>
      rw [List.getElem?_cons_zero, Option.some.injEq] at hs hc
      subst hs hc
      have hslice := slice?_append (before ++ cut.1) cut.2 (source ⟨cuts, rest⟩)
      rw [byteLength_append] at hslice
      simpa using hslice
    | succ i =>
      rw [List.getElem?_cons_succ] at hs hc
      rw [← byteLength_append, ← byteLength_append] at hs
      have hslice := ih hs hc
      simpa using hslice

end Layout

/-- The markup that takes the place of an element's content, if its text has been set. -/
def Element.newContent? (e : Element) : Option (List Char) :=
  if e.isChanged then some (escape e.text) else none

namespace Document

/-- The walk over changed elements. `kept` is the text that it has passed since the last of them:
elements that are not changed do not move its cursor. -/
theorem withTexts?_of_spans (before kept : List Char) (l : Layout) (es : List Element)
    (h : es.map (·.content) = Layout.spansFrom (byteLength (before ++ kept)) l.cuts) :
    withTexts? (before ++ kept ++ l.source) (byteLength before) (es.filter (·.isChanged)) =
      some (kept ++ l.filled fun i => es[i]?.bind Element.newContent?) := by
  obtain ⟨cuts, rest⟩ := l
  induction cuts generalizing before kept es with
  | nil =>
    rw [Layout.spansFrom, List.map_eq_nil_iff] at h
    subst es
    rw [List.filter_nil, withTexts?, List.append_assoc, sliceFrom?_append]
    rfl
  | cons cut cuts ih =>
    obtain ⟨gap, content⟩ := cut
    cases es with
    | nil => simp [Layout.spansFrom] at h
    | cons e es =>
      rw [Layout.spansFrom, List.map_cons, List.cons.injEq] at h
      obtain ⟨hspan, hspans⟩ := h
      rw [Layout.source_cons, Layout.filled_cons, List.getElem?_cons_zero, Option.bind_some]
      simp only [List.getElem?_cons_succ]
      by_cases hc : e.isChanged
      · have hgap : Text.slice? ⟨byteLength before, e.content.start⟩
            (before ++ kept ++ (gap ++ content ++ (⟨cuts, rest⟩ : Layout).source)) = some
              (kept ++ gap) := by
          have hslice :=
            slice?_append before (kept ++ gap) (content ++ (⟨cuts, rest⟩ : Layout).source)
          rw [hspan]
          simpa [Nat.add_assoc] using hslice
        have hstop : e.content.stop = byteLength (before ++ kept ++ gap ++ content) := by
          rw [hspan]
          simp [Nat.add_assoc]
        have hrest :=
          ih (before ++ kept ++ gap ++ content) [] es (by simpa [Nat.add_assoc] using hspans)
        rw [List.filter_cons_of_pos hc, withTexts?, hgap, hstop]
        simp only [List.append_nil, List.append_assoc] at hrest ⊢
        rw [hrest]
        simp [Element.newContent?, hc]
      · have hrest := ih before (kept ++ gap ++ content) es (by simpa [Nat.add_assoc] using hspans)
        rw [List.filter_cons_of_neg hc]
        simp only [List.append_assoc] at hrest ⊢
        rw [hrest]
        simp [Element.newContent?, hc]

end Document

end TimeMarkup.Markup
