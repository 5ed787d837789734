import TimeMarkup.Proofs.Markup.Refilling
import TimeMarkup.Proofs.Markup.Rewriting

/-!
# Reading rewritten markup again

Where neither the new texts nor the contents in whose place they stand hold quotation marks,
rewritten markup has the elements of the document that it was written from.
-/

namespace TimeMarkup.Markup

/-- Stretches with new contents for some of the elements that ask for a local time. -/
def refill (new : Nat → Option (List Char)) : List Stretch → List Stretch
  | [] => []
  | .time name tagBody content closing :: ss =>
    if (Element.read tagBody 0 content).isOptedIn then
      .time name tagBody ((new 0).getD content) closing :: refill (fun i => new (i + 1)) ss
    else .time name tagBody content closing :: refill new ss
  | s :: ss => s :: refill new ss

theorem filled_ofStretches (new : Nat → Option (List Char)) (ss : List Stretch) :
    (Layout.ofStretches ss).filled new = (refill new ss).flatMap Stretch.source := by
  fun_induction refill new ss with
  | case1 => rfl
  | case2 new name tagBody content closing ss h ih =>
    rw [Layout.ofStretches, if_pos h, Layout.filled_cons, Layout.filled_behind, ih]
    simp [Stretch.source]
  | case3 new name tagBody content closing ss h ih =>
    rw [Layout.ofStretches, if_neg h, Layout.filled_behind, ih]
    rfl
  | case4 new s ss hs ih =>
    rw [Layout.ofStretches, Layout.filled_behind, ih]
    · rfl
    · exact hs

namespace Stretch

/-- The stretch is an element that asks for a local time. -/
def asks : Stretch → Bool
  | time _ tagBody content _ => (Element.read tagBody 0 content).isOptedIn
  | _ => false

def content : Stretch → List Char
  | time _ _ content _ => content
  | _ => []

theorem asks_other {s : Stretch}
    (h : ∀ name tagBody content closing, s = .time name tagBody content closing → False) :
    s.asks = false := by
  cases s with
  | time name tagBody content closing => exact absurd rfl (h name tagBody content closing)
  | _ => rfl

end Stretch

theorem refill_refill (new : Nat → Option (List Char)) (ss : List Stretch) :
    refill new (refill new ss) = refill new ss := by
  fun_induction refill new ss with
  | case1 => rfl
  | case2 new name tagBody content closing ss hopt ih =>
    have hopt' : (Element.read tagBody 0 ((new 0).getD content)).isOptedIn := hopt
    rw [refill, if_pos hopt', ih]
    cases new 0 <;> rfl
  | case3 new name tagBody content closing ss hopt ih => rw [refill, if_neg hopt, ih]
  | case4 new s ss hs ih =>
    rw [refill, ih]
    exact hs

theorem contents_ofStretches (ss : List Stretch) :
    (Layout.ofStretches ss).contents = (ss.filter Stretch.asks).map Stretch.content := by
  fun_induction Layout.ofStretches ss with
  | case1 => rfl
  | case2 name tagBody content closing ss hopt l ih =>
    have hasks : (Stretch.time name tagBody content closing).asks = true := hopt
    have hcontents := Layout.contents_behind closing (Layout.ofStretches ss)
    rw [List.filter_cons_of_pos hasks, List.map_cons, ← ih, ← hcontents]
    rfl
  | case3 name tagBody content closing ss hopt ih =>
    have hasks : ¬(Stretch.time name tagBody content closing).asks = true := hopt
    rw [Layout.contents_behind, List.filter_cons_of_neg hasks, ih]
  | case4 s ss hs ih =>
    rw [Layout.contents_behind, List.filter_cons_of_neg (by simp [Stretch.asks_other hs]), ih]

theorem refilled_refill {changes : Stretch → Bool} {new : Nat → Option (List Char)}
    {ss : List Stretch}
    (h : ∀ i s content, (ss.filter Stretch.asks)[i]? = some s → new i = some content →
      changes s = true ∧ Unquoted content ∧ '<' ∉ content) :
    List.Forall₂ (Stretch.Refilled changes) ss (refill new ss) := by
  fun_induction refill new ss with
  | case1 => exact .nil
  | case2 new name tagBody content closing ss hopt ih =>
    have hasks : (Stretch.time name tagBody content closing).asks = true := hopt
    rw [List.filter_cons_of_pos hasks] at h
    have htail := ih fun i s x => h (i + 1) s x
    cases hnew : new 0 with
    | none => exact .cons (.same _) htail
    | some x =>
      obtain ⟨hchanges, hx, hlt⟩ := h 0 _ x rfl hnew
      exact .cons (.content name tagBody closing hchanges hx hlt) htail
  | case3 new name tagBody content closing ss hopt ih =>
    have hasks : ¬(Stretch.time name tagBody content closing).asks = true := hopt
    rw [List.filter_cons_of_neg hasks] at h
    exact .cons (.same _) (ih h)
  | case4 new s ss hs ih =>
    rw [List.filter_cons_of_neg (by simp [Stretch.asks_other hs])] at h
    exact .cons (.same _) (ih h)

def Element.shown (e : Element) : List Attribute × List Char :=
  (e.attributes, e.text)

theorem Element.IsRewriting.textContent_newContent {tagBody content : List Char} {place : Nat}
    {e : Element} (h : (Element.read tagBody place content).IsRewriting e) :
    textContent (e.newContent?.getD content) = e.text := by
  rw [Element.newContent?]
  by_cases hc : e.isChanged
  · rw [if_pos hc]
    exact textContent_escape e.text
  · rw [if_neg hc, h.kept (by simpa using hc)]
    rfl

theorem map_shown_refill {ss : List Stretch} {es : List Element} {place : Nat} (place' : Nat)
    (h : List.Forall₂ Element.IsRewriting (Element.ofStretches place ss) es) :
    (Element.ofStretches place' (refill (fun i => es[i]?.bind Element.newContent?) ss)).map
      Element.shown = es.map Element.shown := by
  generalize hnew : (fun i : Nat => es[i]?.bind Element.newContent?) = new
  fun_induction refill new ss generalizing place place' es with
  | case1 =>
    rw [Element.ofStretches, List.forall₂_nil_left_iff] at h
    rw [h]
    rfl
  | case2 new name tagBody content closing ss hopt ih =>
    rw [Element.ofStretches_optedIn hopt, List.forall₂_cons_left_iff] at h
    obtain ⟨e, es, he, hes, rfl⟩ := h
    have hhead : textContent ((new 0).getD content) = e.text := by
      rw [← hnew]
      exact he.textContent_newContent
    have htail :=
      ih (place' + Text.byteLength
        (Stretch.time name tagBody ((new 0).getD content) closing).source)
      hes (by rw [← hnew]; rfl)
    have hopt' : (Element.read tagBody 0 ((new 0).getD content)).isOptedIn := hopt
    rw [Element.ofStretches_optedIn hopt', List.map_cons, htail, List.map_cons, Element.shown,
      Element.shown, he.attributes, Element.read, hhead]
    rfl
  | case3 new name tagBody content closing ss hopt ih =>
    rw [Element.ofStretches_notOptedIn hopt] at h ⊢
    exact ih _ h hnew
  | case4 new s ss hs ih =>
    rw [Element.ofStretches_other hs] at h ⊢
    exact ih _ h hnew

namespace Document

/-- Neither the new texts nor the contents in whose place they stand hold quotation marks. -/
def ChangesUnquoted (d : Document) : Prop :=
  ∀ e ∈ d.elements, e.isChanged = true →
    Unquoted e.text ∧ ∀ content ∈ Text.slice? e.content d.source, Unquoted content

instance (d : Document) : Decidable d.ChangesUnquoted :=
  inferInstanceAs (Decidable (∀ e ∈ d.elements, _ →
    _ ∧ ∀ content ∈ Text.slice? e.content d.source, _))

/-- The scanner cuts the new markup where it has cut the source, unless a tag in front of a content
that changes leaves a quotation open that ends within it. -/
theorem scan_html_of_isRewriting {source : List Char} {d : Document} (h : IsRewriting source d)
    {changes : Stretch → Bool} (hsealed : isSealed changes (scan source) = true)
    (hchanges : ∀ (i : Nat) (e : Element) (s : Stretch), d.elements[i]? = some e →
      e.isChanged = true → ((scan source).filter Stretch.asks)[i]? = some s →
        changes s = true ∧ Unquoted e.text) :
    ∃ markup, d.html? = some markup ∧
      scan markup = refill (fun i => d.elements[i]?.bind Element.newContent?) (scan source) := by
  have hrefilled : List.Forall₂ (Stretch.Refilled changes) (scan source)
      (refill (fun i => d.elements[i]?.bind Element.newContent?) (scan source)) := by
    apply refilled_refill
    intro i s content hs hcontent
    obtain ⟨e, he, hnew⟩ := Option.bind_eq_some_iff.mp hcontent
    simp only [Element.newContent?, Option.ite_none_right_eq_some, Option.some.injEq] at hnew
    obtain ⟨hchanged, rfl⟩ := hnew
    obtain ⟨hs, htext⟩ := hchanges i e s he hchanged hs
    exact ⟨hs, htext.escape, lt_not_mem_escape _⟩
  refine ⟨_, html?_of_isRewriting h, ?_⟩
  rw [filled_ofStretches]
  exact scan_refilled (by rw [flatMap_source_scan]) hrefilled hsealed

theorem elements_parse_of_isRewriting {source : List Char} {d : Document} (h : IsRewriting source d)
    (hd : d.ChangesUnquoted) : ∃ markup, d.html? = some markup ∧
      (parse markup).elements.map Element.shown = d.elements.map Element.shown := by
  have hsealed : isSealed (fun s => decide (Unquoted s.content)) (scan source) = true :=
    isSealed_of_unquoted (fun _ _ _ _ hchanges => of_decide_eq_true hchanges) _
  obtain ⟨markup, hmarkup, hscan⟩ :=
    scan_html_of_isRewriting h hsealed fun i e s he hchanged hs => by
    obtain ⟨e₀, he₀, hrewriting⟩ := h.getElem? he
    obtain ⟨htext, hunquoted⟩ := hd e (List.mem_of_getElem? he) hchanged
    refine ⟨decide_eq_true (hunquoted s.content ?_), htext⟩
    rw [hrewriting.content, h.1]
    refine slice?_content_of_getElem? he₀ ?_
    rw [contents_ofStretches, List.getElem?_map, hs, Option.map_some]
  refine ⟨markup, hmarkup, ?_⟩
  rw [parse, hscan]
  exact map_shown_refill 0 h.2

/-- Rewriting survives reading the markup again, whatever the source: a text neither opens nor
closes a tag, and no element appears or disappears. Texts that were set over do not matter. -/
theorem shown_parse_html_setTexts (source : List Char) (calls : List (Nat × List Char))
    (h : ((parse source).setTexts calls).ChangesUnquoted) :
    ∃ markup, ((parse source).setTexts calls).html? = some markup ∧
      (parse markup).elements.map Element.shown =
        ((parse source).setTexts calls).elements.map Element.shown :=
  elements_parse_of_isRewriting ((IsRewriting.parse source).setTexts calls) h

/-- A quotation that is never closed runs across both elements, and another element is never
closed. -/
theorem shown_parse_html_openQuotation :
    let source := ("<p title=\"<time datetime=1 data-local-time=date>a<b></time>" ++
      "<TIME/Data-Local-Time='>'>b</time ><script>").toList
    let d :=
      (parse source).setTexts [(0, "'".toList), (0, "</time><script>&amp;".toList), (7, "x".toList)]
    d.ChangesUnquoted ∧ ∃ markup, d.html? = some markup ∧
      (parse markup).elements.map Element.shown = d.elements.map Element.shown :=
  ⟨by decide +kernel, shown_parse_html_setTexts _ _ (by decide +kernel)⟩

end Document

end TimeMarkup.Markup
