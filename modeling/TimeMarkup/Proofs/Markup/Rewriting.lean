import Mathlib.Data.List.Forall2
import TimeMarkup.Proofs.Markup.Layout

/-!
# Documents whose elements got new texts

Setting texts changes neither attributes nor places, so that the contents of the elements still
follow each other in the source. The markup of such a document is therefore always defined, and
differs from the source in the contents of the elements that got a text, where it has the last one.
-/

namespace TimeMarkup.Markup
open Text (Span byteLength)

theorem map_eq_of_forall₂ {α β γ : Type} {R : α → β → Prop} {f : α → γ} {g : β → γ} {as : List α}
    {bs : List β} (hfg : ∀ a b, R a b → f a = g b) (h : List.Forall₂ R as bs) :
    as.map f = bs.map g := by
  induction h with
  | nil => rfl
  | cons hab _ ih => rw [List.map_cons, List.map_cons, hfg _ _ hab, ih]

theorem forall₂_modify {α β : Type} {R : α → β → Prop} {as : List α} {bs : List β}
    (h : List.Forall₂ R as bs) (i : Nat) {f : α → α} {g : β → β}
    (hfg : ∀ a b, bs[i]? = some b → R a b → R (f a) (g b)) :
    List.Forall₂ R (as.modify i f) (bs.modify i g) := by
  induction h generalizing i with
  | nil => simp
  | cons hab h ih =>
    cases i with
    | zero => exact .cons (hfg _ _ rfl hab) h
    | succ i => exact .cons hab (ih i hfg)

/-- The second element is the first one up to a new text. -/
structure Element.IsRewriting (e₀ e : Element) : Prop where
  attributes : e.attributes = e₀.attributes
  content : e.content = e₀.content
  kept : e.isChanged = false → e = e₀

theorem Element.IsRewriting.refl (e : Element) : e.IsRewriting e := ⟨rfl, rfl, fun _ => rfl⟩

theorem Element.IsRewriting.setText {e₀ e : Element} (h : e₀.IsRewriting e) (text : List Char) :
    e₀.IsRewriting (e.setText text) :=
  ⟨h.attributes, h.content, fun hc => absurd hc (by simp)⟩

theorem Element.isChanged_of_mem_ofStretches {place : Nat} {ss : List Stretch} {e : Element}
    (h : e ∈ ofStretches place ss) : e.isChanged = false := by
  induction ss generalizing place with
  | nil => simp [ofStretches] at h
  | cons s ss ih =>
    rw [ofStretches, List.mem_append, Option.mem_toList] at h
    rcases h with h | h
    · cases s with
      | time name tagBody content closing =>
        simp only [ofStretch?, Option.ite_none_right_eq_some, Option.some.injEq] at h
        rw [← h.2]
        rfl
      | plain c => simp [ofStretch?] at h
      | skipped cs => simp [ofStretch?] at h
    · exact ih h

namespace Document

/-- The document is what markup became after texts were set. -/
def IsRewriting (source : List Char) (d : Document) : Prop :=
  d.source = source ∧ List.Forall₂ Element.IsRewriting (parse source).elements d.elements

theorem IsRewriting.parse (source : List Char) : IsRewriting source (parse source) :=
  ⟨rfl, List.forall₂_same.mpr fun e _ => .refl e⟩

theorem IsRewriting.setText {source : List Char} {d : Document} (h : IsRewriting source d)
    (index : Nat) (text : List Char) : IsRewriting source (d.setText index text) := by
  refine ⟨h.1, ?_⟩
  have hes :=
    forall₂_modify h.2 index (f := id) (g := Element.setText text) fun _ _ _ he => he.setText text
  rwa [List.modify_id] at hes

theorem IsRewriting.getElem? {source : List Char} {d : Document} (h : IsRewriting source d)
    {i : Nat} {e : Element} (he : d.elements[i]? = some e) :
    ∃ e₀, (Document.parse source).elements[i]? = some e₀ ∧ e₀.IsRewriting e := by
  have hes := h.2
  generalize (Document.parse source).elements = es₀ at hes ⊢
  generalize d.elements = es at he hes
  induction hes generalizing i with
  | nil => simp at he
  | @cons e₀ e' _ _ hhead _ ih =>
    cases i with
    | zero => exact ⟨e₀, rfl, Option.some.inj he ▸ hhead⟩
    | succ i => exact ih he

/-- Several texts set one after the other, each for the element with so many others before it. -/
def setTexts (calls : List (Nat × List Char)) (d : Document) : Document :=
  calls.foldl (fun d call => d.setText call.1 call.2) d

theorem IsRewriting.setTexts {source : List Char} {d : Document} (h : IsRewriting source d)
    (calls : List (Nat × List Char)) : IsRewriting source (d.setTexts calls) := by
  induction calls generalizing d with
  | nil => exact h
  | cons call calls ih => exact ih (h.setText call.1 call.2)

/-- The last text that calls set for the element with `index` others before it. -/
def lastText? (calls : List (Nat × List Char)) (index : Nat) : Option (List Char) :=
  (calls.reverse.find? fun call => call.1 = index).map (·.2)

theorem lastText?_cons (call : Nat × List Char) (calls : List (Nat × List Char)) (index : Nat) :
    lastText? (call :: calls) index =
      (lastText? calls index).or (if call.1 = index then some call.2 else none) := by
  unfold lastText?
  rw [List.reverse_cons, List.find?_append]
  cases List.find? (fun call => call.1 = index) calls.reverse with
  | some found => simp
  | none =>
    by_cases h : call.1 = index
    · simp [h]
    · simp [h]

theorem getElem?_setTexts (calls : List (Nat × List Char)) (d : Document) (index : Nat) :
    (d.setTexts calls).elements[index]? =
      d.elements[index]?.map fun e =>
        ((lastText? calls index).map fun text => e.setText text).getD e := by
  induction calls generalizing d with
  | nil => simp [setTexts, lastText?]
  | cons call calls ih =>
    have hstep : setTexts (call :: calls) d = setTexts calls (d.setText call.1 call.2) := rfl
    rw [hstep, ih, elements_setText, List.getElem?_modify, lastText?_cons]
    by_cases h : call.1 = index
    · cases d.elements[index]? with
      | none => simp
      | some e => cases hl : lastText? calls index <;> simp [h]
    · simp [h]

theorem html?_of_isRewriting {source : List Char} {d : Document} (h : IsRewriting source d) :
    d.html? = some ((Layout.ofStretches (scan source)).filled fun i =>
      d.elements[i]?.bind Element.newContent?) := by
  obtain ⟨hs, hes⟩ := h
  have hspans : d.elements.map (·.content) =
      Layout.spansFrom (byteLength ([] ++ [])) (Layout.ofStretches (scan source)).cuts := by
    rw [Layout.spansFrom_ofStretches]
    change _ = (Document.parse source).elements.map (·.content)
    exact (map_eq_of_forall₂ (fun _ _ he => he.content.symm) hes).symm
  have hwalk := withTexts?_of_spans [] [] (Layout.ofStretches (scan source)) d.elements hspans
  rw [Layout.source_ofStretches, flatMap_source_scan] at hwalk
  rw [html?, hs]
  exact hwalk

theorem isChanged_of_mem_parse {source : List Char} {e : Element}
    (h : e ∈ (parse source).elements) :
    e.isChanged = false :=
  Element.isChanged_of_mem_ofStretches h

theorem pairwise_elements_parse (source : List Char) :
    (parse source).elements.Pairwise fun e e' => e.content.stop < e'.content.start := by
  have h := Layout.spansFrom_pairwise (Layout.ofStretches_gap_ne_nil (scan source)) 0
  rw [Layout.spansFrom_ofStretches] at h
  exact List.pairwise_map.mp h

theorem slice?_content_of_getElem? {source content : List Char} {i : Nat} {e : Element}
    (he : (parse source).elements[i]? = some e)
    (hc : (Layout.ofStretches (scan source)).contents[i]? = some content) :
    Text.slice? e.content source = some content := by
  have hspan : (Layout.spansFrom (byteLength []) (Layout.ofStretches (scan source)).cuts)[i]? =
      some e.content := by
    rw [Layout.spansFrom_ofStretches, List.getElem?_map]
    exact congrArg (Option.map (·.content)) he
  have hslice := Layout.slice?_of_getElem? hspan hc
  rwa [List.nil_append, Layout.source_ofStretches, flatMap_source_scan] at hslice

theorem content_of_mem_parse {source : List Char} {e : Element} (h : e ∈ (parse source).elements) :
    ∃ before content after, source = before ++ content ++ after ∧
      e.content = ⟨byteLength before, byteLength before + byteLength content⟩ := by
  obtain ⟨i, hi, rfl⟩ := List.getElem_of_mem h
  have hlen : i < (Layout.ofStretches (scan source)).contents.length := by
    rw [Layout.contents, List.length_map, Layout.length_cuts_ofStretches 0]
    exact hi
  have hslice :=
    slice?_content_of_getElem? (List.getElem?_eq_getElem hi) (List.getElem?_eq_getElem hlen)
  obtain ⟨before, after, hsource, hspan⟩ := Text.slice?_eq_some_iff.mp hslice
  exact ⟨before, _, after, hsource, hspan⟩

/-- Serialisation only touches the contents of elements that got a text. Whatever the source, it can
be cut at the contents of its elements, which lie apart from each other and in order, and setting
any texts replaces just those contents by the last text each. -/
theorem html?_setTexts (source : List Char) :
    ∃ l : Layout, l.source = source ∧ l.spans = (parse source).elements.map (·.content) ∧
      (parse source).elements.Pairwise (fun e e' => e.content.stop < e'.content.start) ∧
      (∀ e ∈ (parse source).elements, ∃ before content after, source = before ++ content ++ after ∧
        e.content = ⟨byteLength before, byteLength before + byteLength content⟩) ∧
      ∀ calls, ((parse source).setTexts calls).html? =
        some (l.filled fun i => (lastText? calls i).map escape) := by
  refine ⟨Layout.ofStretches (scan source), ?_, Layout.spansFrom_ofStretches 0 (scan source),
    pairwise_elements_parse source, fun e he => content_of_mem_parse he, fun calls => ?_⟩
  · rw [Layout.source_ofStretches, flatMap_source_scan]
  · rw [html?_of_isRewriting ((IsRewriting.parse source).setTexts calls)]
    congr 1
    apply Layout.filled_congr
    intro i hi
    rw [Layout.length_cuts_ofStretches 0] at hi
    have helement : (parse source).elements[i]? = some (parse source).elements[i] :=
      List.getElem?_eq_getElem hi
    rw [getElem?_setTexts, helement, Option.map_some, Option.bind_some]
    have hchanged : (parse source).elements[i].isChanged = false :=
      isChanged_of_mem_parse (List.getElem_mem hi)
    cases lastText? calls i with
    | none => simp [Element.newContent?, hchanged]
    | some text => simp [Element.newContent?]

end Document

end TimeMarkup.Markup
