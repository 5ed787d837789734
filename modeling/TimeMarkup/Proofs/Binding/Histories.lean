import TimeMarkup.Binding.Binder
import TimeMarkup.Proofs.Binding.Outcomes
import TimeMarkup.Proofs.Markup.Rewriting

/-!
# Passes and texts in any order

Two documents are alike for passes if they only differ in the texts of elements that passes write. A
pass makes alike documents equal, and neither an earlier pass nor a text set for such an element
leads out of likeness. What came before the last pass therefore shows only in the elements that no
pass writes.
-/

namespace TimeMarkup
open Markup (Document Element)

namespace Markup

/-- The elements differ at most in what passes write. -/
structure Element.Alike (e e' : Element) : Prop where
  attributes : e.attributes = e'.attributes
  content : e.content = e'.content
  kept : isWritten e' = false → e = e'

namespace Element.Alike
variable {e e' : Element}

theorem refl (e : Element) : e.Alike e := ⟨rfl, rfl, fun _ => rfl⟩

theorem outcome_eq (h : e.Alike e') (f : Formatter) (now : Instant) :
    Outcome.of f now e = Outcome.of f now e' := by
  simp only [Outcome.of, TimeElement.attribute?, Element.attribute?, h.attributes]

theorem isWritten_eq (h : e.Alike e') : isWritten e = isWritten e' := by
  simp only [isWritten, TimeElement.attribute?, Element.attribute?, h.attributes]

theorem setText (h : e.Alike e') (text : List Char) : (e.setText text).Alike (e'.setText text) where
  attributes := h.attributes
  content := h.content
  kept hw := congrArg (Element.setText text) (h.kept hw)

theorem setText_left (h : e.Alike e') (hw : isWritten e' = true) (text : List Char) :
    (e.setText text).Alike e' where
  attributes := h.attributes
  content := h.content
  kept hn := absurd (hw.symm.trans hn) (by decide)

theorem bindElement_left (h : e.Alike e') (f : Formatter) (now : Instant) :
    (bindElement f now e).Alike e' := by
  cases hw : isWritten e' with
  | false => rwa [bindElement_of_not_isWritten f now (h.isWritten_eq.trans hw)]
  | true =>
    obtain ⟨text, -, hbind⟩ := bindElement_eq_setText f now (h.isWritten_eq.trans hw)
    rw [hbind]
    exact h.setText_left hw text

theorem bindElement_eq (h : e.Alike e') (f : Formatter) (now : Instant) :
    bindElement f now e = bindElement f now e' := by
  cases hw : isWritten e' with
  | false => rw [h.kept hw]
  | true =>
    obtain ⟨text, htext, hbind⟩ := bindElement_eq_setText f now hw
    obtain ⟨text', htext', hbind'⟩ := bindElement_eq_setText f now (h.isWritten_eq.trans hw)
    have hsame : text' = text := Option.some.inj (htext'.symm.trans (h.outcome_eq f now ▸ htext))
    rw [hbind, hbind', hsame]
    change Element.setText text e = Element.setText text e'
    rw [Element.setText, Element.setText, h.attributes, h.content]

end Element.Alike

namespace Document

/-- The documents differ at most in what passes write. -/
def Alike (d d' : Document) : Prop :=
  d.source = d'.source ∧ List.Forall₂ Element.Alike d.elements d'.elements

namespace Alike
variable {d d' : Document}

theorem refl (d : Document) : d.Alike d := ⟨rfl, List.forall₂_same.mpr fun e _ => .refl e⟩

theorem setText (h : d.Alike d') (index : Nat) (text : List Char) :
    (d.setText index text).Alike (d'.setText index text) :=
  ⟨h.1, forall₂_modify h.2 index fun _ _ _ he => he.setText text⟩

theorem setText_left (h : d.Alike d') {index : Nat} (hw : d'.elements[index]?.any isWritten = true)
    (text : List Char) : (d.setText index text).Alike d' := by
  refine ⟨h.1, ?_⟩
  have hes := forall₂_modify h.2 index (f := Element.setText text) (g := id) fun e e' he' he => by
    rw [he', Option.any_some] at hw
    exact he.setText_left hw text
  rwa [List.modify_id] at hes

theorem bind_left (h : d.Alike d') (f : Formatter) (now : Instant) : (d.bind f now).1.Alike d' := by
  rw [Document.bind_eq]
  exact ⟨h.1, List.forall₂_map_left_iff.mpr (h.2.imp fun _ _ he => he.bindElement_left f now)⟩

theorem bind_eq (h : d.Alike d') (f : Formatter) (now : Instant) :
    d.bind f now = d'.bind f now := by
  obtain ⟨hsource, hes⟩ := h
  have helements : d.elements.map (bindElement f now) = d'.elements.map (bindElement f now) :=
    map_eq_of_forall₂ (fun _ _ he => he.bindElement_eq f now) hes
  have houtcomes : outcomes f now d.elements = outcomes f now d'.elements :=
    map_eq_of_forall₂ (fun _ _ he => he.outcome_eq f now) hes
  simp only [Document.bind_eq, Document.map, hsource, helements, houtcomes]

end Alike

end Document
end Markup

namespace Binder

/-- The ways to start a pass. -/
inductive Pass
  | handled (trigger : Trigger) (clock : Instant)
  | atClock (clock : Instant)
  | atInstant (now clock : Instant)

namespace Pass

def instant : Pass → Instant
  | handled _ clock => clock
  | atClock clock => clock
  | atInstant now _ => now

/-- The document after the pass, and the report of the pass. -/
def run (f : Formatter) : Pass → Document → Document × Report
  | handled trigger clock => (Binder.mk f clock).handle trigger
  | atClock clock => (Binder.mk f clock).bindAll
  | atInstant now clock => (Binder.mk f clock).bindAllAt now

theorem run_eq_bind (f : Formatter) (p : Pass) (d : Document) : p.run f d = d.bind f p.instant := by
  cases p <;> rfl

end Pass

/-- What happens to a document over time. -/
inductive Step
  | pass (p : Pass)
  | setText (index : Nat) (text : List Char)

namespace Step

def apply (f : Formatter) : Step → Document → Document
  | pass p, d => (p.run f d).1
  | setText index text, d => d.setText index text

/-- The text that the step sets, with the number of elements before the one that it is set for. -/
def call? : Step → Option (Nat × List Char)
  | pass _ => none
  | setText index text => some (index, text)

/-- The step sets a text that no pass overwrites. -/
def lasts (d : Document) : Step → Bool
  | pass _ => false
  | setText index _ => !d.elements[index]?.any isWritten

theorem lasts_setText (index : Nat) (text : List Char) (d : Document) :
    lasts (d.setText index text) = lasts d := by
  funext step
  cases step with
  | pass p => rfl
  | setText i t =>
    rw [lasts, lasts, Document.elements_setText, List.getElem?_modify]
    cases d.elements[i]? with
    | none => rfl
    | some e =>
      have hset : isWritten (e.setText text) = isWritten e := isWritten_setText text e
      by_cases hi : index = i <;> simp [hi, hset]

end Step

def run (f : Formatter) (steps : List Step) (d : Document) : Document :=
  steps.foldl (fun d step => step.apply f d) d

theorem run_cons (f : Formatter) (step : Step) (steps : List Step) (d : Document) :
    run f (step :: steps) d = run f steps (step.apply f d) := rfl

theorem alike_run (f : Formatter) (steps : List Step) {d d' : Document} (h : d.Alike d') :
    (run f steps d).Alike (run f (steps.filter (Step.lasts d')) d') := by
  induction steps generalizing d d' with
  | nil => exact h
  | cons step steps ih =>
    cases step with
    | pass p =>
      have hpass : (Step.apply f (.pass p) d).Alike d' := by
        rw [Step.apply, Pass.run_eq_bind]
        exact h.bind_left f p.instant
      exact ih hpass
    | setText index text =>
      cases hlasts : Step.lasts d' (.setText index text) with
      | true =>
        rw [List.filter_cons_of_pos hlasts, run_cons, run_cons]
        have hboth := ih (h.setText index text)
        rwa [Step.lasts_setText] at hboth
      | false =>
        rw [List.filter_cons_of_neg (by simp [hlasts]), run_cons]
        rw [Step.lasts, Bool.not_eq_false'] at hlasts
        exact ih (h.setText_left hlasts text)

theorem getElem?_run (f : Formatter) (steps : List Step) {d : Document} {i : Nat} {e : Element}
    (he : d.elements[i]? = some e) (hw : isWritten e = false) :
    (run f steps d).elements[i]? = some
      ((Document.lastText? (steps.filterMap Step.call?) i).elim e fun text => e.setText text) := by
  induction steps generalizing d e with
  | nil => exact he
  | cons step steps ih =>
    cases step with
    | pass p =>
      have helement : (Step.apply f (.pass p) d).elements[i]? = some e := by
        rw [Step.apply, Pass.run_eq_bind, Document.bind_eq, Document.elements_map,
          List.getElem?_map, he, Option.map_some, bindElement_of_not_isWritten f p.instant hw]
      exact ih helement hw
    | setText index text =>
      rw [run_cons, List.filterMap_cons, Step.call?, Document.lastText?_cons]
      have helement : (Step.apply f (.setText index text) d).elements[i]? =
          some (if index = i then e.setText text else e) := by
        rw [Step.apply, Document.elements_setText, List.getElem?_modify, he]
        by_cases hi : index = i <;> simp [hi]
      by_cases hi : index = i
      · rw [if_pos hi] at helement ⊢
        rw [ih helement ((isWritten_setText text e).trans hw)]
        cases Document.lastText? (steps.filterMap Step.call?) i <;> rfl
      · rw [if_neg hi] at helement ⊢
        rw [ih helement hw, Option.or_none]

/-- Only the last pass counts. After any passes, one more leaves the document and gives the report
that it would have on its own; so does a pass after any history, except for the texts that were set
for elements that no pass writes, and these elements keep the last text of their own for good. -/
theorem only_lastPass_counts (f : Formatter) (d : Document) :
    (∀ passes : List Pass, ∀ p : Pass, p.run f (run f (passes.map .pass) d) = d.bind f p.instant) ∧
      (∀ p : Pass, p.run f (p.run f d).1 = p.run f d) ∧
      (∀ steps : List Step, ∀ p : Pass,
        p.run f (run f steps d) = p.run f (run f (steps.filter (Step.lasts d)) d)) ∧
      ∀ (steps : List Step) (i : Nat) (e : Element), d.elements[i]? = some e → isWritten e = false →
        (run f steps d).elements[i]? = some
          ((Document.lastText? (steps.filterMap Step.call?) i).elim e fun text =>
            e.setText text) := by
  have htraceless (steps : List Step) (p : Pass) :
      p.run f (run f steps d) = p.run f (run f (steps.filter (Step.lasts d)) d) := by
    rw [Pass.run_eq_bind, Pass.run_eq_bind]
    exact (alike_run f steps (.refl d)).bind_eq f p.instant
  have honly (passes : List Pass) (p : Pass) :
      p.run f (run f (passes.map .pass) d) = d.bind f p.instant := by
    have hnone : (passes.map Step.pass).filter (Step.lasts d) = [] := by
      rw [List.filter_eq_nil_iff]
      intro step hstep
      obtain ⟨q, -, rfl⟩ := List.mem_map.mp hstep
      simp [Step.lasts]
    rw [htraceless, hnone, Pass.run_eq_bind]
    rfl
  refine ⟨honly, fun p => ?_, htraceless, fun steps i e he hw => getElem?_run f steps he hw⟩
  exact (honly [p] p).trans (Pass.run_eq_bind f p d).symm

theorem text_kept_unknownMode :
    let d := Document.parse "<time datetime=0 data-local-time=week>then</time>".toList
    let e := Element.read " datetime=0 data-local-time=week".toList 38 "then".toList
    let steps :=
      [Step.setText 0 "now".toList, .pass (.atClock ⟨0, 0⟩), .pass (.handled .afterSwap ⟨9, 0⟩)]
    d.elements[0]? = some e ∧ isWritten e = false ∧
      (run ⟨default, .utc, 0⟩ steps d).elements[0]? = some (e.setText "now".toList) :=
  ⟨by decide +kernel, by decide +kernel,
    (only_lastPass_counts _ _).2.2.2 _ 0 _ (by decide +kernel) (by decide +kernel)⟩

end Binder

end TimeMarkup
