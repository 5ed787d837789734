import TimeMarkup.Proofs.Binding.Rebinding
import TimeMarkup.Proofs.Markup.ForeignTags

/-!
# Values of attributes of other elements

A value counts for nothing if the scanner cuts at its end and has found no element in it. The
elements of the document are then those in front of the tag and those behind it, and a pass leaves
the tag as it is, whatever its value.
-/

namespace TimeMarkup
open Markup (Document Element Stretch Part TagStart TagPart HidesValues scan refill)

/-- The stretch after a pass. -/
def Markup.Stretch.bound (f : Formatter) (now : Instant) : Stretch → Stretch
  | .time name tagBody content closing =>
    if (Element.read tagBody 0 content).isOptedIn then
      let text? := (Outcome.of f now (Element.read tagBody 0 content)).text?
      .time name tagBody ((text?.map Markup.escape).getD content) closing
    else .time name tagBody content closing
  | s => s

section
variable (f : Formatter) (now : Instant)

theorem Markup.Stretch.bound_of_not_asks {s : Stretch} (h : s.asks = false) :
    s.bound f now = s := by
  cases s with
  | time name tagBody content closing => exact if_neg (Bool.eq_false_iff.mp h)
  | _ => rfl

/-- A pass goes from stretch to stretch. -/
theorem refill_boundContent? (place : Nat) (ss : List Stretch) :
    refill (boundContent? (outcomes f now (Element.ofStretches place ss))) ss = ss.map
      (Stretch.bound f now) := by
  induction ss generalizing place with
  | nil => rfl
  | cons s ss ih =>
    rw [List.map_cons]
    cases s with
    | time name tagBody content closing =>
      by_cases hopt : (Element.read tagBody 0 content).isOptedIn
      · rw [Element.ofStretches_optedIn hopt, refill, if_pos hopt, Stretch.bound, if_pos hopt]
        exact congrArg _ (ih _)
      · rw [Element.ofStretches_notOptedIn hopt, refill, if_neg hopt, Stretch.bound,
          if_neg hopt, ih]
    | plain c => exact congrArg _ (ih _)
    | skipped cs => exact congrArg _ (ih _)

theorem html?_bind_eq_bound (source : List Char) :
    ((Document.parse source).bind f now).1.html? =
      some (((scan source).map (Stretch.bound f now)).flatMap Stretch.source) := by
  rw [html?_bind_parse, Document.parse, refill_boundContent?]

/-- The elements around a tag that hides its values, and what a pass makes of the markup. -/
theorem Markup.HidesValues.around {ps : List Part} {start : TagStart} {parts : List TagPart}
    {rest : List Char} (h : HidesValues ps start parts rest) :
    let whole := ps.flatMap Part.source ++ (Part.tag start parts).source ++ rest
    (Document.parse whole).elements.map Element.shown =
        (Document.parse (ps.flatMap Part.source)).elements.map Element.shown ++
          (Document.parse rest).elements.map Element.shown ∧
      ∃ before behind,
        ((Document.parse (ps.flatMap Part.source)).bind f now).1.html? = some before ∧
        ((Document.parse rest).bind f now).1.html? = some behind ∧
        ((Document.parse whole).bind f now).1.html? =
          some (before ++ (Part.tag start parts).source ++ behind) := by
  have hsource : ∀ ps : List Part, (ps.flatMap Part.stretches).flatMap Stretch.source =
      ps.flatMap Part.source := by
    intro ps
    rw [List.flatMap_assoc]
    simp only [Part.source_stretches]
  have hscan : scan (ps.flatMap Part.source ++ ((Part.tag start parts).source ++ rest)) =
      ps.flatMap Part.stretches ++ ((Part.tag start parts).stretches ++ scan rest) := by
    have hall := Part.scan_flatMap_append h.cuts
    simpa using hall
  have hfront : scan (ps.flatMap Part.source) = ps.flatMap Part.stretches :=
    (scan_of_scan_append hscan (hsource ps)).1
  have htag := asks_tag start h.silent
  constructor
  · have hnone : ∀ place, Element.ofStretches place (Part.tag start parts).stretches = [] :=
      fun _ => Element.ofStretches_eq_nil_iff.mpr htag
    rw [Document.parse, Document.parse, Document.parse, List.append_assoc, hscan, hfront,
      Element.ofStretches_append, Element.ofStretches_append, hnone, List.nil_append,
      List.map_append]
    exact congrArg _ (Element.map_shown_ofStretches _ 0 _)
  · refine ⟨_, _, html?_bind_eq_bound f now _, html?_bind_eq_bound f now _, ?_⟩
    have hkept : (Part.tag start parts).stretches.map (Stretch.bound f now) =
        (Part.tag start parts).stretches :=
      (List.map_congr_left fun s hs => Stretch.bound_of_not_asks f now (htag s hs)).trans
        (List.map_id _)
    rw [html?_bind_eq_bound, List.append_assoc, hscan, hfront, List.map_append, List.map_append,
      hkept, List.flatMap_append, List.flatMap_append, Part.source_stretches, List.append_assoc]

/-- The value of an attribute of another element is not markup. -/
theorem shown_and_html_around_value {ps : List Part} {start : TagStart} {front back : List TagPart}
    {value value' rest : List Char} {hvalue : '"' ∉ value} {hvalue' : '"' ∉ value'}
    (h : HidesValues ps start (front ++ .quoted '"' value rfl hvalue :: back) rest)
    (h' : HidesValues ps start (front ++ .quoted '"' value' rfl hvalue' :: back) rest) :
    let before := ps.flatMap Part.source
    let tag := fun v => start.source ++ front.flatMap TagPart.source ++ '"' :: v ++ '"' ::
      back.flatMap TagPart.source ++ ['>']
    (Document.parse (before ++ tag value ++ rest)).elements.map Element.shown =
        (Document.parse (before ++ tag value' ++ rest)).elements.map Element.shown ∧
      ∃ front behind, ((Document.parse before).bind f now).1.html? = some front ∧
        ((Document.parse rest).bind f now).1.html? = some behind ∧
        ((Document.parse (before ++ tag value ++ rest)).bind f now).1.html? = some
        (front ++ tag value ++ behind) ∧
        ((Document.parse (before ++ tag value' ++ rest)).bind f now).1.html? = some
        (front ++ tag value' ++ behind) := by
  have htag (v : List Char) (hv : '"' ∉ v) :
      (Part.tag start (front ++ .quoted '"' v rfl hv :: back)).source =
      start.source ++ front.flatMap TagPart.source ++ '"' :: v ++ '"' ::
      back.flatMap TagPart.source ++ ['>'] := by
    simp [Part.source, TagPart.source]
  obtain ⟨hshown, x, y, hx, hy, hhtml⟩ := h.around f now
  obtain ⟨hshown', x', y', hx', hy', hhtml'⟩ := h'.around f now
  rw [htag] at hshown hshown' hhtml hhtml'
  refine ⟨hshown.trans hshown'.symm, x, y, hx, hy, hhtml, ?_⟩
  rw [hhtml', Option.some.inj (hx'.symm.trans hx), Option.some.inj (hy'.symm.trans hy)]

end

/-- The tag is that of `<i '<b>'><p a="" b>` in front of an element. The first value holds a
comment, an element that does not ask for a local time, and brackets where nothing starts. -/
theorem shown_and_html_around_comment :
    let f : Formatter := ⟨.default, .utc, 0⟩
    let other : TagStart :=
      ⟨['i'], ' ', by decide, List.forall_mem_singleton.mpr rfl, by decide, by decide, by decide⟩
    let start : TagStart :=
      ⟨['p'], ' ', by decide, List.forall_mem_singleton.mpr rfl, by decide, by decide, by decide⟩
    let ps : List Part := [.tag other [.quoted '\x27' "<b>".toList rfl (by decide)]]
    let front : List TagPart := [.bare 'a' (by decide), .bare '=' (by decide)]
    let back : List TagPart := [.bare ' ' (by decide), .bare 'b' (by decide)]
    let value := "<!-- ' --><time datetime='1'>y</time> < <br>".toList
    let value' := "2 > 1".toList
    let rest := "<time datetime=0 data-local-time=date>x</time>".toList
    let before := ps.flatMap Part.source
    let tag := fun v => start.source ++ front.flatMap TagPart.source ++ '"' :: v ++ '"' ::
      back.flatMap TagPart.source ++ ['>']
    HidesValues ps start (front ++ .quoted '"' value rfl (by decide) :: back) rest ∧
      HidesValues ps start (front ++ .quoted '"' value' rfl (by decide) :: back) rest ∧
      (Document.parse (before ++ tag value ++ rest)).elements.map Element.shown =
        (Document.parse (before ++ tag value' ++ rest)).elements.map Element.shown ∧
      ∃ front behind, ((Document.parse before).bind f ⟨9, 0⟩).1.html? = some front ∧
        ((Document.parse rest).bind f ⟨9, 0⟩).1.html? = some behind ∧
        ((Document.parse (before ++ tag value ++ rest)).bind f ⟨9, 0⟩).1.html? = some
        (front ++ tag value ++ behind) ∧
        ((Document.parse (before ++ tag value' ++ rest)).bind f ⟨9, 0⟩).1.html? = some
        (front ++ tag value' ++ behind) := by
  intro f other start ps front back value value' rest before tag
  have h : HidesValues ps start (front ++ .quoted '"' value rfl (by decide) :: back) rest :=
    ⟨by decide +kernel, by decide +kernel⟩
  have h' : HidesValues ps start (front ++ .quoted '"' value' rfl (by decide) :: back) rest :=
    ⟨by decide +kernel, by decide +kernel⟩
  exact ⟨h, h', shown_and_html_around_value f ⟨9, 0⟩ h h'⟩

/-- A time element in a value is taken for one of the document, and a pass rewrites the value. -/
theorem value_rewritten :
    let f : Formatter := ⟨.default, .utc, 0⟩
    let tag := fun v : List Char => "<p title=\"".toList ++ v ++ "\">x</p>".toList
    let value :=
      "<time datetime='2023-11-14T22:13:10Z' data-local-time='relative'>old</time>".toList
    let value' := ("<time datetime='2023-11-14T22:13:10Z' data-local-time='relative'>" ++
      "10 seconds ago</time>").toList
    '"' ∉ value ∧
      (Document.parse (tag value)).elements.map Element.shown ≠
      (Document.parse (tag [])).elements.map Element.shown ∧
      ((Document.parse (tag value)).bind f ⟨1700000000, 0⟩).1.html? = some (tag value') := by
  decide +kernel

end TimeMarkup
