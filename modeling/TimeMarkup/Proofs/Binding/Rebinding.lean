import TimeMarkup.Binding.BoundFile
import TimeMarkup.Proofs.Binding.Outcomes
import TimeMarkup.Proofs.Locale.LongDates
import TimeMarkup.Proofs.Markup.Reparsing
import TimeMarkup.Proofs.Storage.Writing

/-!
# Binding a bound file again

A pass leaves the attributes of all elements alone, and what it writes holds no quotation marks. The
bound markup therefore has the elements of the file, and another pass at the same instant makes the
same of them. Only a quotation that a tag leaves open can come between: if it ends in a content that
the pass replaces, it is open for longer in the bound markup.
-/

namespace TimeMarkup
open Markup (Unquoted Document Element Stretch Layout scan refill isSealed)

/-! ## Texts without quotation marks -/

theorem unquoted_of_isNumeral {cs : List Char} (h : ∀ c ∈ cs, isNumeral c = true) :
    Unquoted cs := by
  have hother {c : Char} (hc : isNumeral c = false) : c ∉ cs := by
    intro hmem
    rw [h c hmem] at hc
    cases hc
  exact ⟨hother (by decide), hother (by decide)⟩

theorem RelativeTime.unquoted_text (r : RelativeTime) : Unquoted r.text := by
  have hmagnitude : Unquoted (Nat.toDigits 10 r.magnitude) :=
    unquoted_of_isNumeral fun c hc => isNumeral_of_mem_toDigits hc
  have hunit : Unquoted (' ' :: r.unit.name.toList) := by cases r.unit <;> decide +kernel
  have hplural : Unquoted (if r.magnitude = 1 then [] else ['s']) := by split <;> decide
  have hdirection : Unquoted (if r.past then " ago" else " from now").toList := by
    split <;> decide +kernel
  rw [text]
  exact ((hmagnitude.append hunit).append hplural).append hdirection

theorem DatePattern.unquoted_format {names : List String} {d : Date} {p : DatePattern}
    (h : ∀ part ∈ p, Unquoted (part.format names d)) : Unquoted (p.format names d) := by
  induction p with
  | nil => exact ⟨List.not_mem_nil, List.not_mem_nil⟩
  | cons part p ih =>
    rw [List.forall_mem_cons] at h
    exact h.1.append (ih h.2)

namespace LocaleTag

def MonthsUnquoted (t : LocaleTag) : Prop :=
  ∀ name ∈ t.monthNames, Unquoted name.toList

instance (t : LocaleTag) : Decidable t.MonthsUnquoted :=
  inferInstanceAs (Decidable (∀ name ∈ t.monthNames, Unquoted name.toList))

theorem unquoted_of_mem_longDatePattern (t : LocaleTag) {s : String}
    (h : .literal s ∈ t.longDatePattern) :
    Unquoted s.toList := by
  revert h
  unfold longDatePattern
  split
  all_goals
    simp only [List.mem_cons, DatePart.literal.injEq, reduceCtorEq, List.not_mem_nil, or_false,
      false_or]
    rintro (rfl | rfl | rfl) <;> decide +kernel

theorem MonthsUnquoted.longDate {t : LocaleTag} (h : t.MonthsUnquoted) (d : Date) :
    Unquoted (t.longDate d) := by
  apply DatePattern.unquoted_format
  intro part hpart
  have hnumber (hnumber : part.isNumber = true) : Unquoted (part.format t.monthNames d) :=
    unquoted_of_isNumeral fun c hc => DatePart.isNumeral_of_mem_format hnumber hc
  cases part with
  | literal s => exact t.unquoted_of_mem_longDatePattern hpart
  | monthNumber => exact hnumber rfl
  | day => exact hnumber rfl
  | year => exact hnumber rfl
  | monthName =>
    rw [DatePart.format, List.getD_eq_getElem?_getD]
    cases hname : t.monthNames[d.month - 1]? with
    | none => decide
    | some name => exact h name (List.mem_of_getElem? hname)

end LocaleTag

theorem Outcome.unquoted_of_text? {f : Formatter} (hf : f.locale.MonthsUnquoted) {now : Instant}
    {datetime mode : Option (List Char)} {text : List Char}
    (h : (ofValues f now datetime mode).text? = some text) :
    Unquoted text := by
  unfold ofValues at h
  cases datetime with
  | none => cases h
  | some raw =>
    cases hmode : Mode.parse? (String.ofList (mode.getD [])) with
    | none =>
      simp only [hmode, Outcome.text?, Problem.keepsText, if_true] at h
      cases h
    | some m =>
      cases hread : Timestamp.read? raw with
      | none =>
        simp only [hmode, hread, Outcome.text?, Problem.keepsText, Bool.false_eq_true, if_false]
          at h
        cases h
        decide +kernel
      | some target =>
        simp only [hmode, hread, Outcome.text?] at h
        cases h
        cases m with
        | relative => exact RelativeTime.unquoted_text _
        | absoluteDate => exact hf.longDate _

/-! ## The elements of bound markup -/

section Outcomes
variable (f : Formatter) (now : Instant)

theorem outcomes_eq_of_attributes {es es' : List Element}
    (h : es.map Element.attributes = es'.map Element.attributes) :
    outcomes f now es = outcomes f now es' := by
  have hof (es : List Element) : outcomes f now es = (es.map Element.attributes).map
      fun attributes =>
      Outcome.ofValues f now (Markup.Attribute.lookup? attributes Markup.datetimeAttribute)
        (Markup.Attribute.lookup? attributes Markup.modeAttribute) := by
    rw [List.map_map]
    rfl
  rw [hof, hof, h]

theorem isRewriting_bindElement (e : Element) : e.IsRewriting (bindElement f now e) := by
  cases hw : isWritten e with
  | false =>
    rw [bindElement_of_not_isWritten f now hw]
    exact .refl e
  | true =>
    obtain ⟨text, -, hbind⟩ := bindElement_eq_setText f now hw
    rw [hbind]
    exact (Element.IsRewriting.refl e).setText text

theorem isRewriting_bind (source : List Char) :
    Document.IsRewriting source ((Document.parse source).bind f now).1 := by
  rw [Document.bind_eq]
  exact ⟨rfl, List.forall₂_map_right_iff.mpr (List.forall₂_same.mpr fun e _ =>
    isRewriting_bindElement f now e)⟩

/-- The contents that a pass gives to elements with such outcomes. -/
def boundContent? (os : List Outcome) (i : Nat) : Option (List Char) :=
  os[i]?.bind fun o => o.text?.map Markup.escape

theorem newContent?_bindElement {e : Element} (h : e.isChanged = false) :
    (bindElement f now e).newContent? = (Outcome.of f now e).text?.map Markup.escape := by
  rw [bindElement, Outcome.apply]
  cases (Outcome.of f now e).text? with
  | none => rw [Element.newContent?, h]; rfl
  | some text => rfl

theorem newContent?_bind (source : List Char) :
    (fun i => ((Document.parse source).bind f now).1.elements[i]?.bind Element.newContent?) =
      boundContent? (outcomes f now (Document.parse source).elements) := by
  funext i
  rw [Document.bind_eq, Document.elements_map, List.getElem?_map, boundContent?, outcomes,
    List.getElem?_map]
  cases he : (Document.parse source).elements[i]? with
  | none => rfl
  | some e =>
    exact newContent?_bindElement f now (Document.isChanged_of_mem_parse (List.mem_of_getElem? he))

theorem html?_bind_parse (source : List Char) :
    ((Document.parse source).bind f now).1.html? =
      some ((refill (boundContent? (outcomes f now (Document.parse source).elements))
        (scan source)).flatMap Stretch.source) := by
  rw [Document.html?_of_isRewriting (isRewriting_bind f now source), newContent?_bind,
    Markup.filled_ofStretches]

end Outcomes

/-- Passes replace the content of the stretch. -/
def Markup.Stretch.isReplaced (s : Stretch) : Bool :=
  (Element.ofStretch? 0 s).any isWritten

theorem Markup.map_isWritten_ofStretches (place : Nat) (ss : List Stretch) :
    (Element.ofStretches place ss).map isWritten =
      (ss.filter Stretch.asks).map Stretch.isReplaced := by
  induction ss generalizing place with
  | nil => rfl
  | cons s ss ih =>
    cases s with
    | time name tagBody content closing =>
      by_cases hopt : (Element.read tagBody 0 content).isOptedIn
      · have hasks : (Stretch.time name tagBody content closing).asks = true := hopt
        have hreplaced : (Stretch.time name tagBody content closing).isReplaced =
            isWritten (Element.read tagBody 0 content) :=
              congrArg (Option.any isWritten) (if_pos hopt)
        rw [Element.ofStretches_optedIn hopt, List.filter_cons_of_pos hasks, List.map_cons,
          List.map_cons, ih, hreplaced]
        rfl
      · have hasks : ¬(Stretch.time name tagBody content closing).asks = true := hopt
        rw [Element.ofStretches_notOptedIn hopt, List.filter_cons_of_neg hasks, ih]
    | _ => exact ih _

theorem isReplaced_of_isChanged_bind (f : Formatter) (now : Instant) {source : List Char} {i : Nat}
    {e : Element} {s : Stretch} (he : ((Document.parse source).bind f now).1.elements[i]? = some e)
    (hchanged : e.isChanged = true) (hs : ((scan source).filter Stretch.asks)[i]? = some s) :
    s.isReplaced = true ∧ ∃ e₀ : Element, (Outcome.of f now e₀).text? = some e.text := by
  rw [Document.bind_eq, Document.elements_map, List.getElem?_map, Option.map_eq_some_iff] at he
  obtain ⟨e₀, he₀, rfl⟩ := he
  cases hw : isWritten e₀ with
  | false =>
    rw [bindElement_of_not_isWritten f now hw,
      Document.isChanged_of_mem_parse (List.mem_of_getElem? he₀)] at hchanged
    cases hchanged
  | true =>
    have hwritten := congrArg (·[i]?) (Markup.map_isWritten_ofStretches 0 (scan source))
    simp only [List.getElem?_map, hs, Option.map_some] at hwritten
    change (Document.parse source).elements[i]?.map isWritten = _ at hwritten
    rw [he₀, Option.map_some, hw] at hwritten
    obtain ⟨text, htext, hbind⟩ := bindElement_eq_setText f now hw
    exact ⟨(Option.some.inj hwritten).symm, e₀, by rw [hbind, htext]; rfl⟩

/-! ## Bound markup -/

namespace Markup.Document

/-- Markup that a pass has bound is bound to itself by another pass at the same instant, which
reports the same. -/
theorem bind_parse_html {f : Formatter} (hf : f.locale.MonthsUnquoted) (now : Instant)
    {source : List Char} (hsealed : isSealed Stretch.isReplaced (scan source) = true) :
    ∃ markup, ((parse source).bind f now).1.html? = some markup ∧
      ((parse markup).bind f now).1.html? = some markup ∧
      ((parse markup).bind f now).2 = ((parse source).bind f now).2 := by
  obtain ⟨markup, hmarkup, hscan⟩ :=
    scan_html_of_isRewriting (isRewriting_bind f now source) hsealed
    fun i e s he hchanged hs => by
      obtain ⟨hreplaced, e₀, htext⟩ := isReplaced_of_isChanged_bind f now he hchanged hs
      exact ⟨hreplaced, Outcome.unquoted_of_text? hf htext⟩
  -- Outcomes depend on attributes only, and these are read again as they were.
  have hattributes : (parse markup).elements.map Element.attributes =
      (parse source).elements.map Element.attributes := by
    have hshown := map_shown_refill 0 (isRewriting_bind f now source).2
    rw [← hscan] at hshown
    have hfirst := congrArg (List.map Prod.fst) hshown
    rw [List.map_map, List.map_map] at hfirst
    exact hfirst.trans (map_eq_of_forall₂ (fun _ _ he => he.attributes.symm)
      (isRewriting_bind f now source).2).symm
  have houtcomes := outcomes_eq_of_attributes f now hattributes
  rw [newContent?_bind] at hscan
  have hsame : markup = (scan markup).flatMap Stretch.source := (flatMap_source_scan markup).symm
  refine ⟨markup, hmarkup, ?_, ?_⟩
  · rw [html?_bind_parse, houtcomes, hscan, refill_refill, ← hscan, ← hsame]
  · rw [bind_eq, bind_eq, houtcomes]

end Markup.Document

namespace BoundFile

/-- Binding a file in place a second time changes nothing. Whatever is in a file that can be read as
text, when its bound markup is written over it, another pass at the same instant finds that very
markup and gives an equal report, unless a tag leaves a quotation open that ends in a content that
passes replace. -/
theorem read_write_again {f : Formatter} (hf : f.locale.MonthsUnquoted) {now : Instant}
    {fs fs' : FileSystem} {p : Path} {b : BoundFile} (hread : read f now fs p = .ok b)
    (hwrite : b.write fs p = .ok fs')
    (hsealed : isSealed Stretch.isReplaced (scan b.document.source) = true) :
    ∃ b', read f now fs' p = .ok b' ∧ b.document.html?.isSome = true ∧ b'.html = b.html ∧
      b'.report = b.report := by
  rw [read] at hread ⊢
  cases htext : fs.readText p with
  | error e =>
    rw [htext] at hread
    cases hread
  | ok text =>
    rw [htext] at hread
    cases hread
    have hsource : (ofText f now p text).document.source = text := by
      rw [document_ofText, Document.bind_eq]
      rfl
    rw [hsource] at hsealed
    obtain ⟨markup, hmarkup, hagain, hreport⟩ := Document.bind_parse_html hf now hsealed
    have hhtml : (ofText f now p text).html = markup := by
      rw [html, document_ofText, Document.html, hmarkup, Option.getD_some]
    rw [write, hhtml] at hwrite
    have hread' := FileSystem.readText_eq_ok_iff.mpr (FileSystem.read_of_write hwrite)
    refine ⟨ofText f now p markup, by rw [hread']; rfl, ?_, ?_, hreport⟩
    · rw [document_ofText, hmarkup]
      rfl
    · rw [hhtml, html, document_ofText, Document.html, hagain, Option.getD_some]

theorem exists_readText (text : List Char) :
    ∃ fs : FileSystem, fs.readText ['p'] = .ok text ∧ fs.Place ['p'] [['p']] := by
  have hplace : (FileSystem.atBase [] 0).Place ['p'] [['p']] :=
    FileSystem.place_of_entry rfl rfl (by decide) rfl nofun
  obtain ⟨fs, hwrite⟩ := FileSystem.write_of_place rfl hplace (.text text)
  obtain ⟨-, l, number, -, hputs⟩ := FileSystem.write_eq_ok hwrite
  exact ⟨fs, FileSystem.readText_eq_ok_iff.mpr (FileSystem.read_of_write hwrite),
    hplace.of_sameTree hputs.alters.sameTree⟩

theorem exists_read_write (f : Formatter) (now : Instant) (text : List Char) :
    ∃ fs fs' : FileSystem, read f now fs ['p'] = .ok (ofText f now ['p'] text) ∧
      (ofText f now ['p'] text).write fs ['p'] = .ok fs' := by
  obtain ⟨fs, htext, hplace⟩ := exists_readText text
  obtain ⟨fs', hwrite⟩ :=
    FileSystem.write_of_place rfl hplace (.text (ofText f now ['p'] text).html)
  exact ⟨fs, fs', by rw [read, htext]; rfl, hwrite⟩

/-- A quotation is open throughout, but the content holds the other mark only. -/
theorem read_write_again_otherMark :
    let f : Formatter := ⟨.default, .utc, 0⟩
    let b :=
      ofText f ⟨9, 0⟩ ['p'] "<time title=\"<time datetime=0 data-local-time=date>it's</time>".toList
    f.locale.MonthsUnquoted ∧ isSealed Stretch.isReplaced (scan b.document.source) = true ∧
      ∃ fs fs', read f ⟨9, 0⟩ fs ['p'] = .ok b ∧ b.write fs ['p'] = .ok fs' ∧
        ∃ b', read f ⟨9, 0⟩ fs' ['p'] = .ok b' ∧ b.document.html?.isSome = true ∧ b'.html = b.html ∧
          b'.report = b.report := by
  intro f b
  have hmonths : f.locale.MonthsUnquoted := by decide +kernel
  have hsealed : isSealed Stretch.isReplaced (scan b.document.source) = true := by decide +kernel
  obtain ⟨fs, fs', hread, hwrite⟩ := exists_read_write f ⟨9, 0⟩
    "<time title=\"<time datetime=0 data-local-time=date>it's</time>".toList
  exact ⟨hmonths, hsealed, fs, fs', hread, hwrite, read_write_again hmonths hread hwrite hsealed⟩

/-- The first pass takes out the marks at which the quotations of the outer tag end, so that the
second pass finds another element. -/
theorem html_changes_again :
    let f : Formatter := ⟨.default, .utc, 0⟩
    let now : Instant := ⟨1700000000, 0⟩
    f.locale.MonthsUnquoted ∧ ∃ fs fs' b b', read f now fs ['p'] = .ok b ∧
      b.write fs ['p'] = .ok fs' ∧ read f now fs' ['p'] = .ok b' ∧ b'.html ≠ b.html := by
  intro f now
  have hmonths : f.locale.MonthsUnquoted := by decide +kernel
  obtain ⟨fs, fs', hread, hwrite⟩ := exists_read_write f now
    ("<time datetime=\"2023-11-14T22:13:00Z\" data-local-time=\"relative\" title=\"" ++
      "<time datetime=2023-11-14T22:13:10Z data-local-time=relative>x\"'</time>\">z</time>").toList
  have htext := FileSystem.readText_eq_ok_iff.mpr (FileSystem.read_of_write hwrite)
  exact ⟨hmonths, fs, fs', _, _, hread, hwrite, by rw [read, htext]; rfl, by decide +kernel⟩

end BoundFile

end TimeMarkup
