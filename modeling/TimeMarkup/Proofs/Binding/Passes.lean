import TimeMarkup.Proofs.Binding.Outcomes

/-!
# Passes element by element

A pass treats each element for its own attributes only, and its report holds one diagnostic for each
element that could not be formatted. A pass over two lists after each other is therefore the two
passes side by side, where the second list is numbered from the end of the first.
-/

namespace TimeMarkup

/-- Elements that show the text that was set last. -/
class ShownElement (ε : Type) [TimeElement ε] where
  text : ε → List Char
  text_setText (t : List Char) (e : ε) : text (TimeElement.setText t e) = t

instance : ShownElement Markup.Element where
  text := Markup.Element.text
  text_setText _ _ := rfl

/-! ## The diagnostics of outcomes -/

theorem diagnosticsFrom_eq_map (start : Nat) (os : List Outcome) :
    diagnosticsFrom start os = (diagnosticsFrom 0 os).map fun d =>
      ⟨d.index + start, d.problem⟩ := by
  induction os generalizing start with
  | nil => rfl
  | cons o os ih =>
    rw [diagnosticsFrom, diagnosticsFrom, ih (start + 1), ih (0 + 1)]
    cases o.problem? <;>
      simp only [List.map_cons, List.map_map, Nat.zero_add, Function.comp_def, Nat.add_assoc,
        Nat.add_comm 1 start]

theorem le_index_of_mem_diagnosticsFrom {start : Nat} {os : List Outcome} {d : Diagnostic}
    (h : d ∈ diagnosticsFrom start os) : start ≤ d.index := by
  rw [diagnosticsFrom_eq_map, List.mem_map] at h
  obtain ⟨d', -, rfl⟩ := h
  exact Nat.le_add_left start d'.index

theorem mem_diagnosticsFrom_iff (start i : Nat) (problem : Problem) (os : List Outcome) :
    ⟨start + i, problem⟩ ∈ diagnosticsFrom start os ↔
      os[i]?.bind Outcome.problem? = some problem := by
  induction os generalizing start i with
  | nil => simp [diagnosticsFrom]
  | cons o os ih =>
    have hhead : ⟨start, problem⟩ ∉ diagnosticsFrom (start + 1) os := fun h =>
      absurd (le_index_of_mem_diagnosticsFrom h) (Nat.not_succ_le_self start)
    cases i with
    | zero => cases ho : o.problem? <;> simp [diagnosticsFrom, ho, hhead, eq_comm]
    | succ i =>
      have htail := ih (start + 1) i
      rw [Nat.add_right_comm, Nat.add_assoc] at htail
      cases ho : o.problem? <;> simp [diagnosticsFrom, ho, htail]

theorem mem_diagnosticsFrom_zero (d : Diagnostic) (os : List Outcome) :
    d ∈ diagnosticsFrom 0 os ↔ os[d.index]?.bind Outcome.problem? = some d.problem := by
  have h := mem_diagnosticsFrom_iff 0 d.index d.problem os
  rwa [Nat.zero_add] at h

theorem index_lt_of_mem_diagnosticsFrom {os : List Outcome} {d : Diagnostic}
    (h : d ∈ diagnosticsFrom 0 os) :
    d.index < os.length := by
  obtain ⟨o, ho, -⟩ := Option.bind_eq_some_iff.mp ((mem_diagnosticsFrom_zero d os).mp h)
  exact (List.getElem?_eq_some_iff.mp ho).1

theorem pairwise_diagnosticsFrom (start : Nat) (os : List Outcome) :
    (diagnosticsFrom start os).Pairwise (·.index < ·.index) := by
  induction os generalizing start with
  | nil => exact .nil
  | cons o os ih =>
    rw [diagnosticsFrom]
    cases o.problem? with
    | none => exact ih (start + 1)
    | some problem =>
      exact List.pairwise_cons.mpr ⟨fun d hd => le_index_of_mem_diagnosticsFrom hd, ih (start + 1)⟩

theorem countP_diagnosticsFrom (p : Problem → Bool) (start : Nat) (os : List Outcome) :
    (diagnosticsFrom start os).countP (fun d => p d.problem) = os.countP fun o =>
      o.problem?.any p := by
  induction os generalizing start with
  | nil => rfl
  | cons o os ih =>
    rw [diagnosticsFrom]
    cases ho : o.problem? <;> simp [List.countP_cons, ho, ih]

/-- An outcome leaves the text of its element alone exactly if its problem does. -/
theorem Outcome.not_isSome_text? (o : Outcome) :
    (!o.text?.isSome) = o.problem?.any (· matches .missingTimestamp | .unrecognizedMode _) := by
  rcases o with ⟨mode, text⟩ | (_ | value | value) <;> rfl

theorem Report.matched_eq_updated_add (os : List Outcome) :
    (Report.ofOutcomes os).matched = (Report.ofOutcomes os).updated +
      (Report.ofOutcomes os).diagnostics.countP
        (fun d => d.problem matches .missingTimestamp | .unrecognizedMode _) := by
  simp only [ofOutcomes]
  rw [List.length_eq_countP_add_countP (fun o : Outcome => o.text?.isSome),
    countP_diagnosticsFrom (· matches .missingTimestamp | .unrecognizedMode _)]
  simp only [← Outcome.not_isSome_text?, Bool.not_eq_true, Bool.decide_eq_false]

/-! ## Reports side by side -/

/-- The report of two passes, where the elements of the second are numbered after those of the
first. -/
def Report.beside (r s : Report) : Report :=
  { matched := r.matched + s.matched
    updated := r.updated + s.updated
    diagnostics := r.diagnostics ++ s.diagnostics.map fun d => ⟨d.index + r.matched, d.problem⟩ }

theorem Report.ofOutcomes_append (os ps : List Outcome) :
    Report.ofOutcomes (os ++ ps) = (Report.ofOutcomes os).beside (.ofOutcomes ps) := by
  simp only [ofOutcomes, beside, List.length_append, List.countP_append, diagnosticsFrom_append,
    Nat.zero_add]
  rw [diagnosticsFrom_eq_map os.length ps]

/-! ## The treatment of an element -/

section Elements
variable {ε : Type} [TimeElement ε] [ShownElement ε]

/-- The text that an element shows after a pass, and the problem that the pass reports for it. -/
inductive Treated (f : Formatter) (now : Instant) (e : ε) : List Char → Option Problem → Prop
  | formatted {raw value : List Char} {target : Instant} {mode : Mode}
      (hdatetime : TimeElement.attribute? e Markup.datetimeAttribute = some raw)
      (hread : Timestamp.read? raw = some target)
      (hvalue : TimeElement.attribute? e Markup.modeAttribute = some value)
      (hmode : Mode.parse? (String.ofList value) = some mode) :
      Treated f now e (f.format target mode now) none
  | invalid {raw value : List Char} {mode : Mode}
      (hdatetime : TimeElement.attribute? e Markup.datetimeAttribute = some raw)
      (hread : Timestamp.read? raw = none)
      (hvalue : TimeElement.attribute? e Markup.modeAttribute = some value)
      (hmode : Mode.parse? (String.ofList value) = some mode) :
      Treated f now e invalidDate (some (.unparseableTimestamp raw))
  | noTimestamp
      (hdatetime : TimeElement.attribute? e Markup.datetimeAttribute = none) :
      Treated f now e (ShownElement.text e) (some .missingTimestamp)
  | noMode {raw : List Char}
      (hdatetime : TimeElement.attribute? e Markup.datetimeAttribute = some raw)
      (hvalue : TimeElement.attribute? e Markup.modeAttribute = none) :
      Treated f now e (ShownElement.text e) (some (.unrecognizedMode []))
  | unknownMode {raw value : List Char}
      (hdatetime : TimeElement.attribute? e Markup.datetimeAttribute = some raw)
      (hvalue : TimeElement.attribute? e Markup.modeAttribute = some value)
      (hmode : Mode.parse? (String.ofList value) = none) :
      Treated f now e (ShownElement.text e) (some (.unrecognizedMode value))

variable (f : Formatter) (now : Instant)

theorem text_apply (o : Outcome) (e : ε) :
    ShownElement.text (o.apply e) = o.text?.getD (ShownElement.text e) := by
  rw [Outcome.apply]
  cases o.text? with
  | none => rfl
  | some text => exact ShownElement.text_setText text e

theorem treated_bindElement (e : ε) :
    Treated f now e (ShownElement.text (bindElement f now e)) (Outcome.of f now e).problem? := by
  rw [bindElement, text_apply, Outcome.of]
  cases hdatetime : TimeElement.attribute? e Markup.datetimeAttribute with
  | none => exact .noTimestamp hdatetime
  | some raw =>
    cases hvalue : TimeElement.attribute? e Markup.modeAttribute with
    | none => exact .noMode hdatetime hvalue
    | some value =>
      rw [Outcome.ofValues, Option.getD_some]
      cases hmode : Mode.parse? (String.ofList value) with
      | none => exact .unknownMode hdatetime hvalue hmode
      | some mode =>
        cases hread : Timestamp.read? raw with
        | none => exact .invalid hdatetime hread hvalue hmode
        | some target => exact .formatted hdatetime hread hvalue hmode

/-- A pass treats each element on its own and reports exactly. Every element keeps its attributes
and shows what they call for; the diagnostics follow the elements in order, one for each that was
not formatted; and all elements but those with a missing timestamp or without a known mode are
counted as updated. The pass over a list and a second one is the pass over the first beside that
over the second. -/
theorem bindAll_treats_each [LawfulTimeElement ε] (es es₂ : List ε) :
    let (bound, report) := bindAll f now es
    let (bound₂, report₂) := bindAll f now es₂
    bound.length = es.length ∧ report.matched = es.length ∧
      (∀ i e, es[i]? = some e → ∃ e' problem?, bound[i]? = some e' ∧
        Treated f now e (ShownElement.text e') problem? ∧
        (∀ name, TimeElement.attribute? e' name = TimeElement.attribute? e name) ∧
        ∀ problem, ⟨i, problem⟩ ∈ report.diagnostics ↔ problem? = some problem) ∧
      report.diagnostics.Pairwise (·.index < ·.index) ∧
      (∀ d ∈ report.diagnostics, d.index < es.length) ∧
      report.matched = report.updated +
        report.diagnostics.countP (fun d =>
          d.problem matches .missingTimestamp | .unrecognizedMode _) ∧
      bindAll f now (es ++ es₂) = (bound ++ bound₂, report.beside report₂) := by
  simp only [bindAll_eq]
  refine ⟨List.length_map _, by simp [outcomes], fun i e he => ?_, pairwise_diagnosticsFrom 0 _,
    fun d hd => ?_, Report.matched_eq_updated_add _, ?_⟩
  · refine ⟨bindElement f now e, (Outcome.of f now e).problem?, by simp [he],
      treated_bindElement f now e, attribute?_bindElement f now e, fun problem => ?_⟩
    have hmem := mem_diagnosticsFrom_zero ⟨i, problem⟩ (outcomes f now es)
    rwa [outcomes, List.getElem?_map, he, Option.map_some, Option.bind_some] at hmem
  · simpa [outcomes] using index_lt_of_mem_diagnosticsFrom hd
  · rw [List.map_append, outcomes, List.map_append, Report.ofOutcomes_append]
    rfl

end Elements

theorem bindAll_treats_each_twoTimes :
    let es := [Markup.Element.read " data-local-time=relative".toList 30 "then".toList,
      Markup.Element.read " datetime=soon data-local-time=relative".toList 85 "soon".toList]
    let report := (bindAll ⟨default, .utc, 0⟩ ⟨9, 0⟩ es).2
    LawfulTimeElement Markup.Element ∧ report.updated = 1 ∧
      report.matched = report.updated +
        report.diagnostics.countP (fun d =>
          d.problem matches .missingTimestamp | .unrecognizedMode _) :=
  ⟨inferInstance, by decide +kernel,
    (bindAll_treats_each ⟨default, .utc, 0⟩ ⟨9, 0⟩ _ []).2.2.2.2.2.1⟩

end TimeMarkup
