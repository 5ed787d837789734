import TimeMarkup.Binding.Listing
import TimeMarkup.Command.Session
import TimeMarkup.Proofs.Binding.Passes
import TimeMarkup.Proofs.Text.QuotedTexts

/-!
# Messages that no document can forge

The value of an attribute may hold anything, line breaks and whole messages of others included. In a
message it is quoted, so that every message stays on its line and belongs to one diagnostic only,
and a report has as many lines as it should.
-/

namespace TimeMarkup
open Text (HasNoControl IsControl)

/-! ## One message for each diagnostic -/

namespace Problem

theorem toList_frame (front : String) (value : List Char) (back : String) :
    (front ++ Text.quote value ++ back).toList = front.toList ++
      (Text.quoted value ++ back.toList) := by
  rw [String.toList_append, String.toList_append, Text.quote, String.toList_ofList,
    List.append_assoc]

theorem hasNoControl_message (p : Problem) : HasNoControl p.message.toList := by
  have hframe {front back : String} (hfront : HasNoControl front.toList) (value : List Char)
      (hback : HasNoControl back.toList) :
        HasNoControl (front ++ Text.quote value ++ back).toList := by
    rw [toList_frame]
    exact hfront.append ((Text.hasNoControl_quoted value).append hback)
  cases p with
  | missingTimestamp => decide +kernel
  | unparseableTimestamp value => exact hframe (by decide +kernel) value (by decide +kernel)
  | unrecognizedMode value => exact hframe (by decide +kernel) value (by decide +kernel)

/-- The letter that messages about problems of a kind start with. -/
def initial : Problem → Char
  | missingTimestamp => 'm'
  | unparseableTimestamp _ => 'd'
  | unrecognizedMode _ => 'u'

theorem head?_message (p : Problem) : p.message.toList.head? = some p.initial := by
  have hframe {front : String} {c : Char} (hfront : front.toList.head? = some c) (value : List Char)
      (back : String) : (front ++ Text.quote value ++ back).toList.head? = some c := by
    rw [toList_frame, List.head?_append, hfront, Option.some_or]
  cases p with
  | missingTimestamp => decide +kernel
  | unparseableTimestamp value =>
    have hfront : "datetime attribute ".toList.head? = some 'd' := by decide +kernel
    exact hframe hfront value _
  | unrecognizedMode value =>
    have hfront : "unrecognized data-local-time value ".toList.head? = some 'u' := by decide +kernel
    exact hframe hfront value _

theorem message_injective : Function.Injective message := by
  intro p q h
  have hframe {front back : String} {value value' : List Char}
      (h : front ++ Text.quote value ++ back = front ++ Text.quote value' ++ back) :
        value = value' := by
    have hlist := congrArg String.toList h
    rw [toList_frame, toList_frame, List.append_cancel_left_eq] at hlist
    exact (Text.quoted_append_inj hlist).1
  have hinitial : p.initial = q.initial := by
    have hhead := congrArg (fun m : String => m.toList.head?) h
    rwa [head?_message, head?_message, Option.some.injEq] at hhead
  cases p <;> cases q <;> simp only [initial, Char.reduceEq] at hinitial
  · rfl
  · exact congrArg unparseableTimestamp (hframe h)
  · exact congrArg unrecognizedMode (hframe h)

end Problem

namespace Diagnostic

theorem toList_message (d : Diagnostic) :
    d.message.toList = "element #".toList ++
      (Nat.toDigits 10 d.index ++ ':' :: ' ' :: d.problem.message.toList) := by
  simp only [message, String.toList_append, Text.toList_toString, List.append_assoc]
  rfl

theorem hasNoControl_message (d : Diagnostic) : HasNoControl d.message.toList := by
  have hindex := Text.hasNoControl_toDigits (by decide : 1 < 10 ∧ 10 ≤ 16) d.index
  have hproblem := (by decide : HasNoControl [':', ' ']).append d.problem.hasNoControl_message
  rw [toList_message]
  exact (by decide +kernel : HasNoControl "element #".toList).append (hindex.append hproblem)

theorem message_injective : Function.Injective message := by
  intro d e h
  have hlist := congrArg String.toList h
  have hcolon := @Text.not_mem_toDigits 10 (by decide) ':' (by decide)
  rw [toList_message, toList_message, List.append_cancel_left_eq] at hlist
  -- The index ends at the first colon, whatever the message about the problem holds.
  obtain ⟨hindex, hrest⟩ := Text.append_cons_inj hlist (hcolon _) (hcolon _)
  have hproblem := Problem.message_injective (String.toList_injective (List.cons.inj hrest).2)
  cases d
  cases e
  congr
  exact Text.toDigits_injective (by decide) hindex

end Diagnostic

/-! ## One line for each message -/

theorem Session.fields_joinLines {breaks : Char → Bool} (hnewline : breaks '\n' = true)
    {ls : List String} (h : ∀ l ∈ ls, ∀ c ∈ l.toList, breaks c = false) :
    Text.fields breaks (joinLines ls).toList = ls.map String.toList ++ [[]] := by
  induction ls with
  | nil => rfl
  | cons l ls ih =>
    rw [List.forall_mem_cons] at h
    rw [toList_joinLines_cons, Text.fields_append_separator h.1 hnewline, ih h.2, List.map_cons,
      List.cons_append]

/-- The path comes first in a summary, and no controls follow it. -/
theorem Report.toList_summary (p : Path) (r : Report) :
    ∃ rest, (r.summary p).toList = p ++ rest ∧ HasNoControl rest := by
  have hlist : (r.summary p).toList =
      p ++ (": ".toList ++ ((toString r.matched).toList ++ (" matched, ".toList ++
        ((toString r.updated).toList ++ (" updated, ".toList ++
          ((toString r.diagnostics.length).toList ++ " diagnostic(s)".toList)))))) := by
    simp only [summary, String.toList_append, String.toList_ofList, List.append_assoc]
  have hcolon : HasNoControl ": ".toList := by decide +kernel
  have hmatched : HasNoControl " matched, ".toList := by decide +kernel
  have hupdated : HasNoControl " updated, ".toList := by decide +kernel
  have hdiagnostics : HasNoControl " diagnostic(s)".toList := by decide +kernel
  have hcount := Text.hasNoControl_toString
  exact ⟨_, hlist, hcolon.append <| (hcount _).append <| hmatched.append <| (hcount _).append <|
    hupdated.append <| (hcount _).append hdiagnostics⟩

namespace BoundFile

theorem mem_line {b : BoundFile} {l : String} (hl : l ∈ b.lines) {c : Char} (hc : c ∈ l.toList) :
    c ∈ b.path ∨ ¬ IsControl c := by
  rcases List.mem_cons.mp hl with rfl | hl
  · obtain ⟨rest, hsummary, hrest⟩ := b.report.toList_summary b.path
    rw [hsummary] at hc
    exact (List.mem_append.mp hc).imp_right (hrest c)
  · obtain ⟨d, -, rfl⟩ := List.mem_map.mp hl
    rw [String.toList_append] at hc
    exact .inr
      ((by decide +kernel : HasNoControl "  warning: ".toList).append d.hasNoControl_message c hc)

section Breaks
variable {breaks : Char → Bool} (hnewline : breaks '\n' = true)
  (hbreaks : ∀ c, breaks c = true → IsControl c)
include hnewline hbreaks

/-- Whichever controls are taken to break lines, a report has just the lines that it was made of. -/
theorem fields_lines {b : BoundFile} (hpath : ∀ c ∈ b.path, breaks c = false) :
    Text.fields breaks (Session.joinLines b.lines).toList = b.lines.map String.toList ++ [[]] := by
  refine Session.fields_joinLines hnewline fun l hl c hc => ?_
  rcases mem_line hl hc with hc | hc
  · exact hpath c hc
  · exact Bool.eq_false_iff.mpr (mt (hbreaks c) hc)

theorem lines_inj {b b' : BoundFile} (hpath : ∀ c ∈ b.path, breaks c = false)
    (hpath' : ∀ c ∈ b'.path, breaks c = false)
    (h : Session.joinLines b'.lines = Session.joinLines b.lines) :
    b'.lines = b.lines := by
  have hfields := fields_lines hnewline hbreaks hpath'
  rw [h, fields_lines hnewline hbreaks hpath, List.append_cancel_right_eq] at hfields
  exact (List.map_injective_iff.mpr (fun _ _ => String.toList_injective) hfields).symm

end Breaks

theorem diagnostics_eq_of_lines_eq {b b' : BoundFile} (h : b'.lines = b.lines) :
    b'.report.diagnostics = b.report.diagnostics := by
  have hwarning : Function.Injective fun d : Diagnostic => "  warning: " ++ d.message := by
    intro d e hde
    have hlist := congrArg String.toList hde
    rw [String.toList_append, String.toList_append, List.append_cancel_left_eq] at hlist
    exact Diagnostic.message_injective (String.toList_injective hlist)
  exact List.map_injective_iff.mpr hwarning (List.cons.inj h).2

end BoundFile

/-- Messages hold no controls, and each belongs to one diagnostic. Whichever controls are taken to
break lines, the report of a file whose path has none of them is the line of its summary and then a
line for each diagnostic, in the order of the elements; and no report of another file with other
diagnostics looks the same. -/
theorem report_shows_diagnostics :
    (∀ d : Diagnostic, HasNoControl d.message.toList) ∧ Function.Injective Diagnostic.message ∧
      ∀ (f : Formatter) (now : Instant) (p : Path) (text : List Char)
        (breaks : Char → Bool), breaks '\n' = true →
        (∀ c, breaks c = true → IsControl c) → (∀ c ∈ p, breaks c = false) →
        let b := BoundFile.ofText f now p text
        Text.fields breaks (Session.joinLines b.lines).toList =
            (b.report.summary p).toList ::
              b.report.diagnostics.map (fun d => "  warning: ".toList ++ d.message.toList) ++ [[]] ∧
          b.report.diagnostics.Pairwise (·.index < ·.index) ∧
          ∀ b' : BoundFile, (∀ c ∈ b'.path, breaks c = false) →
            Session.joinLines b'.lines = Session.joinLines b.lines →
            b'.report.diagnostics = b.report.diagnostics := by
  refine ⟨Diagnostic.hasNoControl_message, Diagnostic.message_injective, ?_⟩
  intro f now p text breaks hnewline hbreaks hpath b
  refine ⟨?_, ?_, fun b' hpath' h => ?_⟩
  · rw [BoundFile.fields_lines hnewline hbreaks hpath, BoundFile.lines, List.map_cons,
      Report.warnings, List.map_map]
    simp only [Function.comp_def, String.toList_append]
    rfl
  · rw [BoundFile.report_ofText, Markup.Document.bind_eq]
    exact pairwise_diagnosticsFrom 0 _
  · exact BoundFile.diagnostics_eq_of_lines_eq (BoundFile.lines_inj hnewline hbreaks hpath hpath' h)

theorem report_shows_diagnostics_lineBreak :
    let text := "<time datetime='&#10;  warning: &#34;' data-local-time=relative>old</time>".toList
    let b := BoundFile.ofText ⟨default, .utc, 0⟩ ⟨9, 0⟩ "page.html".toList text
    (∀ c ∈ "page.html".toList, (c == '\n') = false) ∧
      Text.fields (· == '\n') (Session.joinLines b.lines).toList =
        ["page.html: 1 matched, 1 updated, 1 diagnostic(s)".toList,
          ("  warning: element #0: datetime attribute " ++
            "\"\\n  warning: \\\"\" is not a valid date").toList, []] := by
  intro text b
  have hpath (c : Char) (hc : c ∈ "page.html".toList) : (c == '\n') = false := by
    rw [beq_eq_false_iff_ne]
    rintro rfl
    exact absurd hc (by decide)
  have hbreaks (c : Char) (hc : (c == '\n') = true) : IsControl c := by
    rw [beq_iff_eq.mp hc]
    decide
  obtain ⟨hlines, -, -⟩ :=
    report_shows_diagnostics.2.2 ⟨default, .utc, 0⟩ ⟨9, 0⟩ _ text (· == '\n') rfl hbreaks hpath
  exact ⟨hpath, hlines.trans (by decide +kernel)⟩

end TimeMarkup
