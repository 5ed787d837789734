import TimeMarkup.Binding.Pass

/-!
# What passes make of one element

The outcome for an element comes from its attributes and the present. Whether the element gets a
text at all does not even depend on the present, so that all passes write the same elements.
-/

namespace TimeMarkup

/-- Elements whose attributes stay when a text is set. -/
class LawfulTimeElement (ε : Type) [TimeElement ε] : Prop where
  attribute?_setText (text : List Char) (e : ε) (name : List Char) :
    TimeElement.attribute? (TimeElement.setText text e) name = TimeElement.attribute? e name

instance : LawfulTimeElement Markup.Element where
  attribute?_setText _ _ _ := rfl

/-- Passes write the element: it has a timestamp, whether readable or not, and its mode is a known
one. -/
def isWritten {ε : Type} [TimeElement ε] (e : ε) : Bool :=
  (TimeElement.attribute? e Markup.datetimeAttribute).isSome &&
    (Mode.parse? (String.ofList ((TimeElement.attribute? e Markup.modeAttribute).getD []))).isSome

theorem Outcome.isSome_text?_ofValues (f : Formatter) (now : Instant)
    (datetime mode : Option (List Char)) :
    (Outcome.ofValues f now datetime mode).text?.isSome =
      (datetime.isSome && (Mode.parse? (String.ofList (mode.getD []))).isSome) := by
  cases datetime with
  | none => rfl
  | some raw =>
    unfold Outcome.ofValues
    cases hmode : Mode.parse? (String.ofList (mode.getD [])) with
    | none => simp [hmode, Outcome.text?, Problem.keepsText]
    | some m =>
      cases hread : Timestamp.read? raw <;> simp [hmode, hread, Outcome.text?, Problem.keepsText]

section Elements
variable {ε : Type} [TimeElement ε] (f : Formatter) (now : Instant)

theorem isSome_text?_of (e : ε) : (Outcome.of f now e).text?.isSome = isWritten e :=
  Outcome.isSome_text?_ofValues f now _ _

theorem bindElement_of_not_isWritten {e : ε} (h : isWritten e = false) :
    bindElement f now e = e := by
  have hnone : (Outcome.of f now e).text? = none := by
    rw [← Option.not_isSome_iff_eq_none, isSome_text?_of, h]
    exact Bool.false_ne_true
  simp only [bindElement, Outcome.apply, hnone]

theorem bindElement_eq_setText {e : ε} (h : isWritten e = true) :
    ∃ text, (Outcome.of f now e).text? = some text ∧
      bindElement f now e = TimeElement.setText text e := by
  rw [← isSome_text?_of f now e, Option.isSome_iff_exists] at h
  obtain ⟨text, htext⟩ := h
  exact ⟨text, htext, by simp only [bindElement, Outcome.apply, htext]⟩

variable [LawfulTimeElement ε]

@[simp] theorem isWritten_setText (text : List Char) (e : ε) :
    isWritten (TimeElement.setText text e) = isWritten e := by
  simp only [isWritten, LawfulTimeElement.attribute?_setText]

theorem attribute?_bindElement (e : ε) (name : List Char) :
    TimeElement.attribute? (bindElement f now e) name = TimeElement.attribute? e name := by
  cases hw : isWritten e with
  | false => rw [bindElement_of_not_isWritten f now hw]
  | true =>
    obtain ⟨text, -, hbind⟩ := bindElement_eq_setText f now hw
    rw [hbind, LawfulTimeElement.attribute?_setText]

end Elements

end TimeMarkup
