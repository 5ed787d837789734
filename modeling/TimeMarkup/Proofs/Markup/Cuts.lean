import TimeMarkup.Proofs.Markup.Reparsing

/-!
# Where the scanner cuts

A place in a text is a cut if the scanner finds the same stretches on both sides as it does in the
two parts alone. That is where its stretches end: no region starts anywhere in a text that does not
start there in a longer one.
-/

namespace TimeMarkup.Markup
open Text (byteLength byteLength_append)

/-- The scanner cuts between the two texts. -/
def CutsBetween (cs rest : List Char) : Prop :=
  scan (cs ++ rest) = scan cs ++ scan rest

instance (cs rest : List Char) : Decidable (CutsBetween cs rest) :=
  inferInstanceAs (Decidable (scan (cs ++ rest) = scan cs ++ scan rest))

/-- A region that starts somewhere also starts there in a longer text, but may end elsewhere. -/
theorem region?_append_ne_none {cs : List Char} (h : region? cs ≠ none) (rest : List Char) :
    region? (cs ++ rest) ≠ none := by
  obtain ⟨⟨s, r⟩, hs⟩ := Option.ne_none_iff_exists'.mp h
  rw [ne_eq, region?_eq_none_iff]
  rintro ⟨hcomment, hraw, htime⟩
  rcases region?_cases hs with ⟨taken, -, hc⟩ | ⟨name, taken, hmem, -, hr⟩ | ht
  · unfold comment? at hc
    split at hc
    · simp [comment?] at hcomment
    · cases hc
  · have hne : openingTag? name cs ≠ none := by
      rw [ne_eq, ← rawElement?_eq_none_iff, hr]
      exact Option.some_ne_none _
    obtain ⟨⟨written, body, r'⟩, ho⟩ := Option.ne_none_iff_exists'.mp hne
    have hlocal :=
      openingTag?_local (isName_of_mem (List.mem_cons_of_mem timeName hmem)) ho (r' ++ rest)
    rw [← List.append_assoc, openingTag?_append ho, hraw name hmem] at hlocal
    cases hlocal
  · have hlocal := timeElement?_local ht (r ++ rest)
    rw [← List.append_assoc, timeElement?_append ht, htime] at hlocal
    cases hlocal

/-- Where a stretch of a text ends, the text before it and the text behind it have the stretches of
their own. -/
theorem scan_of_scan_append {cs rest : List Char} {ss ts : List Stretch}
    (h : scan (cs ++ rest) = ss ++ ts) (hss : ss.flatMap Stretch.source = cs) :
    scan cs = ss ∧ scan rest = ts := by
  induction ss generalizing cs with
  | nil =>
    subst hss
    exact ⟨scan_nil, h⟩
  | cons s ss ih =>
    have hsource := flatMap_source_scan (cs ++ rest)
    rw [h, List.flatMap_append, hss] at hsource
    have hrest : ts.flatMap Stretch.source = rest := List.append_cancel_left hsource
    rw [List.cons_append] at h
    obtain ⟨hfront, htail⟩ := scan_eq_cons h
    rw [List.flatMap_append, hrest] at hfront htail
    obtain ⟨hscan, hts⟩ := ih htail rfl
    rw [List.flatMap_cons] at hss
    refine ⟨?_, hts⟩
    subst hss
    rcases hfront with ⟨c, rfl, hnone⟩ | hregion
    · have hnone' : region? (c :: ss.flatMap Stretch.source) = none := by
        cases hr : region? (c :: ss.flatMap Stretch.source) with
        | none => rfl
        | some p => exact absurd hnone (region?_append_ne_none (hr ▸ Option.some_ne_none p) rest)
      exact (scan_of_not_region hnone').trans (congrArg _ hscan)
    · rw [List.append_assoc] at hregion
      have hlocal := region?_local hregion fun hnil => (List.append_eq_nil_iff.mp hnil).1
      rw [scan_of_region hlocal, hscan]

theorem cutsBetween_of_scan {cs rest : List Char} {ss : List Stretch}
    (h : scan (cs ++ rest) = ss ++ scan rest) (hss : ss.flatMap Stretch.source = cs) :
    CutsBetween cs rest := by
  rw [CutsBetween, h, (scan_of_scan_append h hss).1]

namespace Element

theorem ofStretches_append (place : Nat) (ss ts : List Stretch) :
    ofStretches place (ss ++ ts) =
      ofStretches place ss ++ ofStretches (place + byteLength (ss.flatMap Stretch.source)) ts := by
  induction ss generalizing place with
  | nil => rfl
  | cons s ss ih =>
    rw [List.cons_append, ofStretches, ih, ofStretches, List.flatMap_cons, byteLength_append,
      List.append_assoc, Nat.add_assoc]

theorem ofStretches_eq_nil_iff {place : Nat} {ss : List Stretch} :
    ofStretches place ss = [] ↔ ∀ s ∈ ss, s.asks = false := by
  induction ss generalizing place with
  | nil => simp [ofStretches]
  | cons s ss ih =>
    have hhead : ofStretch? place s = none ↔ s.asks = false := by
      cases s with
      | time name tagBody content closing =>
        simp only [ofStretch?, ite_eq_right_iff, reduceCtorEq, imp_false, Bool.not_eq_true]
        rfl
      | _ => exact ⟨fun _ => rfl, fun _ => rfl⟩
    rw [ofStretches, List.append_eq_nil_iff, ih, List.forall_mem_cons, ← hhead,
      Option.toList_eq_nil_iff]

theorem map_shown_ofStretches (place place' : Nat) (ss : List Stretch) :
    (ofStretches place ss).map shown = (ofStretches place' ss).map shown := by
  induction ss generalizing place place' with
  | nil => rfl
  | cons s ss ih =>
    have hhead : (ofStretch? place s).map shown = (ofStretch? place' s).map shown := by
      cases s with
      | time name tagBody content closing =>
        simp only [ofStretch?, apply_ite (Option.map shown)]
        rfl
      | _ => rfl
    simp only [ofStretches, List.map_append, ← Option.toList_map, hhead]
    rw [ih]

end Element

end TimeMarkup.Markup
