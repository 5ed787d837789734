import TimeMarkup.Proofs.Markup.Cuts
import TimeMarkup.Proofs.Markup.Pieces

/-!
# Tags of other elements with quoted values

The scanner looks for regions at every bracket, also at one within a quoted value of a tag. If it
cuts at the end of each value, it finds the rest of the tag as the plain text that it is. It does so
for every value in which no bracket has the start of a comment or the name of an element behind it.
-/

namespace TimeMarkup.Markup

/-- What stands in a tag behind its name: a character, or a value in quotation marks. -/
inductive TagPart
  | bare (c : Char) (h : c ≠ '>' ∧ opensQuote c = none)
  | quoted (mark : Char) (value : List Char) (hmark : opensQuote mark = some mark)
      (hvalue : mark ∉ value)

/-- A tag of another element up to its attributes. -/
structure TagStart where
  name : List Char
  separator : Char
  single : '<' ∉ name
  named : ∀ c ∈ name, endsName c = false
  notComment : ¬ ['!', '-', '-'] <+: name
  other : name.map foldCase ∉ timeName :: rawNames
  separates : startsBody separator = true

namespace TagPart

def source : TagPart → List Char
  | bare c _ => [c]
  | quoted mark value _ _ => mark :: (value ++ [mark])

/-- The text in which the scanner might take something for markup. -/
def inner : TagPart → List Char
  | bare c _ => [c]
  | quoted _ value _ _ => value

/-- The mark behind that text. -/
def behind : TagPart → List Char
  | bare _ _ => []
  | quoted mark _ _ _ => [mark]

def stretches : TagPart → List Stretch
  | bare c _ => scan [c]
  | quoted mark value _ _ => .plain mark :: (scan value ++ [.plain mark])

/-- The scanner cuts at the end of each value, and behind each character that is not in one. -/
def Cuts : List TagPart → List Char → Prop
  | [], _ => True
  | p :: ps, rest => CutsBetween p.inner (p.behind ++ (ps.flatMap source ++ rest)) ∧ Cuts ps rest

instance decidableCuts : (ps : List TagPart) → (rest : List Char) → Decidable (Cuts ps rest)
  | [], _ => .isTrue trivial
  | _ :: ps, rest =>
    have := decidableCuts ps rest
    inferInstanceAs (Decidable (_ ∧ _))

theorem source_stretches (p : TagPart) : p.stretches.flatMap Stretch.source = p.source := by
  cases p with
  | bare c h => exact flatMap_source_scan [c]
  | quoted mark value hmark hvalue =>
    rw [stretches, List.flatMap_cons, List.flatMap_append, flatMap_source_scan]
    rfl

theorem scan_append {p : TagPart} {rest : List Char} (h : CutsBetween p.inner (p.behind ++ rest)) :
    scan (p.source ++ rest) = p.stretches ++ scan rest := by
  cases p with
  | bare c hc => exact h
  | quoted mark value hmark hvalue =>
    have hne : mark ≠ '<' := by
      rintro rfl
      exact absurd hmark (by decide)
    have hvalue : scan (value ++ mark :: rest) = scan value ++ scan (mark :: rest) := h
    have happ : (quoted mark value hmark ‹_›).source ++ rest = mark :: (value ++ mark :: rest) := by
      simp [source]
    rw [happ, scan_of_not_region (region?_of_ne_lt hne _), hvalue,
      scan_of_not_region (region?_of_ne_lt hne _), stretches]
    simp

theorem asks_stretches {p : TagPart} (h : (Document.parse p.inner).elements = []) :
    ∀ s ∈ p.stretches, s.asks = false := by
  have hinner : ∀ s ∈ scan p.inner, s.asks = false := Element.ofStretches_eq_nil_iff.mp h
  cases p with
  | bare c hc => exact hinner
  | quoted mark value hmark hvalue =>
    intro s hs
    rcases List.mem_cons.mp hs with rfl | hs
    · rfl
    · rcases List.mem_append.mp hs with hs | hs
      · exact hinner s hs
      · rw [List.mem_singleton.mp hs]
        rfl

theorem scan_flatMap_append {ps : List TagPart} {rest : List Char} (h : Cuts ps rest) :
    scan (ps.flatMap source ++ rest) = ps.flatMap stretches ++ scan rest := by
  induction ps with
  | nil => rfl
  | cons p ps ih =>
    rw [List.flatMap_cons, List.append_assoc, scan_append h.1, ih h.2, List.flatMap_cons,
      List.append_assoc]

end TagPart

namespace TagStart
variable (t : TagStart)

def source : List Char :=
  '<' :: (t.name ++ [t.separator])

theorem scan_append (rest : List Char) :
    scan (t.source ++ rest) = t.source.map .plain ++ scan rest := by
  have hends : endsName t.separator = true := by
    have hseparates := t.separates
    rw [startsBody] at hseparates
    rw [endsName, hseparates]
    rfl
  have hmark : t.separator ∉ ['!', '-', '-'] := by
    intro hmem
    have hall : ['!', '-', '-'].all (!endsName ·) = true := by decide
    simpa [hends] using List.all_eq_true.mp hall _ hmem
  have hbracket : '<' ∉ t.name ++ [t.separator] := by
    rw [List.mem_append, List.mem_singleton, not_or]
    refine ⟨t.single, ?_⟩
    rintro heq
    rw [← heq] at hends
    exact absurd hends (by decide)
  have hname : nameOf (t.name ++ t.separator :: rest) ∉ timeName :: rawNames := by
    rw [nameOf_append_of_named t.named hends]
    exact t.other
  have hscan := scan_plain_append hbracket rest
  rw [List.append_assoc, List.singleton_append] at hscan
  have happ : t.source ++ rest = '<' :: (t.name ++ t.separator :: rest) := by simp [source]
  rw [happ, scan_of_not_region
    (region?_eq_none_of_name (not_commentMark_append t.notComment hmark rest) hname), hscan]
  rfl

end TagStart

/-- What a document is made of in front of a tag: the pieces that the scanner always finds, and tags
whose quoted values may hold brackets. -/
inductive Part
  | piece (p : Piece)
  | tag (start : TagStart) (parts : List TagPart)

namespace Part

def source : Part → List Char
  | piece p => p.source
  | tag start parts => start.source ++ (parts.flatMap TagPart.source ++ ['>'])

def stretches : Part → List Stretch
  | piece p => p.stretches
  | tag start parts => start.source.map .plain ++ (parts.flatMap TagPart.stretches ++ [.plain '>'])

/-- The scanner cuts at the ends of values of tags. -/
def Cuts : List Part → List Char → Prop
  | [], _ => True
  | piece _ :: ps, rest => Cuts ps rest
  | tag _ parts :: ps, rest =>
    TagPart.Cuts parts ('>' :: (ps.flatMap source ++ rest)) ∧ Cuts ps rest

instance decidableCuts : (ps : List Part) → (rest : List Char) → Decidable (Cuts ps rest)
  | [], _ => .isTrue trivial
  | piece _ :: ps, rest => decidableCuts ps rest
  | tag _ _ :: ps, rest =>
    have := decidableCuts ps rest
    inferInstanceAs (Decidable (_ ∧ _))

theorem source_stretches (p : Part) : p.stretches.flatMap Stretch.source = p.source := by
  cases p with
  | piece p =>
    have hscan := scan_piece_append p []
    rw [List.append_nil, scan_nil, List.append_nil] at hscan
    rw [source, stretches, ← hscan, flatMap_source_scan]
  | tag start parts =>
    have hparts : (parts.flatMap TagPart.stretches).flatMap Stretch.source =
        parts.flatMap TagPart.source := by
      rw [List.flatMap_assoc]
      simp only [TagPart.source_stretches]
    rw [stretches, List.flatMap_append, flatMap_source_plain, List.flatMap_append, hparts]
    rfl

theorem scan_flatMap_append {ps : List Part} {rest : List Char} (h : Cuts ps rest) :
    scan (ps.flatMap source ++ rest) = ps.flatMap stretches ++ scan rest := by
  induction ps with
  | nil => rfl
  | cons p ps ih =>
    cases p with
    | piece p =>
      rw [List.flatMap_cons, List.append_assoc, source, scan_piece_append, ih h, List.flatMap_cons,
        List.append_assoc]
      rfl
    | tag start parts =>
      have hend : scan ('>' :: (ps.flatMap source ++ rest)) = .plain '>' :: scan
          (ps.flatMap source ++ rest) :=
        scan_of_not_region (region?_of_ne_lt (by decide) _)
      have happ : (tag start parts :: ps).flatMap source ++ rest =
          start.source ++ (parts.flatMap TagPart.source ++ '>' :: (ps.flatMap source ++ rest)) := by
        simp [source]
      rw [happ, start.scan_append, TagPart.scan_flatMap_append h.1, hend, ih h.2]
      simp [stretches]

end Part

/-- A name does not run on behind a quotation mark. -/
theorem nameOf_append_mark {mark : Char} (hmark : opensQuote mark = some mark) {cs : List Char}
    (h : nameOf (cs ++ [mark]) ∉ timeName :: rawNames) (rest : List Char) :
    nameOf (cs ++ mark :: rest) ∉ timeName :: rawNames := by
  by_cases hends : ∃ d ∈ cs, endsName d = true
  · obtain ⟨d, hd, hends⟩ := hends
    obtain ⟨as, bs, rfl⟩ := List.append_of_mem hd
    rw [List.append_assoc, List.cons_append, nameOf_append_of_endsName hends] at h ⊢
    exact h
  · have hall : ∀ d ∈ cs, (!endsName d) = true := by simpa using hends
    have hquote : mark = '"' ∨ mark = '\x27' := isMark_opensQuote mark mark hmark
    intro hmem
    have hname := isName_of_mem hmem mark
    have hin : mark ∈ nameOf (cs ++ mark :: rest) := by
      rw [nameOf, List.takeWhile_append_of_pos hall]
      rcases hquote with rfl | rfl
      · rw [List.takeWhile_cons_of_pos (by decide), List.map_append, List.map_cons]
        exact List.mem_append_right _ List.mem_cons_self
      · rw [List.takeWhile_cons_of_pos (by decide), List.map_append, List.map_cons]
        exact List.mem_append_right _ List.mem_cons_self
    have hletter := hname hin
    rcases hquote with rfl | rfl
    · revert hletter
      decide
    · revert hletter
      decide

/-- A value is hidden if no bracket in it has the start of a comment behind it, or the name of an
element that the scanner looks for. -/
theorem hidden_of_no_start {mark : Char} (hmark : opensQuote mark = some mark) {value : List Char}
    (h : ∀ after, '<' :: after <:+ value →
      ¬ ['!', '-', '-'] <+: after ∧ nameOf (after ++ [mark]) ∉ timeName :: rawNames)
    (rest : List Char) :
    CutsBetween value (mark :: rest) ∧ (Document.parse value).elements = [] := by
  have hbehind : mark ∉ ['!', '-', '-'] := by
    rcases isMark_opensQuote mark mark hmark with rfl | rfl
    · decide
    · decide
  have hscan : scan (value ++ mark :: rest) = value.map .plain ++ scan (mark :: rest) := by
    induction value with
    | nil => rfl
    | cons c cs ih =>
      have hnone : region? (c :: (cs ++ mark :: rest)) = none := by
        by_cases hc : c = '<'
        · subst c
          obtain ⟨hcomment, hname⟩ := h cs (List.suffix_refl _)
          exact region?_eq_none_of_name (not_commentMark_append hcomment hbehind rest)
            (nameOf_append_mark hmark hname rest)
        · exact region?_of_ne_lt hc _
      rw [List.cons_append, scan_of_not_region hnone, ih fun after hafter =>
        h after (hafter.trans (List.suffix_cons c cs))]
      rfl
  have hvalue := (scan_of_scan_append hscan (flatMap_source_plain value)).1
  refine ⟨cutsBetween_of_scan hscan (flatMap_source_plain value),
    Element.ofStretches_eq_nil_iff.mpr ?_⟩
  rw [hvalue]
  intro s hs
  obtain ⟨c, -, rfl⟩ := List.mem_map.mp hs
  rfl

/-- Nothing that is in the values of a tag counts for what stands around it: the scanner cuts at the
end of each value, as it does in the tags in front, and finds no element in it. -/
structure HidesValues (ps : List Part) (start : TagStart) (parts : List TagPart)
    (rest : List Char) : Prop where
  cuts : Part.Cuts (ps ++ [.tag start parts]) rest
  silent : ∀ p ∈ parts, (Document.parse p.inner).elements = []

/-- A bracket in the part stands in a value, with neither the start of a comment behind it nor the
name of an element that the scanner looks for. -/
def TagPart.StartsNothing (p : TagPart) : Prop :=
  ∀ after, '<' :: after <:+ p.inner →
    p.behind ≠ [] ∧ ¬ ['!', '-', '-'] <+: after ∧ nameOf (after ++ p.behind) ∉ timeName :: rawNames

theorem TagPart.hidden_of_startsNothing {p : TagPart} (h : p.StartsNothing) (rest : List Char) :
    CutsBetween p.inner (p.behind ++ rest) ∧ (Document.parse p.inner).elements = [] := by
  cases p with
  | bare c hc =>
    have hne : c ≠ '<' := by
      rintro rfl
      exact (h [] (List.suffix_refl _)).1 rfl
    have hscan (rest : List Char) : scan ([c] ++ rest) = [.plain c] ++ scan rest :=
      scan_of_not_region (region?_of_ne_lt hne rest)
    refine ⟨cutsBetween_of_scan (hscan rest) rfl, Element.ofStretches_eq_nil_iff.mpr ?_⟩
    have hvalue : scan [c] = [.plain c] := (scan_of_scan_append (hscan []) rfl).1
    rw [inner, hvalue]
    exact List.forall_mem_singleton.mpr rfl
  | quoted mark value hmark hvalue =>
    exact hidden_of_no_start hmark (fun after hafter => (h after hafter).2) rest

theorem TagPart.cuts_of_startsNothing {parts : List TagPart} (h : ∀ p ∈ parts, p.StartsNothing)
    (rest : List Char) :
    Cuts parts rest := by
  induction parts with
  | nil => trivial
  | cons p parts ih =>
    obtain ⟨hp, hparts⟩ := List.forall_mem_cons.mp h
    exact ⟨(hidden_of_startsNothing hp _).1, ih hparts⟩

/-- Tags whose values start nothing hide them, in front of any text. -/
theorem HidesValues.of_startsNothing {ps : List Part} {start : TagStart} {parts : List TagPart}
    (hps : ∀ start' parts', .tag start' parts' ∈ ps → ∀ p ∈ parts', p.StartsNothing)
    (hparts : ∀ p ∈ parts, p.StartsNothing) (rest : List Char) :
    HidesValues ps start parts rest where
  cuts := by
    induction ps with
    | nil => exact ⟨TagPart.cuts_of_startsNothing hparts _, trivial⟩
    | cons p ps ih =>
      have ih := ih fun start' parts' hmem => hps start' parts' (List.mem_cons_of_mem p hmem)
      cases p with
      | piece p => exact ih
      | tag start' parts' =>
        exact ⟨TagPart.cuts_of_startsNothing (hps start' parts' List.mem_cons_self) _, ih⟩
  silent p hp := (TagPart.hidden_of_startsNothing (hparts p hp) []).2

theorem asks_tag (start : TagStart) {parts : List TagPart}
    (h : ∀ p ∈ parts, (Document.parse p.inner).elements = []) :
    ∀ s ∈ (Part.tag start parts).stretches, s.asks = false := by
  intro s hs
  rcases List.mem_append.mp hs with hs | hs
  · obtain ⟨c, -, rfl⟩ := List.mem_map.mp hs
    rfl
  · rcases List.mem_append.mp hs with hs | hs
    · obtain ⟨p, hp, hs⟩ := List.mem_flatMap.mp hs
      exact TagPart.asks_stretches (h p hp) s hs
    · rw [List.mem_singleton.mp hs]
      rfl

end TimeMarkup.Markup
