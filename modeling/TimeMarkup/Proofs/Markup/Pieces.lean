import TimeMarkup.Markup.Document
import TimeMarkup.Proofs.Markup.Regions

/-!
# Documents made of pieces

A grammar of well-formed markup: plain text, tags of other elements, comments, raw elements and time
elements. Scanning such a document finds the pieces again, so that its elements are the time
elements among them that ask for a local time.
-/

namespace TimeMarkup.Markup
open Text (byteLength byteLength_append)

/-- Quotation marks pair up, and a closing bracket stands between quotation marks only. -/
inductive Paired : List Char → Prop
  | nil : Paired []
  | cons {c : Char} {cs : List Char} : c ≠ '>' → opensQuote c = none → Paired cs → Paired (c :: cs)
  | quoted {q : Char} {value cs : List Char} : opensQuote q = some q → q ∉ value → Paired cs →
      Paired (q :: value ++ q :: cs)

/-- An element from its opening to its first closing tag. -/
structure Enclosed (name : List Char) where
  written : List Char
  attributes : List Char
  content : List Char
  closing : List Char
  spells : written.map foldCase = name
  separated : ∀ c ∈ attributes.head?, isBlank c = true ∨ c = '/'
  paired : Paired attributes
  closes : IsClosing name closing
  lacks : ∀ tag, IsClosing name tag → ¬ tag <:+: content

inductive Piece
  | text (cs : List Char) (plain : '<' ∉ cs)
  | foreign (body : List Char) (single : '<' ∉ body) (notComment : ¬ ['!', '-', '-'] <+: body)
      (other : nameOf body ∉ timeName :: rawNames)
  | comment (body : List Char) (lacks : ¬ ['-', '-', '>'] <:+: body)
  | raw (name : List Char) (isRaw : name ∈ rawNames) (e : Enclosed name)
  | time (e : Enclosed timeName)

def Enclosed.source {name : List Char} (e : Enclosed name) : List Char :=
  openingTag e.written e.attributes ++ e.content ++ e.closing

namespace Piece

def source : Piece → List Char
  | text cs _ => cs
  | foreign body _ _ _ => '<' :: body ++ ['>']
  | comment body _ => ['<', '!', '-', '-'] ++ body ++ ['-', '-', '>']
  | raw _ _ e => e.source
  | time e => e.source

/-- The stretches that a piece is scanned into. -/
def stretches : Piece → List Stretch
  | text cs _ => cs.map .plain
  | foreign body _ _ _ => ('<' :: body ++ ['>']).map .plain
  | comment body _ => [.skipped (['<', '!', '-', '-'] ++ body ++ ['-', '-', '>'])]
  | raw _ _ e => [.skipped e.source]
  | time e => [.time e.written e.attributes e.content e.closing]

/-- The element that a piece makes from a place on. -/
def element? (place : Nat) : Piece → Option Element
  | time e =>
    let start := place + byteLength (openingTag e.written e.attributes)
    let attributes := Attribute.parse e.attributes
    if ∃ a ∈ attributes, a.name = modeAttribute then
      some ⟨attributes, ⟨start, start + byteLength e.content⟩, textContent e.content, false⟩
    else none
  | _ => none

/-- The elements of pieces that follow each other from a place on. -/
def elementsFrom (place : Nat) : List Piece → List Element
  | [] => []
  | p :: ps => (p.element? place).toList ++ elementsFrom (place + byteLength p.source) ps

end Piece

theorem tagBody?_of_not_mem {q : Char} {value : List Char} (h : q ∉ value) (rest : List Char) :
    tagBody? (some q) (value ++ q :: rest) =
      (tagBody? none rest).map fun (body, rest) => (value ++ q :: body, rest) := by
  induction value with
  | nil => simp [tagBody?]
  | cons c cs ih =>
    rw [List.mem_cons, not_or] at h
    rw [List.cons_append, tagBody?, if_neg (Ne.symm h.1), ih h.2, Option.map_map]
    rfl

theorem tagBody?_of_paired {cs : List Char} (h : Paired cs) (rest : List Char) :
    tagBody? none (cs ++ '>' :: rest) = some (cs, rest) := by
  induction h with
  | nil => simp [tagBody?]
  | cons hc hq _ ih => rw [List.cons_append, tagBody?, if_neg hc, hq, ih, Option.map_some]
  | @quoted q value cs hq hv _ ih =>
    have hne : q ≠ '>' := by
      rintro rfl
      exact absurd hq (by decide)
    rw [List.append_assoc, List.cons_append, List.cons_append, tagBody?, if_neg hne, hq,
      tagBody?_of_not_mem hv, ih]
    rfl

/-- What is left of a tag's body behind an open quotation mark. -/
def PairedAfter : Option Char → List Char → Prop
  | none, body => Paired body
  | some q, body => ∃ value inner, body = value ++ q :: inner ∧ q ∉ value ∧ Paired inner

theorem opensQuote_eq_some {c q : Char} (h : opensQuote c = some q) : c = q := by
  rw [opensQuote, Option.ite_none_right_eq_some] at h
  exact Option.some.inj h.2

theorem pairedAfter_of_tagBody? {quote : Option Char} {cs body rest : List Char}
    (h : tagBody? quote cs = some (body, rest)) :
    PairedAfter quote body := by
  fun_induction tagBody? quote cs generalizing body rest with
  | case1 => cases h
  | case2 cs =>
    obtain ⟨rfl, -⟩ := Prod.mk.inj (Option.some.inj h)
    exact Paired.nil
  | case3 c cs hc ih =>
    simp only [Option.map_eq_some_iff, Prod.exists, Prod.mk.injEq] at h
    obtain ⟨inner, rest, hread, rfl, -⟩ := h
    have hpaired := ih hread
    cases hq : opensQuote c with
    | none =>
      rw [hq] at hpaired
      exact Paired.cons hc hq hpaired
    | some q =>
      rw [hq] at hpaired
      obtain ⟨value, inner, rfl, hvalue, hinner⟩ := hpaired
      obtain rfl := opensQuote_eq_some hq
      exact Paired.quoted hq hvalue hinner
  | case4 q c cs ih =>
    simp only [Option.map_eq_some_iff, Prod.exists, Prod.mk.injEq] at h
    obtain ⟨inner, rest, hread, rfl, -⟩ := h
    have hpaired := ih hread
    by_cases hc : c = q
    · subst hc
      rw [if_pos rfl] at hpaired
      exact ⟨[], inner, rfl, List.not_mem_nil, hpaired⟩
    · rw [if_neg hc] at hpaired
      obtain ⟨value, inner, rfl, hvalue, hinner⟩ := hpaired
      exact ⟨c :: value, inner, rfl, by simp [hvalue, Ne.symm hc], hinner⟩

/-- Scanning takes just the paired bodies for those of complete tags. -/
theorem tagBody?_eq_some_iff {cs body rest : List Char} :
    tagBody? none cs = some (body, rest) ↔ Paired body ∧ cs = body ++ '>' :: rest := by
  constructor
  · exact fun h => ⟨pairedAfter_of_tagBody? h, (tagBody?_append h).symm⟩
  · rintro ⟨h, rfl⟩
    exact tagBody?_of_paired h rest

instance (body : List Char) : Decidable (Paired body) :=
  decidable_of_iff (tagBody? none (body ++ ['>']) = some (body, []))
    (by simp [tagBody?_eq_some_iff])

namespace Enclosed
variable {name : List Char} (e : Enclosed name)

theorem source_append (rest : List Char) :
    e.source ++ rest =
      '<' :: (e.written ++ (e.attributes ++ '>' :: (e.content ++ (e.closing ++ rest)))) := by
  simp [source, openingTag]

theorem openingBody?_append (rest : List Char) :
    openingBody? (e.attributes ++ '>' :: rest) = some (e.attributes, rest) := by
  have hp := e.paired
  have hs := e.separated
  cases ha : e.attributes with
  | nil => simp [openingBody?]
  | cons c cs =>
    rw [ha] at hp hs
    have hc := hs c rfl
    have hne : c ≠ '>' := by
      rintro rfl
      exact absurd hc (by decide)
    have hsep : (isBlank c || c == '/') = true := by simpa using hc
    cases hp with
    | cons _ _ hp =>
      rw [List.cons_append, openingBody?, if_neg hne, if_pos hsep, tagBody?_of_paired hp]
      rfl
    | quoted hq _ _ =>
      have hmark : c = '"' ∨ c = '\x27' := by
        by_contra h
        rw [opensQuote, if_neg h] at hq
        exact absurd hq.symm (Option.some_ne_none _)
      rcases hmark with rfl | rfl
      · exact absurd hc (by decide)
      · exact absurd hc (by decide)

theorem openingTag?_source (hn : IsName name) (rest : List Char) :
    openingTag? name (e.source ++ rest) =
      some (e.written, e.attributes, e.content ++ (e.closing ++ rest)) := by
  have hname :
      tagName? name (e.written ++ (e.attributes ++ '>' :: (e.content ++ (e.closing ++ rest)))) =
      some (e.written, e.attributes ++ '>' :: (e.content ++ (e.closing ++ rest))) :=
    (tagName?_eq_some_iff hn).mpr ⟨rfl, e.spells⟩
  simp only [source_append, openingTag?, hname, Option.bind_some, openingBody?_append,
    Option.map_some]

theorem upToClosing?_source (hn : IsName name) (rest : List Char) :
    upToClosing? name (e.content ++ (e.closing ++ rest)) = some (e.content, e.closing, rest) :=
  upToClosing?_of_isClosing hn e.lacks e.closes rest

end Enclosed

theorem scan_plain_append {cs : List Char} (h : '<' ∉ cs) (rest : List Char) :
    scan (cs ++ rest) = cs.map .plain ++ scan rest := by
  induction cs with
  | nil => rfl
  | cons c cs ih =>
    rw [List.mem_cons, not_or] at h
    rw [List.cons_append, scan_of_not_region (region?_of_ne_lt (Ne.symm h.1) _), ih h.2]
    rfl

theorem not_commentMark_append {body : List Char} (h : ¬ ['!', '-', '-'] <+: body) {c : Char}
    (hc : c ∉ ['!', '-', '-']) (rest : List Char) : ¬ ['!', '-', '-'] <+: body ++ c :: rest := by
  rintro ⟨ds, hds⟩
  rcases List.append_eq_append_iff.mp hds with ⟨as, rfl, -⟩ | ⟨as, has, hrest⟩
  · exact h ⟨as, rfl⟩
  · cases as with
    | nil =>
      rw [List.append_nil] at has
      exact h ⟨[], by rw [List.append_nil, has]⟩
    | cons a as =>
      rw [List.cons_append, List.cons.injEq] at hrest
      exact hc (has ▸ hrest.1 ▸ List.mem_append_right body List.mem_cons_self)

theorem scan_foreign_append {body : List Char} (single : '<' ∉ body)
    (notComment : ¬ ['!', '-', '-'] <+: body) (other : nameOf body ∉ timeName :: rawNames)
    (rest : List Char) :
    scan ('<' :: (body ++ '>' :: rest)) = ('<' :: body ++ ['>']).map .plain ++ scan rest := by
  have hname : nameOf (body ++ '>' :: rest) ∉ timeName :: rawNames := by
    rwa [nameOf_append_of_endsName (by decide)]
  have hbody : '<' ∉ body ++ ['>'] := by
    rw [List.mem_append, not_or]
    exact ⟨single, by decide⟩
  have hscan := scan_plain_append hbody rest
  rw [List.append_assoc, List.singleton_append] at hscan
  rw [scan_of_not_region
    (region?_eq_none_of_name (not_commentMark_append notComment (by decide) rest) hname), hscan]
  rfl

theorem scan_comment_append {body : List Char} (lacks : ¬ ['-', '-', '>'] <:+: body)
    (rest : List Char) :
    scan ('<' :: '!' :: '-' :: '-' :: (body ++ '-' :: '-' :: '>' :: rest)) =
      .skipped ('<' :: '!' :: '-' :: '-' :: (body ++ ['-', '-', '>'])) :: scan rest := by
  apply scan_of_region
  apply region?_of_comment?
  rw [comment?, commentBody_append_end lacks]

theorem Enclosed.scan_raw_append {name : List Char} (isRaw : name ∈ rawNames) (e : Enclosed name)
    (rest : List Char) : scan (e.source ++ rest) = .skipped e.source :: scan rest := by
  have hn := isName_of_mem (List.mem_cons_of_mem timeName isRaw)
  have hraw : rawElement? name (e.source ++ rest) = some (e.source, rest) := by
    simp only [rawElement?, e.openingTag?_source hn, Option.map_some, e.upToClosing?_source hn]
    rfl
  exact scan_of_region (region?_of_rawElement? isRaw hraw)

theorem Enclosed.scan_time_append (e : Enclosed timeName) (rest : List Char) :
    scan (e.source ++ rest) = .time e.written e.attributes e.content e.closing :: scan rest := by
  have hn := isName_timeName
  have htime : timeElement? (e.source ++ rest) =
      some (.time e.written e.attributes e.content e.closing, rest) := by
    simp only [timeElement?, e.openingTag?_source hn, Option.bind_some, e.upToClosing?_source hn,
      Option.map_some]
  exact scan_of_region (region?_of_timeElement? htime)

/-- No piece is cut by the scanner, and none lets it run into the next one. -/
theorem scan_piece_append (p : Piece) (rest : List Char) :
    scan (p.source ++ rest) = p.stretches ++ scan rest := by
  cases p with
  | text cs plain => exact scan_plain_append plain rest
  | foreign body single notComment other =>
    have hsource : (Piece.foreign body single notComment other).source ++ rest = '<' ::
        (body ++ '>' :: rest) := by
      simp [Piece.source]
    rw [hsource]
    exact scan_foreign_append single notComment other rest
  | comment body lacks =>
    have hsource : (Piece.comment body lacks).source ++ rest =
        '<' :: '!' :: '-' :: '-' :: (body ++ '-' :: '-' :: '>' :: rest) := by
      simp [Piece.source]
    rw [hsource]
    exact scan_comment_append lacks rest
  | raw name isRaw e => exact e.scan_raw_append isRaw rest
  | time e => exact e.scan_time_append rest

theorem ofStretches_plain_append (place : Nat) (cs : List Char) (ss : List Stretch) :
    Element.ofStretches place (cs.map .plain ++ ss) =
      Element.ofStretches (place + byteLength cs) ss := by
  induction cs generalizing place with
  | nil => rfl
  | cons c cs ih =>
    have hlen : byteLength (Stretch.plain c).source + byteLength cs = byteLength (c :: cs) :=
      (byteLength_append [c] cs).symm
    rw [List.map_cons, List.cons_append, Element.ofStretches, ih, Nat.add_assoc, hlen]
    rfl

theorem ofStretches_piece_append (place : Nat) (p : Piece) (ss : List Stretch) :
    Element.ofStretches place (p.stretches ++ ss) =
      (p.element? place).toList ++ Element.ofStretches (place + byteLength p.source) ss := by
  cases p with
  | text cs plain => exact ofStretches_plain_append place cs ss
  | foreign body single notComment other => exact ofStretches_plain_append place _ ss
  | comment body lacks => rfl
  | raw name isRaw e => rfl
  | time e =>
    simp only [Piece.stretches, List.singleton_append, Element.ofStretches, Element.ofStretch?,
      Element.read, Element.isOptedIn, List.any_eq_true, decide_eq_true_eq]
    rfl

/-- A document made of pieces has the elements of its time elements that ask for a local time, in
order. -/
theorem elements_parse_pieces (ps : List Piece) :
    (Document.parse (ps.flatMap Piece.source)).elements = Piece.elementsFrom 0 ps := by
  suffices h : ∀ place, Element.ofStretches place (scan (ps.flatMap Piece.source)) =
      Piece.elementsFrom place ps from h 0
  induction ps with
  | nil =>
    intro place
    simp [Element.ofStretches, Piece.elementsFrom]
  | cons p ps ih =>
    intro place
    rw [List.flatMap_cons, scan_piece_append, ofStretches_piece_append, ih, Piece.elementsFrom]

/-- Of three time elements one is in a comment, and one does not ask for a local time. -/
example :
    let source := ("<!--<time data-local-time>a</time>--><time>b</time>" ++
      "<p><time datetime='0' data-local-time>c</time >").toList
    let attributes : List Attribute :=
      [⟨"datetime".toList, "0".toList⟩, ⟨"data-local-time".toList, []⟩]
    (Document.parse source).elements = [⟨attributes, ⟨89, 90⟩, "c".toList, false⟩] := by
  decide +kernel

end TimeMarkup.Markup
