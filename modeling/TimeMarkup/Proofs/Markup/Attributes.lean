import TimeMarkup.Markup.Attribute
import TimeMarkup.Proofs.Markup.Encodings
import TimeMarkup.Proofs.Text.Trimming

/-!
# Attributes that have been written

An attribute is written after a blank, its name in any case, alone or with an equals sign and a
value. Reading a list of written attributes finds their names and values again, each from its own
text: a name ends at the first blank or sign, a quoted value at its mark and a bare one at the next
blank.
-/

namespace TimeMarkup.Markup.Attribute
open Text (takeWhile_append_of_head dropWhile_append_of_head)

/-- What is written behind an attribute's name. A mark that quotes a value is not in its text, and a
value that is not quoted holds nothing that could end it. -/
inductive WritesValue (value : List Char) : List Char → Prop
  | absent (h : value = []) : WritesValue value []
  | quoted {before after written : List Char} {mark : Char}
      (hbefore : ∀ c ∈ before, isBlank c = true) (hafter : ∀ c ∈ after, isBlank c = true)
      (hmark : mark = '"' ∨ mark = '\x27') (hspells : SpellsText value written)
      (hlacks : mark ∉ written) :
      WritesValue value (before ++ '=' :: (after ++ mark :: (written ++ [mark])))
  | bare {before after written : List Char} (hbefore : ∀ c ∈ before, isBlank c = true)
      (hafter : ∀ c ∈ after, isBlank c = true) (hspells : SpellsText value written)
      (hne : written ≠ []) (hwritten : ∀ c ∈ written, isValueChar c = true) :
      WritesValue value (before ++ '=' :: (after ++ written))

/-- The ways to write an attribute. -/
inductive Writes (a : Attribute) : List Char → Prop
  | intro {blanks name value : List Char} (hne : blanks ≠ [])
      (hblanks : ∀ c ∈ blanks, isBlank c = true) (hname : name ≠ [])
      (hchars : ∀ c ∈ name, isNameChar c = true) (hcase : name.map Char.toLower = a.name)
      (hvalue : WritesValue a.value value) : Writes a (blanks ++ (name ++ value))

/-- The ways to write attributes one after the other. -/
inductive WritesAll : List Attribute → List Char → Prop
  | nil : WritesAll [] []
  | cons {a : Attribute} {as : List Attribute} {text rest : List Char} (h : Writes a text)
      (hrest : WritesAll as rest) :
      WritesAll (a :: as) (text ++ rest)

/-- What may stand behind the last attribute of a tag. -/
inductive Ends : List Char → Prop
  | blank {blanks : List Char} (h : ∀ c ∈ blanks, isBlank c = true) : Ends blanks
  | slash {blanks : List Char} (hne : blanks ≠ []) (h : ∀ c ∈ blanks, isBlank c = true) :
      Ends (blanks ++ ['/'])

/-- The text goes on with a blank or ends, and has no equals sign behind its blanks. -/
def Separates (rest : List Char) : Prop :=
  (∀ c ∈ rest.head?, isBlank c = true) ∧ (Text.trimLeft rest).head? ≠ some '='

theorem not_isNameChar_of_isBlank {c : Char} (h : isBlank c = true) : isNameChar c = false := by
  simp [isNameChar, h]

theorem not_isValueChar_of_isBlank {c : Char} (h : isBlank c = true) : isValueChar c = false := by
  simp [isValueChar, h]

theorem isBlank_of_isNameChar {c : Char} (h : isNameChar c = true) : isBlank c = false := by
  cases hc : isBlank c with
  | false => rfl
  | true => rw [not_isNameChar_of_isBlank hc] at h; cases h

theorem ne_equals_of_isNameChar {c : Char} (h : isNameChar c = true) : c ≠ '=' := by
  rintro rfl
  revert h
  decide

theorem separates_of_blanks {blanks rest : List Char} (hblanks : ∀ c ∈ blanks, isBlank c = true)
    (hhead : blanks = [] → rest = []) (hrest : (Text.trimLeft rest).head? ≠ some '=') :
    Separates (blanks ++ rest) := by
  refine ⟨?_, by rwa [Text.trimLeft_append_of_blank hblanks]⟩
  cases blanks with
  | nil =>
    rw [hhead rfl]
    exact nofun
  | cons b blanks =>
    intro c hc
    rw [← Option.some.inj hc]
    exact hblanks b List.mem_cons_self

theorem Ends.separates {rest : List Char} (h : Ends rest) : Separates rest := by
  cases h with
  | blank h =>
    have hseparates : Separates (rest ++ []) := separates_of_blanks h (fun _ => rfl) (by simp)
    rwa [List.append_nil] at hseparates
  | slash hne h => exact separates_of_blanks h (fun hnil => absurd hnil hne) (by decide)

theorem Writes.separates {a : Attribute} {text : List Char} (h : Writes a text) (rest : List Char) :
    Separates (text ++ rest) := by
  obtain ⟨hne, hblanks, hname, hchars, -, -⟩ := h
  rename_i blanks name value
  obtain ⟨c, cs, rfl⟩ := List.exists_cons_of_ne_nil hname
  have hc := hchars c List.mem_cons_self
  rw [List.append_assoc]
  refine separates_of_blanks hblanks (fun hnil => absurd hnil hne) ?_
  rw [List.cons_append, List.cons_append, Text.trimLeft_cons_other (isBlank_of_isNameChar hc),
    List.head?_cons]
  exact fun heq => ne_equals_of_isNameChar hc (Option.some.inj heq)

theorem written_nil : written [] = [] := by
  unfold written
  rfl

theorem written_cons_of_not_isNameChar {c : Char} (h : isNameChar c = false) (cs : List Char) :
    written (c :: cs) = written cs := by
  rw [written.eq_def]
  exact if_neg (Bool.eq_false_iff.mp h)

theorem written_cons_of_isNameChar {c : Char} (h : isNameChar c = true) (cs : List Char) :
    written (c :: cs) = match value? (cs.dropWhile isNameChar) with
      | some (v, rest) =>
        ⟨(c :: cs.takeWhile isNameChar).map Char.toLower, decode v⟩ :: written rest
      | none =>
        ⟨(c :: cs.takeWhile isNameChar).map Char.toLower, []⟩ :: written
          (cs.dropWhile isNameChar) := by
  rw [written.eq_def]
  simp only [if_pos h]
  cases value? (cs.dropWhile isNameChar) <;> rfl

theorem written_append_of_blank {blanks : List Char} (h : ∀ c ∈ blanks, isBlank c = true)
    (rest : List Char) :
    written (blanks ++ rest) = written rest := by
  induction blanks with
  | nil => rfl
  | cons c blanks ih =>
    rw [List.forall_mem_cons] at h
    rw [List.cons_append, written_cons_of_not_isNameChar (not_isNameChar_of_isBlank h.1), ih h.2]

theorem Ends.written_eq {rest : List Char} (h : Ends rest) : written rest = [] := by
  cases h with
  | blank h =>
    have heq : written (rest ++ []) = written [] := written_append_of_blank h []
    rwa [List.append_nil, written_nil] at heq
  | slash _ h =>
    rw [written_append_of_blank h, written_cons_of_not_isNameChar (by decide), written_nil]

theorem value?_of_separates {rest : List Char} (h : Separates rest) : value? rest = none := by
  unfold value?
  split
  · rename_i heq
    exact absurd (by rw [heq]; rfl) h.2
  · rfl

theorem upTo?_append {mark : Char} {cs : List Char} (h : mark ∉ cs) (rest : List Char) :
    upTo? mark (cs ++ mark :: rest) = some (cs, rest) := by
  have hcs : ∀ c ∈ cs, (c != mark) = true := by
    intro c hc
    rw [bne_iff_ne]
    rintro rfl
    exact h hc
  have hmark : ∀ c ∈ (mark :: rest).head?, (c != mark) = false := by simp
  simp only [upTo?, dropWhile_append_of_head hcs hmark, takeWhile_append_of_head hcs hmark]

theorem quotedOrBare?_quoted {mark : Char} (hmark : mark = '"' ∨ mark = '\x27') {cs : List Char}
    (h : mark ∉ cs) (rest : List Char) :
    quotedOrBare? (mark :: (cs ++ mark :: rest)) = some (cs, rest) := by
  rcases hmark with rfl | rfl
  · exact upTo?_append h rest
  · exact upTo?_append h rest

theorem quotedOrBare?_bare {cs rest : List Char} (hne : cs ≠ [])
    (hcs : ∀ c ∈ cs, isValueChar c = true) (hrest : Separates rest) :
    quotedOrBare? (cs ++ rest) = some (cs, rest) := by
  have hhead : ∀ c ∈ rest.head?, isValueChar c = false :=
    fun c hc => not_isValueChar_of_isBlank (hrest.1 c hc)
  have htake := takeWhile_append_of_head hcs hhead
  have hdrop := dropWhile_append_of_head hcs hhead
  obtain ⟨c, cs, rfl⟩ := List.exists_cons_of_ne_nil hne
  have hc := hcs c List.mem_cons_self
  rw [List.cons_append] at htake hdrop ⊢
  unfold quotedOrBare?
  split
  · rename_i heq
    rw [(List.cons.inj heq).1] at hc
    exact absurd hc (by decide)
  · rename_i heq
    rw [(List.cons.inj heq).1] at hc
    exact absurd hc (by decide)
  · simp only [htake, hdrop]

theorem value?_written {before after cs v rest : List Char}
    (hbefore : ∀ c ∈ before, isBlank c = true) (hafter : ∀ c ∈ after, isBlank c = true)
    (hsolid : Text.StartsSolid cs) (h : quotedOrBare? cs = some (v, rest)) :
    value? (before ++ '=' :: (after ++ cs)) = some (v, rest) := by
  have hequals : Text.trimLeft (before ++ '=' :: (after ++ cs)) = '=' :: (after ++ cs) := by
    rw [Text.trimLeft_append_of_blank hbefore, Text.trimLeft_cons_other (by decide)]
  have hvalue : Text.trimLeft (after ++ cs) = cs := by
    rw [Text.trimLeft_append_of_blank hafter, hsolid.trimLeft_eq]
  simp only [value?, hequals, hvalue, h]

/-- What is read behind a name is the value that has been written there. -/
theorem WritesValue.value?_append {value text : List Char} (h : WritesValue value text)
    {rest : List Char} (hrest : Separates rest) :
    (value? (text ++ rest) = none ∧ text = [] ∧ value = []) ∨
      ∃ written, value? (text ++ rest) = some (written, rest) ∧ decode written = value := by
  cases h with
  | absent h => exact Or.inl ⟨value?_of_separates hrest, rfl, h⟩
  | @quoted before after written mark hbefore hafter hmark hspells hlacks =>
    refine Or.inr ⟨written, ?_, hspells.decode_eq⟩
    have hsolid : isBlank mark = false := by rcases hmark with rfl | rfl <;> rfl
    have hread := value?_written hbefore hafter (Text.startsSolid_cons hsolid _)
      (quotedOrBare?_quoted hmark hlacks rest)
    simpa using hread
  | @bare before after written hbefore hafter hspells hne hwritten =>
    refine Or.inr ⟨written, ?_, hspells.decode_eq⟩
    obtain ⟨c, cs, rfl⟩ := List.exists_cons_of_ne_nil hne
    have hc := hwritten c List.mem_cons_self
    have hsolid : isBlank c = false := by
      cases hblank : isBlank c with
      | false => rfl
      | true => rw [not_isValueChar_of_isBlank hblank] at hc; cases hc
    have hread := value?_written hbefore hafter (Text.startsSolid_cons hsolid _)
      (quotedOrBare?_bare hne hwritten hrest)
    simpa using hread

theorem WritesValue.head {value text : List Char} (h : WritesValue value text) {rest : List Char}
    (hrest : Separates rest) :
    ∀ c ∈ (text ++ rest).head?, isNameChar c = false := by
  have hequals {before : List Char} (h : ∀ c ∈ before, isBlank c = true) (cs : List Char) :
      ∀ c ∈ (before ++ '=' :: cs).head?, isNameChar c = false := by
    intro c hc
    cases before with
    | nil =>
      rw [← Option.some.inj hc]
      decide
    | cons b before =>
      rw [← Option.some.inj hc]
      exact not_isNameChar_of_isBlank (h b List.mem_cons_self)
  cases h with
  | absent _ => exact fun c hc => not_isNameChar_of_isBlank (hrest.1 c hc)
  | quoted hbefore _ _ _ _ =>
    rw [List.append_assoc, List.cons_append]
    exact hequals hbefore _
  | bare hbefore _ _ _ _ =>
    rw [List.append_assoc, List.cons_append]
    exact hequals hbefore _

theorem Writes.written_append {a : Attribute} {text : List Char} (h : Writes a text)
    {rest : List Char} (hrest : Separates rest) : written (text ++ rest) = a :: written rest := by
  obtain ⟨-, hblanks, hname, hchars, hcase, hvalue⟩ := h
  rename_i blanks name value
  have htake := takeWhile_append_of_head hchars (hvalue.head hrest)
  have hdrop := dropWhile_append_of_head hchars (hvalue.head hrest)
  obtain ⟨c, cs, rfl⟩ := List.exists_cons_of_ne_nil hname
  have hc := hchars c List.mem_cons_self
  rw [List.cons_append, List.takeWhile_cons_of_pos hc] at htake
  rw [List.cons_append, List.dropWhile_cons_of_pos hc] at hdrop
  rw [List.append_assoc, written_append_of_blank hblanks, List.append_assoc, List.cons_append,
    written_cons_of_isNameChar hc, htake, hdrop, hcase]
  rcases hvalue.value?_append hrest with ⟨hnone, rfl, hnil⟩ | ⟨writtenValue, hsome, hdecode⟩
  · have ha : (⟨a.name, []⟩ : Attribute) = a := by rw [← hnil]
    rw [List.nil_append] at hnone ⊢
    simp only [hnone, ha]
  · have ha : (⟨a.name, decode writtenValue⟩ : Attribute) = a := by rw [hdecode]
    simp only [hsome, ha]

theorem written_of_writesAll {as : List Attribute} {text rest : List Char} (h : WritesAll as text)
    (hrest : Ends rest) :
    written (text ++ rest) = as := by
  have hseparates {as : List Attribute} {text : List Char} (h : WritesAll as text) :
      Separates (text ++ rest) := by
    cases h with
    | nil => exact hrest.separates
    | cons h _ =>
      rw [List.append_assoc]
      exact h.separates _
  induction h with
  | nil => exact hrest.written_eq
  | cons h hall ih => rw [List.append_assoc, h.written_append (hseparates hall), ih]

theorem firstOfEach_eq (as : List Attribute) :
    firstOfEach as =
      (as.zipIdx.filter fun p => (as.take p.2).all fun b => b.name ≠ p.1.name).map Prod.fst := by
  induction as with
  | nil => rfl
  | cons a as ih =>
    have hbehind (p : Attribute × Nat) :
        ((a :: as).take (p.2 + 1)).all (fun b => b.name ≠ p.1.name) =
          (decide (p.1.name ≠ a.name) && (as.take p.2).all fun b => b.name ≠ p.1.name) := by
      rw [List.take_succ_cons, List.all_cons, decide_eq_decide.mpr ne_comm]
    rw [firstOfEach, ih, List.filter_map, List.filter_filter, List.zipIdx_cons,
      List.filter_cons_of_pos (by simp), List.map_cons, List.zipIdx_succ, List.filter_map,
      List.map_map]
    simp only [Function.comp_def, hbehind]

theorem parse_writesAll {as : List Attribute} {text ending : List Char} (h : WritesAll as text)
    (hending : Ends ending) :
    parse (text ++ ending) =
      (as.zipIdx.filter fun p => (as.take p.2).all fun b => b.name ≠ p.1.name).map Prod.fst := by
  rw [parse, written_of_writesAll h hending, firstOfEach_eq]

theorem parse_quotedMarker :
    parse " DATETIME='data-local-time=relative>' hidden title = a&lt;b datetime=\x22\x22 /".toList =
      [⟨"datetime".toList, "data-local-time=relative>".toList⟩, ⟨"hidden".toList, []⟩,
        ⟨"title".toList, "a<b".toList⟩] := by
  have hquoted : Writes ⟨"datetime".toList, "data-local-time=relative>".toList⟩
      ([' '] ++ ("DATETIME".toList ++ ([] ++ '=' :: ([] ++ '\x27' ::
        ("data-local-time=relative>".toList ++ ['\x27']))))) :=
    .intro (by decide) (List.all_eq_true.mp rfl) (by decide) (List.all_eq_true.mp rfl) (by decide)
      (.quoted nofun nofun (.inr rfl) (SpellsText.of_not_mem (by decide)) (by decide))
  have hflag : Writes ⟨"hidden".toList, []⟩ ([' '] ++ ("hidden".toList ++ [])) :=
    .intro (by decide) (List.all_eq_true.mp rfl) (by decide) (List.all_eq_true.mp rfl) (by decide)
      (.absent rfl)
  have hbare : Writes ⟨"title".toList, "a<b".toList⟩
      ([' '] ++ ("title".toList ++ ([' '] ++ '=' ::
        ([' '] ++ (['a'] ++ (('&' :: ("lt".toList ++ [';'])) ++ (['b'] ++ []))))))) :=
    .intro (by decide) (List.all_eq_true.mp rfl) (by decide) (List.all_eq_true.mp rfl) (by decide)
      (.bare (List.all_eq_true.mp rfl) (List.all_eq_true.mp rfl)
        (.cons (.literal (by decide))
          (.cons (.named (by decide)) (.cons (.literal (by decide)) .nil)))
        (by decide) (List.all_eq_true.mp rfl))
  have hagain : Writes ⟨"datetime".toList, []⟩ ([' '] ++ ("datetime".toList ++
      ([] ++ '=' :: ([] ++ '"' :: ([] ++ ['"']))))) :=
    .intro (by decide) (List.all_eq_true.mp rfl) (by decide) (List.all_eq_true.mp rfl) (by decide)
      (.quoted nofun nofun (.inl rfl) .nil nofun)
  have hending : Ends ([' '] ++ ['/']) := .slash (by decide) (List.all_eq_true.mp rfl)
  exact parse_writesAll (.cons hquoted (.cons hflag (.cons hbare (.cons hagain .nil)))) hending

end TimeMarkup.Markup.Attribute
