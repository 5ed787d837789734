import TimeMarkup.Proofs.Markup.Escaping
import TimeMarkup.Proofs.Markup.Regions

/-!
# Quotations that tags leave open

An opening tag that has not come to its end leaves a quotation open, as otherwise the next bracket
would close it. The quotation runs on through the elements behind the tag. A content that does not
hold its mark goes by unseen, and so does any other content in its place.
-/

namespace TimeMarkup.Markup

/-- Quotation marks only are ever open. -/
def IsMark (q : Option Char) : Prop := ∀ c, q = some c → c = '"' ∨ c = '\x27'

theorem isMark_none : IsMark none := nofun

theorem isMark_opensQuote (c : Char) : IsMark (opensQuote c) := by
  intro d hd
  unfold opensQuote at hd
  split at hd
  · rename_i h
    exact Option.some.inj hd ▸ h
  · simp at hd

theorem isMark_quoteAfter {q : Option Char} (h : IsMark q) (cs : List Char) :
    IsMark (quoteAfter q cs) := by
  fun_induction quoteAfter q cs with
  | case1 => exact h
  | case2 c cs ih => exact ih (isMark_opensQuote c)
  | case3 q c cs ih =>
    apply ih
    split
    · exact isMark_none
    · exact h

theorem IsMark.not_mem_of_unquoted {c : Char} (h : IsMark (some c)) {cs : List Char}
    (hcs : Unquoted cs) : c ∉ cs := by
  rcases h c rfl with rfl | rfl
  · exact hcs.1
  · exact hcs.2

theorem quoteAfter_append (q : Option Char) (cs ds : List Char) :
    quoteAfter q (cs ++ ds) = quoteAfter (quoteAfter q cs) ds := by
  fun_induction quoteAfter q cs with
  | case1 => rfl
  | case2 c cs ih => rw [List.cons_append, quoteAfter, ih]
  | case3 q c cs ih => rw [List.cons_append, quoteAfter, ih]

theorem tagBody?_append_eq_none_iff {q : Option Char} {cs ds : List Char} :
    tagBody? q (cs ++ ds) = none ↔ tagBody? q cs = none ∧ tagBody? (quoteAfter q cs) ds = none := by
  cases hcs : tagBody? q cs with
  | none =>
    rw [tagBody?_append_of_none hcs, Option.map_eq_none_iff]
    simp
  | some p =>
    obtain ⟨body, rest⟩ := p
    rw [tagBody?_append_of_some hcs]
    simp

/-- Within a quotation everything up to its mark is passed. -/
theorem passed_of_not_mem {c : Char} {cs : List Char} (h : c ∉ cs) :
    tagBody? (some c) cs = none ∧ quoteAfter (some c) cs = some c := by
  induction cs with
  | nil => exact ⟨rfl, rfl⟩
  | cons d ds ih =>
    rw [List.mem_cons, not_or] at h
    obtain ⟨hbody, hquote⟩ := ih h.2
    rw [tagBody?, quoteAfter, if_neg (Ne.symm h.1), hbody]
    exact ⟨rfl, hquote⟩

/-- A bracket that does not close a tag stands in a quotation. -/
theorem exists_quoteAfter_of_passed {q : Option Char} (hq : IsMark q) {cs : List Char}
    (h : tagBody? q (cs ++ ['>']) = none) : ∃ c, quoteAfter q (cs ++ ['>']) = some c := by
  have hlast := (tagBody?_append_eq_none_iff.mp h).2
  have hmark := isMark_quoteAfter hq cs
  cases hopen : quoteAfter q cs with
  | none =>
    rw [hopen, tagBody?, if_pos rfl] at hlast
    cases hlast
  | some c =>
    rw [hopen] at hmark
    have hne : '>' ≠ c := by
      rintro rfl
      rcases hmark _ rfl with h | h <;> revert h <;> decide
    exact ⟨c, by rw [quoteAfter_append, hopen, quoteAfter, if_neg hne, quoteAfter]⟩

/-- Whether a character ends a tag's name, and not the tag. -/
def startsBody (c : Char) : Bool :=
  isBlank c || c == '/'

/-- The quotation mark that is open at the end of a text, if the text starts behind the bracket of
an opening tag of the name that has not come to its end. -/
def openMark? (name text : List Char) : Option Char :=
  match tagName? name text with
  | some (_, rest) =>
    if rest.head?.any startsBody && (tagBody? none rest).isNone then quoteAfter none rest else none
  | none => none

theorem openMark?_append {name written : List Char} (hn : IsName name)
    (hw : written.map foldCase = name) {c : Char} (hc : startsBody c = true) {cs : List Char}
    (hopen : tagBody? none (c :: cs) = none) :
    openMark? name (written ++ c :: cs) = quoteAfter none (c :: cs) := by
  have hname : tagName? name (written ++ c :: cs) = some (written, c :: cs) :=
    (tagName?_eq_some_iff hn).mpr ⟨rfl, hw⟩
  simp [openMark?, hname, hc, hopen]

theorem isMark_openMark? (name text : List Char) : IsMark (openMark? name text) := by
  rw [openMark?]
  split
  · split
    · exact isMark_quoteAfter isMark_none _
    · exact isMark_none
  · exact isMark_none

/-- No quotation that is open in front of the stretch ends within its content, if the content
changes. The text is that between the bracket of a tag and the stretch. -/
def Stretch.keepsMarks (changes : Stretch → Bool) (text : List Char) : Stretch → Bool
  | time name tagBody content closing =>
    !changes (time name tagBody content closing) ||
      (timeName :: rawNames).all fun n => (openMark? n (text ++ openingTag name tagBody)).all
        fun c => c ∉ content
  | _ => true

/-- What stands behind the bracket of a tag goes on with stretches in which no quotation of that tag
ends in a content that changes. -/
def keepsMarks (changes : Stretch → Bool) (text : List Char) : List Stretch → Bool
  | [] => true
  | s :: ss => s.keepsMarks changes text && keepsMarks changes (text ++ s.source) ss

/-- No tag leaves a quotation open that ends in a content that changes. -/
def isSealed (changes : Stretch → Bool) : List Stretch → Bool
  | [] => true
  | s :: ss => (s != .plain '<' || keepsMarks changes [] ss) && isSealed changes ss

section
variable {changes : Stretch → Bool}

theorem keepsMarks_plain_append (text cs : List Char) (ss : List Stretch) :
    keepsMarks changes text (cs.map .plain ++ ss) = keepsMarks changes (text ++ cs) ss := by
  induction cs generalizing text with
  | nil => rw [List.map_nil, List.nil_append, List.append_nil]
  | cons c cs ih =>
    rw [List.map_cons, List.cons_append, keepsMarks, ih, Stretch.source, List.append_assoc]
    rfl

theorem not_mem_of_keepsMarks {text name tagBody content closing : List Char} {ss : List Stretch}
    (h : keepsMarks changes text (.time name tagBody content closing :: ss) = true)
    (hchanges : changes (.time name tagBody content closing) = true) {n : List Char}
    (hn : n ∈ timeName :: rawNames) {c : Char}
    (hc : openMark? n (text ++ openingTag name tagBody) = some c) : c ∉ content := by
  rw [keepsMarks, Bool.and_eq_true] at h
  have hall := h.1
  rw [Stretch.keepsMarks, hchanges, Bool.not_true, Bool.false_or, List.all_eq_true] at hall
  have hmark := hall n hn
  rw [hc] at hmark
  exact of_decide_eq_true hmark

theorem keepsMarks_tail {text : List Char} {s : Stretch} {ss : List Stretch}
    (h : keepsMarks changes text (s :: ss) = true) :
    keepsMarks changes (text ++ s.source) ss = true :=
  (Bool.and_eq_true _ _ ▸ h).2

/-- Contents without quotation marks end no quotation. -/
theorem keepsMarks_of_unquoted
    (h : ∀ name tagBody content closing,
      changes (.time name tagBody content closing) = true → Unquoted content)
    (text : List Char) (ss : List Stretch) :
    keepsMarks changes text ss = true := by
  induction ss generalizing text with
  | nil => rfl
  | cons s ss ih =>
    rw [keepsMarks, ih, Bool.and_true]
    cases s with
    | plain c => rfl
    | skipped cs => rfl
    | time name tagBody content closing =>
      rw [Stretch.keepsMarks, Bool.or_eq_true, Bool.not_eq_true', or_iff_not_imp_left,
        Bool.not_eq_false, List.all_eq_true]
      intro hchanges n _
      have hmark := isMark_openMark? n (text ++ openingTag name tagBody)
      cases hopen : openMark? n (text ++ openingTag name tagBody) with
      | none => rfl
      | some c => exact decide_eq_true ((hopen ▸ hmark).not_mem_of_unquoted (h _ _ _ _ hchanges))

theorem isSealed_of_unquoted (h : ∀ name tagBody content closing,
    changes (.time name tagBody content closing) = true → Unquoted content) (ss : List Stretch) :
    isSealed changes ss = true := by
  induction ss with
  | nil => rfl
  | cons s ss ih => rw [isSealed, keepsMarks_of_unquoted h, ih, Bool.or_true, Bool.and_true]

end

end TimeMarkup.Markup
