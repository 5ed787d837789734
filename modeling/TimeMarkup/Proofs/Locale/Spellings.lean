import Mathlib.Data.List.Basic
import TimeMarkup.Locale.LongDate
import TimeMarkup.Proofs.Text.Letters
import TimeMarkup.Proofs.Text.Splitting
import TimeMarkup.Proofs.Text.Trimming

/-!
# Spellings of a locale tag

A tag is found in a text whatever the case of its letters, whichever separators stand between its
subtags and in front of them, and whatever codeset or modifier follows. The tag's own text is one of
its spellings.
-/

namespace TimeMarkup.LocaleTag

def isSeparator (c : Char) : Bool :=
  c == '-' || c == '_'

/-- Whether a codeset or a modifier starts with the character. -/
def isMark (c : Char) : Bool :=
  c == '.' || c == '@'

/-- The text in front of codeset and modifier. -/
def base (cs : List Char) : List Char :=
  cs.takeWhile fun c => !isMark c

def ofSubtags? : List (List Char) → Option LocaleTag
  | [] => none
  | language :: others =>
    if isLanguage language then
      some
        { language := String.ofList (language.map Char.toLower)
          region := (others.find? isRegion).map fun r => String.ofList (r.map Char.toUpper) }
    else none

theorem ofChars?_eq (cs : List Char) :
    ofChars? cs = ofSubtags? (Text.words isSeparator (base (Text.trim cs))) :=
  rfl

/-- A text written in another way: with letters in the other case, and with other and more
separators for each one. -/
inductive Rewrites : List Char → List Char → Prop
  | nil : Rewrites [] []
  | char {c d : Char} {cs ds : List Char} (hcase : c.toLower = d.toLower) (h : Rewrites cs ds) :
      Rewrites (c :: cs) (d :: ds)
  | separator {c : Char} {separators cs ds : List Char} (hc : isSeparator c = true)
      (hne : separators ≠ []) (hseparators : ∀ d ∈ separators, isSeparator d = true)
      (h : Rewrites cs ds) :
      Rewrites (c :: cs) (separators ++ ds)

/-- The ways to spell a text: rewritten, with separators in front of it, codeset or modifier behind
it, and blanks around all of that. -/
inductive Spells (cs : List Char) : List Char → Prop
  | intro {before separators ds suffix after : List Char} (hbefore : ∀ c ∈ before, isBlank c = true)
      (hseparators : ∀ c ∈ separators, isSeparator c = true) (h : Rewrites cs ds)
      (hsuffix : ∀ c ∈ suffix.head?, isMark c = true) (hafter : ∀ c ∈ after, isBlank c = true) :
      Spells cs (before ++ (separators ++ ds ++ suffix) ++ after)

/-- A language in two or three small letters, and two capitals or three digits for the region. -/
structure IsNormal (t : LocaleTag) : Prop where
  language : (t.language.length = 2 ∨ t.language.length = 3) ∧ ∀ c ∈ t.language.toList,
    c.isLower = true
  region : ∀ r ∈ t.region, (r.length = 2 ∧ ∀ c ∈ r.toList, c.isUpper = true) ∨
    (r.length = 3 ∧ ∀ c ∈ r.toList, c.isDigit = true)

section Subtags

theorem isLanguage_iff {w : List Char} :
    isLanguage w = true ↔ (w.length = 2 ∨ w.length = 3) ∧ ∀ c ∈ w, c.isAlpha = true := by
  simp [isLanguage]

theorem isRegion_iff {w : List Char} :
    isRegion w = true ↔
      (w.length = 2 ∧ ∀ c ∈ w, c.isAlpha = true) ∨ (w.length = 3 ∧ ∀ c ∈ w, c.isDigit = true) := by
  simp [isRegion]

theorem isLanguage_map_toLower (w : List Char) :
    isLanguage (w.map Char.toLower) = isLanguage w := by
  simp only [isLanguage, List.length_map, List.all_map, Function.comp_def, Text.isAlpha_toLower]

theorem isRegion_map_toLower (w : List Char) : isRegion (w.map Char.toLower) = isRegion w := by
  simp only [isRegion, List.length_map, List.all_map, Function.comp_def, Text.isAlpha_toLower,
    Text.isDigit_toLower]

/-- A tag has the letters of its subtags, in whichever case they are written. -/
theorem ofSubtags?_map_toLower (ws : List (List Char)) :
    ofSubtags? (ws.map (List.map Char.toLower)) = ofSubtags? ws := by
  cases ws with
  | nil => rfl
  | cons language others =>
    have hregion : (others.map (List.map Char.toLower)).find? isRegion =
        (others.find? isRegion).map (List.map Char.toLower) := by
      rw [List.find?_map]
      simp only [Function.comp_def, isRegion_map_toLower]
    simp only [List.map_cons, ofSubtags?, isLanguage_map_toLower, hregion, Option.map_map,
      Function.comp_def, List.map_map, Text.toLower_toLower, Text.toUpper_toLower]

theorem isNormal_of_ofSubtags? {ws : List (List Char)} {t : LocaleTag}
    (h : ofSubtags? ws = some t) : t.IsNormal := by
  cases ws with
  | nil => cases h
  | cons language others =>
    simp only [ofSubtags?, Option.ite_none_right_eq_some, Option.some.injEq] at h
    obtain ⟨hlanguage, rfl⟩ := h
    rw [isLanguage_iff] at hlanguage
    refine ⟨⟨?_, ?_⟩, ?_⟩
    · simpa using hlanguage.1
    · intro c hc
      rw [String.toList_ofList, List.mem_map] at hc
      obtain ⟨d, hd, rfl⟩ := hc
      exact Text.isLower_toLower (hlanguage.2 d hd)
    · intro r hr
      obtain ⟨w, hw, rfl⟩ := Option.map_eq_some_iff.mp hr
      have hregion := List.find?_some hw
      rw [isRegion_iff] at hregion
      refine hregion.imp ?_ ?_
      · rintro ⟨hlength, hletters⟩
        refine ⟨by simpa using hlength, fun c hc => ?_⟩
        rw [String.toList_ofList, List.mem_map] at hc
        obtain ⟨d, hd, rfl⟩ := hc
        exact Text.isUpper_toUpper (hletters d hd)
      · rintro ⟨hlength, hdigits⟩
        refine ⟨by simpa using hlength, fun c hc => ?_⟩
        rw [String.toList_ofList, List.mem_map] at hc
        obtain ⟨d, hd, rfl⟩ := hc
        rw [Text.toUpper_of_isDigit (hdigits d hd)]
        exact hdigits d hd

end Subtags

section Characters
variable {c d : Char}

theorem isBlank_of_isAlpha (h : c.isAlpha = true) : isBlank c = false := by
  rw [Text.isAlpha_iff] at h
  simp only [isBlank, Bool.or_eq_false_iff, Bool.and_eq_false_iff, decide_eq_false_iff_not,
    beq_eq_false_iff_ne]
  omega

theorem isBlank_of_isSeparator (h : isSeparator c = true) : isBlank c = false := by
  simp only [isSeparator, Bool.or_eq_true, beq_iff_eq] at h
  rcases h with rfl | rfl <;> decide

theorem isBlank_of_isMark (h : isMark c = true) : isBlank c = false := by
  simp only [isMark, Bool.or_eq_true, beq_iff_eq] at h
  rcases h with rfl | rfl <;> decide

theorem isMark_of_isSeparator (h : isSeparator c = true) : isMark c = false := by
  simp only [isSeparator, Bool.or_eq_true, beq_iff_eq] at h
  rcases h with rfl | rfl <;> decide

/-- Letters and digits stand for themselves in a tag. -/
theorem plain_of_isAlphanum (h : c.isAlpha = true ∨ c.isDigit = true) :
    isBlank c = false ∧ isSeparator c = false ∧ isMark c = false := by
  refine ⟨h.elim isBlank_of_isAlpha isDigit_not_isBlank, ?_, ?_⟩
  all_goals
    rw [Bool.eq_false_iff]
    intro hc
    simp only [isSeparator, isMark, Bool.or_eq_true, beq_iff_eq] at hc
    rcases hc with rfl | rfl <;> revert h <;> decide

theorem eq_of_toLower_eq (p : Char → Bool) (hp : ∀ c, c.isAlpha = true → p c = false)
    (h : c.toLower = d.toLower) :
    p c = p d := by
  rcases Text.eq_or_isAlpha_of_toLower_eq h with rfl | ⟨hc, hd⟩
  · rfl
  · rw [hp c hc, hp d hd]

theorem isBlank_eq (h : c.toLower = d.toLower) : isBlank c = isBlank d :=
  eq_of_toLower_eq isBlank (fun _ hc => (plain_of_isAlphanum (.inl hc)).1) h

theorem isSeparator_eq (h : c.toLower = d.toLower) : isSeparator c = isSeparator d :=
  eq_of_toLower_eq isSeparator (fun _ hc => (plain_of_isAlphanum (.inl hc)).2.1) h

theorem isMark_eq (h : c.toLower = d.toLower) : isMark c = isMark d :=
  eq_of_toLower_eq isMark (fun _ hc => (plain_of_isAlphanum (.inl hc)).2.2) h

end Characters

section Base

theorem base_cons_of_mark {c : Char} (h : isMark c = true) (cs : List Char) : base (c :: cs) = [] :=
  List.takeWhile_cons_of_neg (by simp [h])

theorem base_cons_of_not_mark {c : Char} (h : isMark c = false) (cs : List Char) :
    base (c :: cs) = c :: base cs :=
  List.takeWhile_cons_of_pos (by simp [h])

theorem base_append_of_not_mark {front : List Char} (h : ∀ c ∈ front, isMark c = false)
    (cs : List Char) :
    base (front ++ cs) = front ++ base cs :=
  List.takeWhile_append_of_pos fun c hc => by simp [h c hc]

theorem base_of_no_mark {cs : List Char} (h : ∀ c ∈ cs, isMark c = false) : base cs = cs := by
  have happend := base_append_of_not_mark h []
  rw [List.append_nil] at happend
  rw [happend]
  exact List.append_nil cs

theorem base_append_mark {c : Char} (h : isMark c = true) (cs rest : List Char) :
    base (cs ++ c :: rest) = base cs := by
  induction cs with
  | nil => exact base_cons_of_mark h rest
  | cons d cs ih =>
    cases hd : isMark d with
    | true => rw [List.cons_append, base_cons_of_mark hd, base_cons_of_mark hd]
    | false => rw [List.cons_append, base_cons_of_not_mark hd, base_cons_of_not_mark hd, ih]

end Base

theorem map_word {w v : List Char} (h : v.map Char.toLower = w.map Char.toLower) :
    ([v].filter (!·.isEmpty)).map (List.map Char.toLower) = ([w].filter (!·.isEmpty)).map
      (List.map Char.toLower) := by
  have hempty : v.isEmpty = w.isEmpty := by
    rw [← @List.isEmpty_map _ _ v Char.toLower, h, List.isEmpty_map]
  rw [List.filter_cons, List.filter_cons, hempty]
  split
  · rw [List.map_cons, List.map_cons, h]
  · rfl

namespace Rewrites
variable {cs ds : List Char}

theorem base (h : Rewrites cs ds) : Rewrites (base cs) (base ds) := by
  induction h with
  | nil => exact .nil
  | @char c d cs ds hcase _ ih =>
    have hmark := isMark_eq hcase
    cases hc : isMark c with
    | true =>
      rw [base_cons_of_mark hc, base_cons_of_mark (hmark ▸ hc)]
      exact .nil
    | false =>
      rw [base_cons_of_not_mark hc, base_cons_of_not_mark (hmark ▸ hc)]
      exact .char hcase ih
  | separator hc hne hseparators _ ih =>
    rw [base_cons_of_not_mark (isMark_of_isSeparator hc),
      base_append_of_not_mark fun d hd => isMark_of_isSeparator (hseparators d hd)]
    exact .separator hc hne hseparators ih

/-- The texts have the same words but for the case, also behind the first letters of a word that
goes on in them. -/
theorem map_words_append (h : Rewrites cs ds) (front front' : List Char)
    (hfront : ∀ c ∈ front, isSeparator c = false) (hfront' : ∀ c ∈ front', isSeparator c = false)
    (hcase : front'.map Char.toLower = front.map Char.toLower) :
    (Text.words isSeparator (front' ++ ds)).map (List.map Char.toLower) =
      (Text.words isSeparator (front ++ cs)).map (List.map Char.toLower) := by
  induction h generalizing front front' with
  | nil =>
    rw [List.append_nil, List.append_nil, Text.words_of_no_separator hfront,
      Text.words_of_no_separator hfront']
    exact map_word hcase
  | @char c d cs ds hletter h ih =>
    have hseparator := isSeparator_eq hletter
    cases hc : isSeparator c with
    | true =>
      rw [Text.words_append_separator hfront hc,
        Text.words_append_separator hfront' (hseparator ▸ hc), List.map_append, List.map_append,
        map_word hcase]
      exact congrArg _ (ih [] [] nofun nofun rfl)
    | false =>
      have hnext :=
        ih (front ++ [c]) (front' ++ [d]) (by simpa [or_imp, forall_and, hc] using hfront)
        (by simpa [or_imp, forall_and, hseparator ▸ hc] using hfront') (by simp [hcase, hletter])
      simpa only [List.append_assoc, List.singleton_append] using hnext
  | @separator c separators cs ds hc hne hseparators h ih =>
    obtain ⟨d, separators, rfl⟩ := List.exists_cons_of_ne_nil hne
    rw [List.forall_mem_cons] at hseparators
    rw [Text.words_append_separator hfront hc, List.cons_append,
      Text.words_append_separator hfront' hseparators.1, Text.words_append_of_separators
      hseparators.2, List.map_append, List.map_append, map_word hcase]
    exact congrArg _ (ih [] [] nofun nofun rfl)

theorem map_words (h : Rewrites cs ds) :
    (Text.words isSeparator ds).map (List.map Char.toLower) = (Text.words isSeparator cs).map
      (List.map Char.toLower) :=
  h.map_words_append [] [] nofun nofun rfl

theorem head? (h : Rewrites cs ds) (hcs : ∀ c ∈ cs.head?, isBlank c = false) :
    ∀ d ∈ ds.head?, isBlank d = false := by
  cases h with
  | nil => exact nofun
  | @char c d cs ds hcase _ =>
    rintro _ ⟨⟩
    rw [← isBlank_eq hcase]
    exact hcs c rfl
  | @separator c separators cs ds hc hne hseparators _ =>
    obtain ⟨d, separators, rfl⟩ := List.exists_cons_of_ne_nil hne
    rintro _ ⟨⟩
    exact isBlank_of_isSeparator (hseparators d List.mem_cons_self)

theorem eq_nil_iff (h : Rewrites cs ds) : ds = [] ↔ cs = [] := by
  cases h with
  | nil => rfl
  | char => simp
  | separator hc hne => simp [hne]

theorem getLast? (h : Rewrites cs ds) (hcs : ∀ c ∈ cs.getLast?, isBlank c = false) :
    ∀ d ∈ ds.getLast?, isBlank d = false := by
  -- The last character of a text is that of its rest, as long as something is left.
  have hrest (front front' : List Char) {cs ds : List Char} (h : Rewrites cs ds)
      (ih : (∀ c ∈ cs.getLast?, isBlank c = false) → ∀ d ∈ ds.getLast?, isBlank d = false)
      (hfront : cs = [] → ∀ d ∈ front'.getLast?, isBlank d = false)
      (hcs : ∀ c ∈ (front ++ cs).getLast?, isBlank c = false) : ∀ d ∈ (front' ++ ds).getLast?,
        isBlank d = false := by
    by_cases hnil : cs = []
    · rw [h.eq_nil_iff.mpr hnil, List.append_nil]
      exact hfront hnil
    · rw [List.getLast?_append_of_ne_nil _ (h.eq_nil_iff.not.mpr hnil)]
      rw [List.getLast?_append_of_ne_nil _ hnil] at hcs
      exact ih hcs
  induction h with
  | nil => exact nofun
  | @char c d cs ds hcase h ih =>
    refine hrest [c] [d] h ih ?_ hcs
    rintro rfl e he
    obtain rfl : d = e := by simpa using he
    rw [← isBlank_eq hcase]
    exact hcs c rfl
  | @separator c separators cs ds hc hne hseparators h ih =>
    refine hrest [c] separators h ih (fun _ d hd => ?_) hcs
    exact isBlank_of_isSeparator (hseparators d (List.mem_of_mem_getLast? hd))

end Rewrites

/-- Codeset, modifier and the blanks around the text are left out of what is read. -/
theorem base_trim {before front suffix after : List Char} (hbefore : ∀ c ∈ before, isBlank c = true)
    (hhead : ∀ c ∈ front.head?, isBlank c = false) (hlast : ∀ c ∈ front.getLast?, isBlank c = false)
    (hsuffix : ∀ c ∈ suffix.head?, isMark c = true) (hafter : ∀ c ∈ after, isBlank c = true) :
    base (Text.trim (before ++ (front ++ suffix) ++ after)) = base front := by
  cases suffix with
  | nil =>
    rw [List.append_nil]
    by_cases hnil : front = []
    · rw [hnil, List.append_nil, Text.trim_of_blanks fun c hc =>
        (List.mem_append.mp hc).elim (hbefore c) (hafter c)]
    · have hend : Text.StartsSolid front.reverse :=
        Text.startsSolid_of_ne_nil (by simpa using hnil)
          (by simpa only [List.head?_reverse] using hlast)
      rw [Text.trim_among_blanks hbefore hafter (Text.startsSolid_of_ne_nil hnil hhead) hend]
  | cons m suffix =>
    have hm := hsuffix m rfl
    have hstart : Text.StartsSolid (front ++ m :: (suffix ++ after)) := by
      cases front with
      | nil => exact Text.startsSolid_cons (isBlank_of_isMark hm) _
      | cons c front => exact Text.startsSolid_cons (hhead c rfl) _
    rw [List.append_assoc, List.append_assoc, List.cons_append, Text.trim,
      Text.trimLeft_append_of_blank hbefore, hstart.trimLeft_eq, Text.trimRight_append_cons
      (isBlank_of_isMark hm), base_append_mark hm]

theorem ofChars?_of_spells {cs ds : List Char} (htrim : Text.trim cs = cs) (h : Spells cs ds) :
    ofChars? ds = ofChars? cs := by
  obtain ⟨hbefore, hseparators, hrewrites, hsuffix, hafter⟩ := h
  rename_i before separators ds suffix after
  obtain ⟨hcs, hcs'⟩ := Text.ends_of_trim_eq_self htrim
  have hhead : ∀ c ∈ (separators ++ ds).head?, isBlank c = false := by
    cases separators with
    | nil => exact hrewrites.head? hcs
    | cons d separators =>
      rintro _ ⟨⟩
      exact isBlank_of_isSeparator (hseparators d List.mem_cons_self)
  have hlast : ∀ c ∈ (separators ++ ds).getLast?, isBlank c = false := by
    by_cases hnil : ds = []
    · rw [hnil, List.append_nil]
      exact fun c hc => isBlank_of_isSeparator (hseparators c (List.mem_of_mem_getLast? hc))
    · rw [List.getLast?_append_of_ne_nil _ hnil]
      exact hrewrites.getLast? hcs'
  have hbase : base (separators ++ ds) = separators ++ base ds :=
    base_append_of_not_mark (fun c hc => isMark_of_isSeparator (hseparators c hc)) ds
  rw [ofChars?_eq, ofChars?_eq, base_trim hbefore hhead hlast hsuffix hafter, hbase, htrim,
    Text.words_append_of_separators hseparators, ← ofSubtags?_map_toLower, hrewrites.base.map_words,
    ofSubtags?_map_toLower]

namespace IsNormal
variable {t : LocaleTag} (h : t.IsNormal)
include h

theorem language_plain {c : Char} (hc : c ∈ t.language.toList) :
    isBlank c = false ∧ isSeparator c = false ∧ isMark c = false :=
  plain_of_isAlphanum (.inl (Bool.or_eq_true_iff.mpr (.inr (h.language.2 c hc))))

theorem region_plain {r : String} (hr : r ∈ t.region) {c : Char} (hc : c ∈ r.toList) :
    isBlank c = false ∧ isSeparator c = false ∧ isMark c = false := by
  rcases h.region r hr with ⟨-, hletters⟩ | ⟨-, hdigits⟩
  · exact plain_of_isAlphanum (.inl (Bool.or_eq_true_iff.mpr (.inl (hletters c hc))))
  · exact plain_of_isAlphanum (.inr (hdigits c hc))

theorem isLanguage : isLanguage t.language.toList = true := by
  rw [isLanguage_iff, String.length_toList]
  exact ⟨h.language.1, fun c hc => Bool.or_eq_true_iff.mpr (.inr (h.language.2 c hc))⟩

theorem isRegion {r : String} (hr : r ∈ t.region) : isRegion r.toList = true := by
  rw [isRegion_iff, String.length_toList]
  refine (h.region r hr).imp ?_ id
  rintro ⟨hlength, hletters⟩
  exact ⟨hlength, fun c hc => Bool.or_eq_true_iff.mpr (.inl (hletters c hc))⟩

theorem map_toLower : String.ofList (t.language.toList.map Char.toLower) = t.language := by
  have hmap : t.language.toList.map Char.toLower = t.language.toList.map id :=
    List.map_congr_left fun c hc => Text.toLower_of_isLower (h.language.2 c hc)
  rw [hmap, List.map_id, String.ofList_toList]

theorem map_toUpper {r : String} (hr : r ∈ t.region) :
    String.ofList (r.toList.map Char.toUpper) = r := by
  have hmap : r.toList.map Char.toUpper = r.toList.map id := by
    refine List.map_congr_left fun c hc => ?_
    rcases h.region r hr with ⟨-, hletters⟩ | ⟨-, hdigits⟩
    · exact Text.toUpper_of_isUpper (hletters c hc)
    · exact Text.toUpper_of_isDigit (hdigits c hc)
  rw [hmap, List.map_id, String.ofList_toList]

/-- The text of a tag has its language and its region as subtags. -/
theorem words_text : Text.words isSeparator (base (Text.trim t.text.toList)) =
    t.language.toList :: (t.region.map String.toList).toList := by
  have hlanguage : [t.language.toList].filter (!·.isEmpty) = [t.language.toList] := by
    rw [List.filter_cons_of_pos, List.filter_nil]
    rcases h.language.1 with hlength | hlength <;>
      simp [← List.length_eq_zero_iff, String.length_toList, hlength]
  cases hregion : t.region with
  | none =>
    have htext : t.text = t.language := by simp only [text, hregion]
    rw [htext, Text.trim_of_solid fun c hc => (h.language_plain hc).1,
      base_of_no_mark fun c hc => (h.language_plain hc).2.2,
      Text.words_of_no_separator fun c hc => (h.language_plain hc).2.1, hlanguage]
    rfl
  | some r =>
    have htext : t.text.toList = t.language.toList ++ '-' :: r.toList := by
      simp only [text, hregion, String.toList_append, List.append_assoc]
      rfl
    have hplain : ∀ c ∈ t.text.toList, isBlank c = false ∧ isMark c = false := by
      rw [htext]
      intro c hc
      rcases List.mem_append.mp hc with hc | hc
      · exact (h.language_plain hc).imp_right And.right
      · rcases List.mem_cons.mp hc with rfl | hc
        · exact ⟨by decide, by decide⟩
        · exact (h.region_plain hregion hc).imp_right And.right
    have hr : [r.toList].filter (!·.isEmpty) = [r.toList] := by
      rw [List.filter_cons_of_pos, List.filter_nil]
      rcases h.region r hregion with ⟨hlength, -⟩ | ⟨hlength, -⟩ <;>
        simp [← List.length_eq_zero_iff, String.length_toList, hlength]
    rw [Text.trim_of_solid fun c hc => (hplain c hc).1, base_of_no_mark fun c hc => (hplain c hc).2,
      htext, Text.words_append_separator (fun c hc => (h.language_plain hc).2.1) (by decide),
      Text.words_of_no_separator fun c hc => (h.region_plain hregion hc).2.1, hlanguage, hr]
    rfl

theorem ofChars?_text : ofChars? t.text.toList = some t := by
  have hfind : ((t.region.map String.toList).toList.find? LocaleTag.isRegion).map
      (fun r => String.ofList (r.map Char.toUpper)) = t.region := by
    cases hregion : t.region with
    | none => rfl
    | some r =>
      rw [Option.map_some, Option.toList_some, List.find?_cons_of_pos (h.isRegion hregion),
        Option.map_some, h.map_toUpper hregion]
  rw [ofChars?_eq, h.words_text, ofSubtags?, if_pos h.isLanguage, h.map_toLower, hfind]

end IsNormal

/-- What is read off a text is in normal form and read off its own text again. All spellings of a
text give the same tag or none at all, and so the same pattern of long dates and the same names of
months. -/
theorem ofChars?_normal_form (cs : List Char) :
    (∀ t, ofChars? cs = some t → t.IsNormal ∧ ofChars? t.text.toList = some t) ∧
      (Text.trim cs = cs → ∀ ds, Spells cs ds → ofChars? ds = ofChars? cs ∧
        (ofChars? ds).map longDatePattern = (ofChars? cs).map longDatePattern ∧
        (ofChars? ds).map monthNames = (ofChars? cs).map monthNames) := by
  refine ⟨fun t ht => ?_, fun htrim ds hds => ?_⟩
  · rw [ofChars?_eq] at ht
    have hnormal := isNormal_of_ofSubtags? ht
    exact ⟨hnormal, hnormal.ofChars?_text⟩
  · have hsame := ofChars?_of_spells htrim hds
    exact ⟨hsame, by rw [hsame], by rw [hsame]⟩

theorem ofChars?_german :
    ofChars? " _DE--de.UTF-8@euro ".toList = some ⟨"de", some "DE"⟩ ∧
      ofChars? "de-DE".toList = some ⟨"de", some "DE"⟩ := by
  have hrewrites : Rewrites ['d', 'e', '_', 'D', 'E'] ('D' :: 'E' :: (['-', '-'] ++ ['d', 'e'])) :=
    .char rfl (.char rfl (.separator rfl (by decide) (List.all_eq_true.mp rfl)
      (.char rfl (.char rfl .nil))))
  have hspells : Spells ['d', 'e', '_', 'D', 'E']
      ([' '] ++ (['_'] ++ 'D' :: 'E' :: (['-', '-'] ++ ['d', 'e']) ++ ".UTF-8@euro".toList) ++
        [' ']) :=
    .intro (List.all_eq_true.mp rfl) (List.all_eq_true.mp rfl) hrewrites (by rintro c ⟨⟩; rfl)
      (List.all_eq_true.mp rfl)
  have htag : ofChars? ['d', 'e', '_', 'D', 'E'] = some ⟨"de", some "DE"⟩ := by decide
  obtain ⟨hnormal, hspelled⟩ := ofChars?_normal_form ['d', 'e', '_', 'D', 'E']
  exact ⟨(hspelled (by decide) _ hspells).1.trans htag, (hnormal _ htag).2⟩

end TimeMarkup.LocaleTag
