import TimeMarkup.Proofs.Markup.Escaping
import TimeMarkup.Proofs.Text.Digits

/-!
# Texts written with character references

A character can be written as itself, by its name or by its number, as long as an ampersand is not
written as itself. Decoding finds the characters again, whichever way is taken for each of them.
-/

namespace TimeMarkup
namespace Markup

/-- The ways to write a character. -/
inductive Spells (c : Char) : List Char → Prop
  | literal (h : c ≠ '&') : Spells c [c]
  | named {name : String} (h : (name, c) ∈ referenceNames) :
      Spells c ('&' :: (name.toList ++ [';']))
  | decimal : Spells c ('&' :: ('#' :: Nat.toDigits 10 c.toNat ++ [';']))
  | hexadecimal {mark : Char} {digits : List Char} (hmark : mark = 'x' ∨ mark = 'X')
      (hdigits : digits.map Char.toLower = Nat.toDigits 16 c.toNat) :
      Spells c ('&' :: ('#' :: mark :: digits ++ [';']))

/-- The ways to write a text, character by character. -/
inductive SpellsText : List Char → List Char → Prop
  | nil : SpellsText [] []
  | cons {c : Char} {cs written rest : List Char} (h : Spells c written)
      (hrest : SpellsText cs rest) :
      SpellsText (c :: cs) (written ++ rest)

/-- A text without ampersands can be written as itself. -/
theorem SpellsText.of_not_mem {text : List Char} (h : '&' ∉ text) : SpellsText text text := by
  induction text with
  | nil => exact .nil
  | cons c cs ih =>
    rw [List.mem_cons, not_or] at h
    exact .cons (.literal (Ne.symm h.1)) (ih h.2)

theorem charOfCode?_toNat (c : Char) : charOfCode? c.toNat = some c := by
  have hvalid : c.toNat.isValidChar := c.valid
  rw [charOfCode?, if_pos hvalid, Char.ofNat_toNat]

theorem toNat_lt (c : Char) : c.toNat < 1114112 := by
  rcases c.valid with h | h
  · exact Nat.lt_trans h (by decide)
  · exact h.2

theorem reference?_append {name : List Char} (hlength : name.length ≤ 9) (hlacks : ';' ∉ name)
    (rest : List Char) :
    reference? (name ++ ';' :: rest) = (referent? name).map (·, rest) := by
  have hall : ∀ d ∈ name, (d != ';') = true := by
    intro d hd
    rw [bne_iff_ne]
    rintro rfl
    exact hlacks hd
  have hname : ((name ++ ';' :: rest).take 9).takeWhile (· != ';') = name := by
    rw [List.take_append, List.take_of_length_le hlength, List.takeWhile_append_of_pos hall]
    cases h : 9 - name.length with
    | zero => simp
    | succ n => simp
  simp only [reference?, hname, List.drop_left]

/-- A reference is read whatever follows it. -/
theorem decode_reference_append {c : Char} {name : List Char} (hlength : name.length ≤ 9)
    (hlacks : ';' ∉ name) (h : referent? name = some c) (rest : List Char) :
    decode ('&' :: (name ++ [';']) ++ rest) = c :: decode rest := by
  have href : reference? (name ++ [';'] ++ rest) = some (c, rest) := by
    rw [List.append_assoc, List.singleton_append, reference?_append hlength hlacks, h]
    rfl
  exact decode_reference (name ++ [';']) href

theorem decode_number_append {c : Char} {body : List Char} (hlength : body.length ≤ 8)
    (hlacks : ';' ∉ body) (h : referent? ('#' :: body) = some c) (rest : List Char) :
    decode ('&' :: ('#' :: body ++ [';']) ++ rest) = c :: decode rest := by
  have hname : ('#' :: body).length ≤ 9 := Nat.succ_le_succ hlength
  refine decode_reference_append hname ?_ h rest
  rw [List.mem_cons, not_or]
  exact ⟨by decide, hlacks⟩

/-- The bases of numbers, each with the mark in front of its digits. -/
def numberMarks : List (Nat × List Char) :=
  [(10, []), (16, ['x']), (16, ['X'])]

theorem referent?_number {base n : Nat} {mark cs : List Char} (hmark : (base, mark) ∈ numberMarks)
    (h : Text.unsigned? base cs = some n) : referent? ('#' :: (mark ++ cs)) = charOfCode? n := by
  simp only [numberMarks, List.mem_cons, Prod.mk.injEq, List.not_mem_nil, or_false] at hmark
  rcases hmark with ⟨rfl, rfl⟩ | ⟨rfl, rfl⟩ | ⟨rfl, rfl⟩
  · -- A decimal digit is neither of the marks.
    unfold referent?
    split
    · rename_i heq
      obtain ⟨-, rfl⟩ := List.cons.inj heq
      cases h
    · rename_i heq
      obtain ⟨-, rfl⟩ := List.cons.inj heq
      cases h
    · rename_i heq
      obtain ⟨-, rfl⟩ := List.cons.inj heq
      exact congrArg (Option.bind · charOfCode?) h
    · rename_i hname
      exact absurd rfl (hname cs)
  · exact congrArg (Option.bind · charOfCode?) h
  · exact congrArg (Option.bind · charOfCode?) h

theorem referent?_decimal (c : Char) : referent? ('#' :: Nat.toDigits 10 c.toNat) = some c := by
  have hdigits := Text.digits?_toDigits (by decide : 1 < 10 ∧ 10 ≤ 16) c.toNat
  have hmark : (10, []) ∈ numberMarks := by decide
  exact (referent?_number hmark (Text.unsigned?_eq_digits? hdigits (by decide))).trans
    (charOfCode?_toNat c)

theorem referent?_hexadecimal {c mark : Char} {ds : List Char} (hmark : mark = 'x' ∨ mark = 'X')
    (h : ds.map Char.toLower = Nat.toDigits 16 c.toNat) :
    referent? ('#' :: mark :: ds) = some c := by
  have hnumber := Text.unsigned?_eq_digits? (Text.digits?_of_toLower h) (by decide)
  have hmark : (16, [mark]) ∈ numberMarks := by
    rcases hmark with rfl | rfl
    · decide
    · decide
  exact (referent?_number hmark hnumber).trans (charOfCode?_toNat c)

theorem Spells.decode_append {c : Char} {written : List Char} (h : Spells c written)
    (rest : List Char) :
    decode (written ++ rest) = c :: decode rest := by
  cases h with
  | literal h => exact decode_cons_of_ne h rest
  | @named name h =>
    have hall : ∀ r ∈ referenceNames, r.1.toList.length ≤ 9 ∧ ';' ∉ r.1.toList ∧
        referent? r.1.toList = some r.2 := by
      decide
    obtain ⟨hlength, hlacks, href⟩ := hall _ h
    exact decode_reference_append hlength hlacks href rest
  | decimal =>
    have hlt := toNat_lt c
    have hlength : (Nat.toDigits 10 c.toNat).length ≤ 7 :=
      (Nat.length_toDigits_le_iff (by decide) (by decide)).mpr (Nat.lt_trans hlt (by decide))
    have hlacks : ';' ∉ Nat.toDigits 10 c.toNat := Text.not_mem_toDigits (by decide) (by decide) _
    exact decode_number_append (by omega) hlacks (referent?_decimal c) rest
  | @hexadecimal mark digits hmark hdigits =>
    have hlt := toNat_lt c
    have hlength : (Nat.toDigits 16 c.toNat).length ≤ 6 :=
      (Nat.length_toDigits_le_iff (by decide) (by decide)).mpr (Nat.lt_trans hlt (by decide))
    rw [← hdigits, List.length_map] at hlength
    have hlacks : ';' ∉ mark :: digits := by
      rw [List.mem_cons, not_or]
      refine ⟨?_, fun h =>
        absurd (by decide) (Text.digitValue?_ne_none (Text.digits?_of_toLower hdigits) ';' h)⟩
      rintro rfl
      revert hmark
      decide
    exact decode_number_append (by rw [List.length_cons]; omega) hlacks
      (referent?_hexadecimal hmark hdigits) rest

theorem SpellsText.decode_eq {text written : List Char} (h : SpellsText text written) :
    decode written = text := by
  induction h with
  | nil => exact decode_nil
  | cons h _ ih => rw [h.decode_append, ih]

theorem spells_escapeChar (c : Char) : Spells c (escapeChar c) := by
  unfold escapeChar
  split
  · exact @Spells.named '&' "amp" (by decide)
  · exact @Spells.named '<' "lt" (by decide)
  · exact @Spells.named '>' "gt" (by decide)
  · rename_i hc _ _
    exact .literal hc

/-- Escaping is one of the ways to write a text. -/
theorem spellsText_escape (text : List Char) : SpellsText text (escape text) := by
  induction text with
  | nil => exact .nil
  | cons c cs ih => exact .cons (spells_escapeChar c) ih

/-- Decoding finds a text again in whichever way it is written, thus also when it is escaped. An
escaped text holds no bracket. -/
theorem decode_spellings (text : List Char) :
    (∀ written, SpellsText text written → decode written = text) ∧ SpellsText text (escape text) ∧
      decode (escape text) = text ∧ '<' ∉ escape text ∧ '>' ∉ escape text :=
  ⟨fun _ h => h.decode_eq, spellsText_escape text, decode_escape text, lt_not_mem_escape text,
    fun h => (mem_escape h (by decide)).2.2 rfl⟩

/-- All six names, and numbers of one to six digits, in front of characters that could be taken for
a part of them. -/
theorem decode_spellings_mixed :
    let text := ['&', 'a', '&', '<', '>', '"', '\x27', '\u00A0', ';', '\x00', '\u00AB', '#', '😀']
    let written := "&#38;a&amp;&lt;&gt;&quot;&apos;&nbsp;;&#0;&#XaB;#&#128512;".toList
    SpellsText text written ∧ decode written = text ∧ SpellsText text (escape text) ∧
      decode (escape text) = text ∧ '<' ∉ escape text ∧ '>' ∉ escape text := by
  intro text written
  have hspells : SpellsText text written :=
    .cons .decimal <| .cons (.literal (by decide)) <|
    .cons (@Spells.named '&' "amp" (by decide)) <| .cons (@Spells.named '<' "lt" (by decide)) <|
    .cons (@Spells.named '>' "gt" (by decide)) <| .cons (@Spells.named '"' "quot" (by decide)) <|
    .cons (@Spells.named '\x27' "apos" (by decide)) <|
    .cons (@Spells.named '\u00A0' "nbsp" (by decide)) <|
    .cons (.literal (by decide)) <| .cons .decimal <|
    .cons (@Spells.hexadecimal _ 'X' ['a', 'B'] (.inr rfl) (by decide)) <|
    .cons (.literal (by decide)) <| .cons .decimal .nil
  have hall := decode_spellings text
  exact ⟨hspells, hall.1 written hspells, hall.2⟩

end Markup
end TimeMarkup
