import TimeMarkup.Proofs.Markup.Encodings
import TimeMarkup.Text.Bytes

/-!
# What decoding takes for a reference

Decoding takes names of the table and numbers, the latter also with a plus sign in front of their
digits, between an ampersand and a semicolon at most ten bytes behind it. All else stays as it is,
so that a text can be decoded in parts as long as no reference reaches from one part to the next.
-/

namespace TimeMarkup
namespace Markup

/-- What stands for a character between the ampersand and the semicolon. -/
inductive Refers (c : Char) : List Char → Prop
  | named {name : String} (h : (name, c) ∈ referenceNames) : Refers c name.toList
  | number {base : Nat} {mark sign digits : List Char} (hmark : (base, mark) ∈ numberMarks)
      (hsign : sign = [] ∨ sign = ['+']) (hdigits : Text.digits? base digits = some c.toNat) :
      Refers c ('#' :: (mark ++ (sign ++ digits)))

theorem eq_toNat_of_charOfCode? {n : Nat} {c : Char} (h : charOfCode? n = some c) :
    n = c.toNat := by
  rw [charOfCode?, Option.ite_none_right_eq_some, Option.some.injEq] at h
  obtain ⟨hvalid, rfl⟩ := h
  rw [Char.ofNat, dif_pos hvalid]
  rfl

theorem Refers.of_unsigned? {base : Nat} (mark : List Char) {cs : List Char} {c : Char}
    (hmark : (base, mark) ∈ numberMarks) (h : (Text.unsigned? base cs).bind charOfCode? = some c) :
    Refers c ('#' :: (mark ++ cs)) := by
  obtain ⟨n, hn, hc⟩ := Option.bind_eq_some_iff.mp h
  obtain ⟨sign, ds, hsign, hds, rfl⟩ := Text.unsigned?_eq_some_iff.mp hn
  exact .number hmark hsign (hds.trans (congrArg some (eq_toNat_of_charOfCode? hc)))

theorem referent?_eq_some_iff {c : Char} {name : List Char} :
    referent? name = some c ↔ Refers c name := by
  constructor
  · intro h
    unfold referent? at h
    split at h
    · exact Refers.of_unsigned? ['x'] (by decide) h
    · exact Refers.of_unsigned? ['X'] (by decide) h
    · exact Refers.of_unsigned? [] (by decide) h
    · obtain ⟨r, hr, rfl⟩ := Option.map_eq_some_iff.mp h
      have hname : r.1.toList = name := by simpa using List.find?_some hr
      subst hname
      exact .named (List.mem_of_find?_eq_some hr)
  · intro h
    cases h with
    | @named name h =>
      have hall : ∀ r ∈ referenceNames, referent? r.1.toList = some r.2 := by decide
      exact hall _ h
    | number hmark hsign hdigits =>
      have hnumber := Text.unsigned?_eq_some_iff.mpr ⟨_, _, hsign, hdigits, rfl⟩
      exact (referent?_number hmark hnumber).trans (charOfCode?_toNat c)

theorem Refers.of_mem {c d : Char} {name : List Char} (h : Refers c name) (hd : d ∈ name) :
    d ≠ '&' ∧ d ≠ ';' ∧ d.toNat < 128 := by
  cases h with
  | @named name h =>
    have hall : ∀ r ∈ referenceNames, r.1.toList.all fun d => d ≠ '&' ∧ d ≠ ';' ∧ d.toNat < 128 :=
      by decide
    exact of_decide_eq_true (List.all_eq_true.mp (hall _ h) d hd)
  | @number base mark sign digits hmark hsign hdigits =>
    have hmarks : ∀ m ∈ numberMarks, m.2.all fun d => d ≠ '&' ∧ d ≠ ';' ∧ d.toNat < 128 := by decide
    rcases List.mem_cons.mp hd with rfl | hd
    · decide
    rcases List.mem_append.mp hd with hd | hd
    · exact of_decide_eq_true (List.all_eq_true.mp (hmarks _ hmark) d hd)
    rcases List.mem_append.mp hd with hd | hd
    · rcases hsign with rfl | rfl
      · cases hd
      · rw [List.mem_singleton.mp hd]
        decide
    · have hmark := mt Text.digitValue?_eq_none (Text.digitValue?_ne_none hdigits d hd)
      simp only [List.mem_cons, List.not_mem_nil, or_false, not_or, Nat.not_le] at hmark
      exact ⟨hmark.1.2.1, hmark.1.2.2, hmark.2⟩

theorem Refers.ampersand_not_mem {c : Char} {name : List Char} (h : Refers c name) : '&' ∉ name :=
  fun hd => (h.of_mem hd).1 rfl

theorem Refers.semicolon_not_mem {c : Char} {name : List Char} (h : Refers c name) : ';' ∉ name :=
  fun hd => (h.of_mem hd).2.1 rfl

/-- Names of references have one byte for each character. -/
theorem Refers.byteLength_eq {c : Char} {name : List Char} (h : Refers c name) :
    Text.byteLength name = name.length := by
  have hone : ∀ d ∈ name, d.utf8Size = 1 := by
    intro d hd
    have hlt := (h.of_mem hd).2.2
    exact Char.utf8Size_eq_one_iff.mpr (UInt32.le_iff_toNat_le.mpr (Nat.le_of_lt_succ hlt))
  clear h
  induction name with
  | nil => rfl
  | cons d ds ih =>
    obtain ⟨hd, hds⟩ := List.forall_mem_cons.mp hone
    rw [Text.byteLength_cons, hd, ih hds, List.length_cons, Nat.add_comm]

theorem reference?_eq_some_iff {cs rest : List Char} {c : Char} :
    reference? cs = some (c, rest) ↔
      ∃ name, Refers c name ∧ Text.byteLength name ≤ 9 ∧ cs = name ++ ';' :: rest := by
  constructor
  · intro h
    have hfront : (cs.take 9).takeWhile (· != ';') <+: cs :=
      (List.takeWhile_prefix _).trans (List.take_prefix 9 cs)
    have hlength : ((cs.take 9).takeWhile (· != ';')).length ≤ 9 :=
      Nat.le_trans (List.takeWhile_prefix _).length_le (List.length_take_le 9 cs)
    have hsplit := List.prefix_iff_eq_append.mp hfront
    simp only [reference?] at h
    generalize (cs.take 9).takeWhile (· != ';') = name at h hlength hsplit
    split at h
    · rename_i rest' hrest
      simp only [Option.map_eq_some_iff, Prod.mk.injEq] at h
      obtain ⟨d, hd, rfl, rfl⟩ := h
      rw [hrest] at hsplit
      have hname := referent?_eq_some_iff.mp hd
      exact ⟨name, hname, hname.byteLength_eq ▸ hlength, hsplit.symm⟩
    · cases h
  · rintro ⟨name, hname, hlength, rfl⟩
    rw [hname.byteLength_eq] at hlength
    rw [reference?_append hlength hname.semicolon_not_mem, referent?_eq_some_iff.mpr hname]
    rfl

/-- A reference that decoding takes, from its ampersand to its semicolon. -/
def IsRead (r : List Char) : Prop :=
  ∃ c name, Refers c name ∧ Text.byteLength name ≤ 9 ∧ r = '&' :: (name ++ [';'])

theorem reference?_eq_none_iff {cs : List Char} :
    reference? cs = none ↔ ∀ r, IsRead r → ¬ r <+: '&' :: cs := by
  constructor
  · rintro h _ ⟨c, name, hname, hlength, rfl⟩ ⟨rest, hrest⟩
    have hcs : cs = name ++ ';' :: rest := by simpa using (List.cons.inj hrest).2.symm
    rw [reference?_eq_some_iff.mpr ⟨name, hname, hlength, hcs⟩] at h
    cases h
  · intro h
    cases hread : reference? cs with
    | none => rfl
    | some p =>
      obtain ⟨name, hname, hlength, rfl⟩ := reference?_eq_some_iff.mp hread
      exact absurd ⟨p.2, by simp⟩ (h _ ⟨p.1, name, hname, hlength, rfl⟩)

theorem decode_of_reference {c : Char} {name : List Char} (h : Refers c name)
    (hlength : Text.byteLength name ≤ 9) (rest : List Char) :
    decode ('&' :: (name ++ ';' :: rest)) = c :: decode rest := by
  rw [h.byteLength_eq] at hlength
  have hread :=
    decode_reference_append hlength h.semicolon_not_mem (referent?_eq_some_iff.mpr h) rest
  simpa using hread

theorem decode_of_not_reference {cs : List Char} (h : reference? cs = none) :
    decode ('&' :: cs) = '&' :: decode cs := by
  rw [decode, if_pos rfl]
  split
  · rename_i hread
    rw [h] at hread
    cases hread
  · rfl

theorem decode_append_of_not_mem {as : List Char} (h : '&' ∉ as) (bs : List Char) :
    decode (as ++ bs) = as ++ decode bs := by
  induction as with
  | nil => rfl
  | cons a as ih =>
    rw [List.mem_cons, not_or] at h
    rw [List.cons_append, decode_cons_of_ne (Ne.symm h.1), ih h.2, List.cons_append]

/-- A reference that decoding takes starts in the first text and ends in the second one. -/
def Straddles (before after : List Char) : Prop :=
  ∃ front back, IsRead (front ++ back) ∧ front ≠ [] ∧ back ≠ [] ∧ front <:+ before ∧ back <+: after

theorem Straddles.of_suffix {before before' after : List Char} (h : Straddles before after)
    (hsuffix : before <:+ before') :
    Straddles before' after := by
  obtain ⟨front, back, hread, hfront, hback, hbefore, hafter⟩ := h
  exact ⟨front, back, hread, hfront, hback, hbefore.trans hsuffix, hafter⟩

/-- A reference from one text to the next, with its name in two parts. -/
theorem Straddles.exists_name {before after : List Char} (h : Straddles before after) :
    ∃ c start x y rest, Refers c (x ++ y) ∧ Text.byteLength (x ++ y) ≤ 9 ∧
      before = start ++ '&' :: x ∧ after = y ++ ';' :: rest := by
  obtain ⟨front, back, ⟨c, name, hname, hlength, hr⟩, hfront, hback, ⟨start, rfl⟩, ⟨rest, rfl⟩⟩ := h
  obtain ⟨a, x, rfl⟩ := List.exists_cons_of_ne_nil hfront
  obtain ⟨y, z, rfl⟩ : ∃ y z, back = y ++ [z] := ⟨_, _, (List.dropLast_concat_getLast hback).symm⟩
  obtain ⟨rfl, hname'⟩ := List.cons.inj hr
  have hparts : (x ++ y) ++ [z] = name ++ [';'] := (List.append_assoc x y [z]).trans hname'
  obtain ⟨rfl, hz⟩ := List.append_inj' hparts rfl
  obtain rfl : z = ';' := (List.cons.inj hz).1
  exact ⟨c, start, x, y, rest, hname, hlength, rfl, by simp⟩

theorem reference?_append_of_not_straddles {cs after : List Char} (h : reference? cs = none)
    (hapart : ¬ Straddles ('&' :: cs) after) : reference? (cs ++ after) = none := by
  cases hread : reference? (cs ++ after) with
  | none => rfl
  | some p =>
    obtain ⟨name, hname, hlength, heq⟩ := reference?_eq_some_iff.mp hread
    rw [← List.singleton_append, ← List.append_assoc] at heq
    rcases List.append_eq_append_iff.mp heq with ⟨back, hback, rfl⟩ | ⟨rest, rfl, -⟩
    · by_cases hnil : back = []
      · subst hnil
        rw [List.append_nil] at hback
        rw [reference?_eq_some_iff.mpr ⟨name, hname, hlength, hback.symm⟩] at h
        cases h
      · refine absurd ⟨'&' :: cs, back, ?_, List.cons_ne_nil _ _, hnil, List.suffix_refl _,
          List.prefix_append _ _⟩ hapart
        exact ⟨p.1, name, hname, hlength, by rw [hback]; rfl⟩
    · rw [reference?_eq_some_iff.mpr ⟨name, hname, hlength, List.append_assoc name [';'] rest⟩] at h
      cases h

/-- A text can be cut anywhere but within a reference. -/
theorem decode_append_of_not_straddles {before after : List Char} (h : ¬ Straddles before after) :
    decode (before ++ after) = decode before ++ decode after := by
  fun_induction decode before with
  | case1 => rfl
  | case2 cs d rest hread ih =>
    obtain ⟨name, hname, hlength, rfl⟩ := reference?_eq_some_iff.mp hread
    have hsuffix : rest <:+ '&' :: (name ++ ';' :: rest) := ⟨'&' :: (name ++ [';']), by simp⟩
    have hrest := ih fun hrest => h (hrest.of_suffix hsuffix)
    rw [List.cons_append, List.append_assoc, List.cons_append, decode_of_reference hname hlength,
      hrest]
    rfl
  | case3 cs hread ih =>
    have hrest := ih fun hrest => h (hrest.of_suffix (List.suffix_cons _ _))
    rw [List.cons_append, decode_of_not_reference (reference?_append_of_not_straddles hread h),
      hrest]
    rfl
  | case4 c cs hc ih =>
    have hrest := ih fun hrest => h (hrest.of_suffix (List.suffix_cons _ _))
    rw [List.cons_append, decode_cons_of_ne hc, hrest]
    rfl

theorem not_straddles_ampersand (before after : List Char) : ¬ Straddles before ('&' :: after) := by
  intro h
  obtain ⟨c, start, x, y, rest, hname, -, -, hy⟩ := h.exists_name
  cases y with
  | nil => cases hy
  | cons d y =>
    obtain ⟨rfl, -⟩ := List.cons.inj hy
    exact hname.ampersand_not_mem (List.mem_append_right x List.mem_cons_self)

/-- A text can always be cut in front of an ampersand. -/
theorem decode_append_ampersand (before after : List Char) :
    decode (before ++ '&' :: after) = decode before ++ decode ('&' :: after) :=
  decode_append_of_not_straddles (not_straddles_ampersand before after)

theorem length_decode_le (cs : List Char) : (decode cs).length ≤ cs.length := by
  fun_induction decode cs with
  | case1 => exact Nat.le_refl _
  | case2 cs d rest hread ih =>
    have hrest := reference?_length hread
    simp only [List.length_cons]
    omega
  | case3 cs hread ih => exact Nat.succ_le_succ ih
  | case4 c cs hc ih => exact Nat.succ_le_succ ih

theorem decode_eq_nil_iff {cs : List Char} : decode cs = [] ↔ cs = [] := by
  fun_cases decode cs with
  | case1 => simp
  | case2 cs d rest hread => simp
  | case3 cs hread => simp
  | case4 c cs hc => simp

/-- A reference is longer than the character that it stands for. -/
theorem length_decode_of_straddles {before after : List Char} (h : Straddles before after) :
    (decode (before ++ after)).length < (decode before ++ decode after).length := by
  obtain ⟨c, start, x, y, rest, hname, hlength, rfl, rfl⟩ := h.exists_name
  have hx : '&' ∉ x := fun hd => hname.ampersand_not_mem (List.mem_append_left y hd)
  have hx' : ';' ∉ x := fun hd => hname.semicolon_not_mem (List.mem_append_left y hd)
  have hy : '&' ∉ y := fun hd => hname.ampersand_not_mem (List.mem_append_right x hd)
  have hbefore : decode ('&' :: x) = '&' :: x := by
    have hnone : reference? x = none := by
      cases hread : reference? x with
      | none => rfl
      | some p =>
        obtain ⟨name, -, -, rfl⟩ := reference?_eq_some_iff.mp hread
        exact absurd (List.mem_append_right name List.mem_cons_self) hx'
    rw [decode_of_not_reference hnone, decode_of_not_mem hx]
  have hafter : decode (y ++ ';' :: rest) = y ++ ';' :: decode rest := by
    rw [decode_append_of_not_mem hy, decode_cons_of_ne (by decide)]
  have hwhole : decode ('&' :: (x ++ (y ++ ';' :: rest))) = c :: decode rest := by
    rw [← List.append_assoc, decode_of_reference hname hlength]
  have happ : start ++ '&' :: x ++ (y ++ ';' :: rest) = start ++ '&' :: (x ++ (y ++ ';' :: rest)) :=
    by simp
  rw [happ, decode_append_ampersand, decode_append_ampersand, hbefore, hafter, hwhole]
  simp only [List.length_append, List.length_cons]
  omega

theorem length_decode_append_le (before after : List Char) :
    (decode (before ++ after)).length ≤ (decode before ++ decode after).length := by
  by_cases h : Straddles before after
  · exact Nat.le_of_lt (length_decode_of_straddles h)
  · rw [decode_append_of_not_straddles h]

section Parts
variable {α : Type} (text : α → List Char)

theorem length_decode_flatMap_le (parts : List α) :
    (decode (parts.flatMap text)).length ≤ (parts.flatMap fun p => decode (text p)).length := by
  induction parts with
  | nil => simp
  | cons p ps ih =>
    have happ := length_decode_append_le (text p) (ps.flatMap text)
    simp only [List.flatMap_cons, List.length_append] at happ ih ⊢
    omega

/-- No reference reaches from the parts before a place to those behind it. -/
def Unjoined (parts : List α) : Prop :=
  ∀ ps qs, parts = ps ++ qs → ¬ Straddles (ps.flatMap text) (qs.flatMap text)

/-- A text is decoded part by part just if no reference reaches from one part to the next. -/
theorem decode_flatMap_eq_iff {parts : List α} :
    decode (parts.flatMap text) = parts.flatMap (fun p => decode (text p)) ↔
      Unjoined text parts := by
  constructor
  · rintro h ps qs rfl hstraddles
    -- The parts on either side can only get shorter, and the reference between them gets shorter
    -- still.
    have hlength := congrArg List.length h
    have hbefore := length_decode_flatMap_le text ps
    have hafter := length_decode_flatMap_le text qs
    have hshorter := length_decode_of_straddles hstraddles
    simp only [List.flatMap_append, List.length_append] at hlength hshorter
    omega
  · intro h
    induction parts with
    | nil => exact decode_nil
    | cons p ps ih =>
      have hapart : ¬ Straddles (text p) (ps.flatMap text) := by
        have hfirst := h [p] ps rfl
        rwa [List.flatMap_singleton] at hfirst
      have hrest : Unjoined text ps := fun qs rs heq hstraddles =>
        h (p :: qs) rs (congrArg (p :: ·) heq) (hstraddles.of_suffix (List.suffix_append _ _))
      rw [List.flatMap_cons, decode_append_of_not_straddles hapart, ih hrest, List.flatMap_cons]

end Parts

/-- Only references change. -/
theorem decode_eq_self_iff {text : List Char} :
    decode text = text ↔ ∀ r, IsRead r → ¬ r <:+: text := by
  constructor
  · rintro h _ ⟨c, name, hname, hlength, rfl⟩ ⟨before, after, hwithin⟩
    have htext : text = before ++ '&' :: (name ++ ';' :: after) := by simp [← hwithin]
    have hlen := congrArg List.length h
    have hbefore := length_decode_le before
    have hafter := length_decode_le after
    rw [htext, decode_append_ampersand, decode_of_reference hname hlength] at hlen
    simp only [List.length_append, List.length_cons] at hlen
    omega
  · intro h
    fun_induction decode text with
    | case1 => rfl
    | case2 cs d rest hread ih =>
      obtain ⟨name, hname, hlength, rfl⟩ := reference?_eq_some_iff.mp hread
      exact absurd ⟨[], rest, by simp⟩ (h _ ⟨d, name, hname, hlength, rfl⟩)
    | case3 cs hread ih =>
      rw [ih fun r hr hwithin => h r hr (hwithin.trans (List.suffix_cons _ _).isInfix)]
    | case4 c cs hc ih =>
      rw [ih fun r hr hwithin => h r hr (hwithin.trans (List.suffix_cons _ _).isInfix)]

/-- An ampersand stays unless a reference starts there. -/
theorem decode_ampersand_eq_iff {before after : List Char} :
    decode (before ++ '&' :: after) = decode before ++ '&' :: decode after ↔
      ∀ r, IsRead r → ¬ r <+: '&' :: after := by
  rw [decode_append_ampersand, List.append_cancel_left_eq]
  constructor
  · rintro h _ ⟨c, name, hname, hlength, rfl⟩ ⟨rest, hrest⟩
    have hafter : after = name ++ ';' :: rest := by simpa using (List.cons.inj hrest).2.symm
    have hlen := congrArg List.length h
    rw [hafter, decode_of_reference hname hlength, decode_append_of_not_mem hname.ampersand_not_mem,
      decode_cons_of_ne (by decide)] at hlen
    simp only [List.length_append, List.length_cons] at hlen
    omega
  · exact fun h => decode_of_not_reference (reference?_eq_none_iff.mpr h)

/-- The references of markup: six names, and numbers in decimal or hexadecimal digits. -/
inductive IsReference : List Char → Prop
  | named {name : String} (h : name ∈ ["amp", "lt", "gt", "quot", "apos", "nbsp"]) :
      IsReference ('&' :: (name.toList ++ [';']))
  | decimal {digits : List Char} (hne : digits ≠ []) (h : ∀ d ∈ digits, d ∈ "0123456789".toList) :
      IsReference ('&' :: '#' :: (digits ++ [';']))
  | hexadecimal {mark : Char} {digits : List Char} (hmark : mark = 'x' ∨ mark = 'X')
      (hne : digits ≠ []) (h : ∀ d ∈ digits, d ∈ "0123456789abcdefABCDEF".toList) :
      IsReference ('&' :: '#' :: mark :: (digits ++ [';']))

/-- How a reference can start, up to the first digit of a number. -/
def referenceStarts : List (List Char) :=
  (["amp", "lt", "gt", "quot", "apos", "nbsp"].map fun name => '&' :: (name.toList ++ [';'])) ++
    ("0123456789".toList.map fun d => ['&', '#', d]) ++
    ['x', 'X'].flatMap fun mark => "0123456789abcdefABCDEF".toList.map fun d => ['&', '#', mark, d]

theorem IsReference.exists_start {r : List Char} (h : IsReference r) :
    ∃ start ∈ referenceStarts, start <+: r := by
  cases h with
  | named h =>
    exact ⟨_, List.mem_append_left _ (List.mem_append_left _ (List.mem_map_of_mem h)),
      List.prefix_refl _⟩
  | decimal hne h =>
    obtain ⟨d, ds, rfl⟩ := List.exists_cons_of_ne_nil hne
    have hd := List.mem_map_of_mem (f := fun d => ['&', '#', d]) (h d List.mem_cons_self)
    exact ⟨_, List.mem_append_left _ (List.mem_append_right _ hd), ds ++ [';'], rfl⟩
  | @hexadecimal mark digits hmark hne h =>
    obtain ⟨d, ds, rfl⟩ := List.exists_cons_of_ne_nil hne
    have hd := List.mem_map_of_mem (f := fun d => ['&', '#', mark, d]) (h d List.mem_cons_self)
    have hmem : mark ∈ ['x', 'X'] := by simpa using hmark
    exact ⟨_, List.mem_append_right _ (List.mem_flatMap.mpr ⟨mark, hmem, hd⟩), ds ++ [';'], rfl⟩

theorem not_infix_of_starts {text : List Char} (h : ∀ start ∈ referenceStarts, ¬ start <:+: text)
    {r : List Char} (hr : IsReference r) : ¬ r <:+: text := by
  obtain ⟨start, hstart, hfront⟩ := hr.exists_start
  exact fun hwithin => h start hstart (hfront.isInfix.trans hwithin)

/-- A number that decoding takes although it has a plus sign. -/
def IsSigned (r : List Char) : Prop :=
  IsRead r ∧ '+' ∈ r

theorem IsRead.isReference {r : List Char} (h : IsRead r) (hplus : '+' ∉ r) : IsReference r := by
  obtain ⟨c, name, hname, -, rfl⟩ := h
  cases hname with
  | @named name h =>
    have hall : ∀ p ∈ referenceNames, p.1 ∈ ["amp", "lt", "gt", "quot", "apos", "nbsp"] := by decide
    exact .named (hall _ h)
  | @number base mark sign digits hmark hsign hdigits =>
    have hne : digits ≠ [] := by
      rintro rfl
      cases hdigits
    have hvalue := Text.digitValue?_ne_none hdigits
    obtain rfl : sign = [] := by
      rcases hsign with rfl | rfl
      · rfl
      · simp at hplus
    simp only [numberMarks, List.mem_cons, Prod.mk.injEq, List.not_mem_nil, or_false] at hmark
    rcases hmark with ⟨rfl, rfl⟩ | ⟨rfl, rfl⟩ | ⟨rfl, rfl⟩
    · exact .decimal hne fun d hd => Text.mem_decimalDigits (hvalue d hd)
    · exact .hexadecimal (.inl rfl) hne fun d hd => Text.mem_hexadecimalDigits (hvalue d hd)
    · exact .hexadecimal (.inr rfl) hne fun d hd => Text.mem_hexadecimalDigits (hvalue d hd)

/-- Decoding changes nothing but references, save for signed numbers: a text without references is
changed just if a signed number occurs in it, and an ampersand at which no reference starts stays,
between what becomes of the two sides, unless a signed number starts there. -/
theorem decode_changes_only_references (text before after : List Char) :
    ((∀ r, IsReference r → ¬ r <:+: text) → (decode text = text ↔
      ∀ r, IsSigned r → ¬ r <:+: text)) ∧ ((∀ r, IsReference r → ¬ r <+: '&' :: after) →
        (decode (before ++ '&' :: after) = decode before ++ '&' :: decode after ↔
          ∀ r, IsSigned r → ¬ r <+: '&' :: after)) := by
  have hread {P : List Char → Prop} (h : ∀ r, IsReference r → P r) :
      (∀ r, IsRead r → P r) ↔ ∀ r, IsSigned r → P r := by
    constructor
    · exact fun hread r hr => hread r hr.1
    · intro hsigned r hr
      by_cases hplus : '+' ∈ r
      · exact hsigned r ⟨hr, hplus⟩
      · exact h r (hr.isReference hplus)
  constructor
  · intro h
    rw [decode_eq_self_iff, hread h]
  · intro h
    rw [decode_ampersand_eq_iff, hread h]

/-- Stray ampersands, semicolons and marks of numbers; then an ampersand that is followed by a name
and a reference. -/
theorem decode_changes_only_references_stray :
    let text := "AT&T; &lt &#x; &#+; &#-5;&".toList
    let before := "&lt;&".toList
    let after := "lt &gt;".toList
    (∀ r, IsReference r → ¬ r <:+: text) ∧ (decode text = text ↔ ∀ r, IsSigned r → ¬ r <:+: text) ∧
      (∀ r, IsReference r → ¬ r <+: '&' :: after) ∧
      (decode (before ++ '&' :: after) = decode before ++ '&' :: decode after ↔
      ∀ r, IsSigned r → ¬ r <+: '&' :: after) := by
  intro text before after
  have htext : ∀ r, IsReference r → ¬ r <:+: text := fun r => not_infix_of_starts (by decide)
  have hafter : ∀ r, IsReference r → ¬ r <+: '&' :: after := by
    rintro r hr hfront
    obtain ⟨start, hstart, hr⟩ := hr.exists_start
    have hnone : ∀ start ∈ referenceStarts, ¬ start <+: '&' :: after := by decide
    exact hnone start hstart (hr.trans hfront)
  have h := decode_changes_only_references text before after
  exact ⟨htext, h.1 htext, hafter, h.2 hafter⟩

/-- A plus sign is no part of the references of markup. -/
theorem decode_signed_number :
    let text := "&#+65;".toList
    (∀ r, IsReference r → ¬ r <:+: text) ∧ decode text = ['A'] :=
  ⟨fun _ => not_infix_of_starts (by decide), by decide +kernel⟩

end Markup
end TimeMarkup
