import TimeMarkup.Proofs.Text.Digits
import TimeMarkup.Proofs.Text.Splitting
import TimeMarkup.Text.Quoted

/-!
# Quoted texts

Whatever a text holds, its quoted form has no control characters. The quoted form also tells where
it ends: no character is shown by something that another one starts with, and none by something that
starts with a double quote.
-/

namespace TimeMarkup.Text

/-- Controls, and the separators of lines and of paragraphs. -/
def IsControl (c : Char) : Prop :=
  c.toNat ≤ 0x1F ∨ (0x7F ≤ c.toNat ∧ c.toNat ≤ 0x9F) ∨ c.toNat = 0x2028 ∨ c.toNat = 0x2029

instance : DecidablePred IsControl := fun c =>
  inferInstanceAs (Decidable (c.toNat ≤ 0x1F ∨ (0x7F ≤ c.toNat ∧ c.toNat ≤ 0x9F) ∨
    c.toNat = 0x2028 ∨ c.toNat = 0x2029))

/-- A text without controls, which stays on its line. -/
def HasNoControl (cs : List Char) : Prop :=
  ∀ c ∈ cs, ¬ IsControl c

instance : DecidablePred HasNoControl := fun cs =>
  List.decidableBAll (fun c => ¬ IsControl c) cs

theorem HasNoControl.append {cs ds : List Char} (hcs : HasNoControl cs) (hds : HasNoControl ds) :
    HasNoControl (cs ++ ds) :=
  fun c hc => (List.mem_append.mp hc).elim (hcs c) (hds c)

theorem isHidden_of_isControl {c : Char} (h : IsControl c) : isHidden c = true := by
  have hrange (lo hi : Nat) (hmem : (lo, hi) ∈ hiddenRanges) (hlo : lo ≤ c.toNat)
      (hhi : c.toNat ≤ hi) : isHidden c = true := by
    rw [isHidden, List.any_eq_true]
    exact ⟨(lo, hi), hmem, by simp [hlo, hhi]⟩
  rcases h with h | h | h | h
  · exact hrange 0 0x1F (by decide +kernel) (Nat.zero_le _) h
  · exact hrange 0x7F 0xA0 (by decide +kernel) h.1 (by omega)
  · exact hrange 0x2028 0x202F (by decide +kernel) (by omega) (by omega)
  · exact hrange 0x2028 0x202F (by decide +kernel) (by omega) (by omega)

theorem digitValue?_of_isControl {base : Nat} {c : Char} (h : IsControl c) :
    digitValue? base c = none := by
  grind [digitValue?, IsControl]

theorem hasNoControl_toDigits {base : Nat} (hbase : 1 < base ∧ base ≤ 16) (n : Nat) :
    HasNoControl (Nat.toDigits base n) :=
  fun _ hc hcontrol => not_mem_toDigits hbase (digitValue?_of_isControl hcontrol) n hc

theorem hasNoControl_toString (n : Nat) : HasNoControl (toString n).toList := by
  rw [toList_toString]
  exact hasNoControl_toDigits (by decide) n

/-- Characters that are shown by a backslash and another character. -/
def escapes : List (Char × Char) :=
  [('"', '"'), ('\\', '\\'), ('\t', 't'), ('\r', 'r'), ('\n', 'n'), ('\x00', '0')]

section Escapes
variable {c d mark : Char}

theorem eq_of_escapes (hc : (c, mark) ∈ escapes) (hd : (d, mark) ∈ escapes) : c = d := by
  have hall : ∀ e ∈ escapes, ∀ f ∈ escapes, e.2 = f.2 → e.1 = f.1 := by decide
  exact hall _ hc _ hd rfl

/-- The mark of numbers is none of the marks of single characters. -/
theorem ne_u_of_escapes (h : (c, mark) ∈ escapes) : mark ≠ 'u' := by
  have hall : ∀ e ∈ escapes, e.2 ≠ 'u' := by decide
  exact hall _ h

theorem hasNoControl_of_escapes (h : (c, mark) ∈ escapes) : HasNoControl ['\\', mark] := by
  have hall : ∀ e ∈ escapes, HasNoControl ['\\', e.2] := by decide
  exact hall _ h

end Escapes

/-- The ways to show a character in a quoted text. -/
inductive Shows (c : Char) : List Char → Prop
  | itself (hmark : c ≠ '"' ∧ c ≠ '\\') (hshown : isHidden c = false) : Shows c [c]
  | escape {mark : Char} (h : (c, mark) ∈ escapes) : Shows c ['\\', mark]
  | number : Shows c ('\\' :: 'u' :: '{' :: (Nat.toDigits 16 c.toNat ++ ['}']))

theorem shows_quotedChar (c : Char) : Shows c (quotedChar c) := by
  unfold quotedChar
  split
  any_goals exact .escape (by decide)
  split
  · exact .number
  · rename_i hquote hbackslash _ _ _ _ hshown
    exact .itself ⟨hquote, hbackslash⟩ (by simpa using hshown)

namespace Shows
variable {c d : Char} {v w r s : List Char}

theorem hasNoControl (h : Shows c v) : HasNoControl v := by
  cases h with
  | itself _ hshown =>
    intro d hd hcontrol
    obtain rfl := List.mem_singleton.mp hd
    rw [isHidden_of_isControl hcontrol] at hshown
    cases hshown
  | escape h => exact hasNoControl_of_escapes h
  | number =>
    have hdigits := hasNoControl_toDigits (by decide : 1 < 16 ∧ 16 ≤ 16) c.toNat
    exact HasNoControl.append (by decide : HasNoControl ['\\', 'u', '{'])
      (hdigits.append (by decide))

/-- What shows a character does not start with a double quote. -/
theorem append_ne_quote (h : Shows c v) : v ++ r ≠ '"' :: s := by
  cases h with
  | itself hmark => exact fun heq => hmark.1 (List.cons.inj heq).1
  | escape => exact fun heq => absurd (List.cons.inj heq).1 (by decide)
  | number => exact fun heq => absurd (List.cons.inj heq).1 (by decide)

theorem ne_of_itself (hmark : c ≠ '"' ∧ c ≠ '\\') : c :: r ≠ '\\' :: s :=
  fun heq => hmark.2 (List.cons.inj heq).1

/-- What shows a character is not the beginning of what shows another. -/
theorem append_inj (hc : Shows c v) (hd : Shows d w) (h : v ++ r = w ++ s) : c = d ∧ r = s := by
  -- The first character tells what is shown as itself, the second one escapes from numbers; a
  -- number ends at the brace.
  cases hc with
  | itself hmark =>
    cases hd with
    | itself => exact List.cons.inj h
    | escape => exact absurd h (ne_of_itself hmark)
    | number => exact absurd h (ne_of_itself hmark)
  | escape hescape =>
    cases hd with
    | itself hmark' => exact absurd h.symm (ne_of_itself hmark')
    | escape hescape' =>
      obtain ⟨-, hrest⟩ := List.cons.inj h
      obtain ⟨rfl, rfl⟩ := List.cons.inj hrest
      exact ⟨eq_of_escapes hescape hescape', rfl⟩
    | number =>
      obtain ⟨-, hrest⟩ := List.cons.inj h
      exact absurd (List.cons.inj hrest).1 (ne_u_of_escapes hescape)
  | number =>
    cases hd with
    | itself hmark' => exact absurd h.symm (ne_of_itself hmark')
    | escape hescape' =>
      obtain ⟨-, hrest⟩ := List.cons.inj h
      exact absurd (List.cons.inj hrest).1.symm (ne_u_of_escapes hescape')
    | number =>
      have hbrace := @not_mem_toDigits 16 (by decide) '}' (by decide)
      simp only [List.cons_append, List.append_assoc, List.nil_append, List.cons.injEq, true_and]
        at h
      obtain ⟨hdigits, rfl⟩ := append_cons_inj h (hbrace c.toNat) (hbrace d.toNat)
      exact ⟨Char.toNat_inj.mp (toDigits_injective (by decide) hdigits), rfl⟩

end Shows

theorem hasNoControl_quoted (cs : List Char) : HasNoControl (quoted cs) := by
  have hquote : HasNoControl ['"'] := by decide
  have hcs : HasNoControl (cs.flatMap quotedChar) := by
    intro d hd
    obtain ⟨c, -, hd⟩ := List.mem_flatMap.mp hd
    exact (shows_quotedChar c).hasNoControl d hd
  exact (hquote.append hcs).append hquote

/-- A quoted text and what follows it can be told apart, and the text can be read off its quoted
form. -/
theorem quoted_append_inj {cs ds r s : List Char} (h : quoted cs ++ r = quoted ds ++ s) :
    cs = ds ∧ r = s := by
  simp only [quoted, List.cons_append, List.append_assoc, List.nil_append, List.cons.injEq,
    true_and] at h
  induction cs generalizing ds with
  | nil =>
    cases ds with
    | nil => exact ⟨rfl, (List.cons.inj h).2⟩
    | cons d ds =>
      rw [List.flatMap_cons, List.append_assoc] at h
      exact absurd h.symm (shows_quotedChar d).append_ne_quote
  | cons c cs ih =>
    rw [List.flatMap_cons, List.append_assoc] at h
    cases ds with
    | nil => exact absurd h (shows_quotedChar c).append_ne_quote
    | cons d ds =>
      rw [List.flatMap_cons, List.append_assoc] at h
      obtain ⟨rfl, hrest⟩ := (shows_quotedChar c).append_inj (shows_quotedChar d) h
      obtain ⟨rfl, rfl⟩ := ih hrest
      exact ⟨rfl, rfl⟩

end TimeMarkup.Text
