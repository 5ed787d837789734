import TimeMarkup.Text.Numeral
/-!
Character references such as `&amp;` and `&#8212;`. Decoding replaces each reference that names a
character and leaves every other ampersand alone; escaping writes the characters of markup as
references.
-/

namespace TimeMarkup.Markup

def referenceNames : List (String × Char) :=
  [("amp", '&'), ("lt", '<'), ("gt", '>'), ("quot", '"'), ("apos", '\x27'), ("nbsp", '\u00A0')]

def charOfCode? (n : Nat) : Option Char :=
  if n.isValidChar then some (Char.ofNat n) else none

/-- The character that is named between an ampersand and a semicolon. -/
def referent? : List Char → Option Char
  | '#' :: 'x' :: ds => (Text.unsigned? 16 ds).bind charOfCode?
  | '#' :: 'X' :: ds => (Text.unsigned? 16 ds).bind charOfCode?
  | '#' :: ds => (Text.unsigned? 10 ds).bind charOfCode?
  | name => (referenceNames.find? fun r => r.1.toList = name).map (·.2)

/-- Takes a reference after its ampersand; a name has at most nine characters. -/
def reference? (cs : List Char) : Option (Char × List Char) :=
  let name := (cs.take 9).takeWhile (· != ';')
  match cs.drop name.length with
  | ';' :: rest => (referent? name).map (·, rest)
  | _ => none

theorem reference?_length {cs rest : List Char} {c : Char} (h : reference? cs = some (c, rest)) :
    rest.length < cs.length := by
  simp only [reference?] at h
  split at h
  · rename_i r hd
    have hl := congrArg List.length hd
    simp only [List.length_drop, List.length_cons] at hl
    simp only [Option.map_eq_some_iff, Prod.mk.injEq] at h
    obtain ⟨_, _, _, rfl⟩ := h
    omega
  · simp at h

def decode : List Char → List Char
  | [] => []
  | c :: cs =>
    if c = '&' then
      match _h : reference? cs with
      | some (d, rest) => d :: decode rest
      | none => '&' :: decode cs
    else c :: decode cs
termination_by cs => cs.length
decreasing_by
  all_goals simp only [List.length_cons]
  · have := reference?_length _h
    omega
  · omega
  · omega

def escapeChar : Char → List Char
  | '&' => "&amp;".toList
  | '<' => "&lt;".toList
  | '>' => "&gt;".toList
  | c => [c]

def escape (cs : List Char) : List Char :=
  cs.flatMap escapeChar

@[simp] theorem decode_nil : decode [] = [] := by
  simp [decode]

@[simp] theorem escape_nil : escape [] = [] := rfl

@[simp] theorem escape_append (cs ds : List Char) : escape (cs ++ ds) = escape cs ++ escape ds := by
  simp [escape]

theorem decode_cons_of_ne {c : Char} (h : c ≠ '&') (cs : List Char) :
    decode (c :: cs) = c :: decode cs := by
  rw [decode]
  simp [h]

theorem decode_of_not_mem {cs : List Char} (h : '&' ∉ cs) : decode cs = cs := by
  induction cs with
  | nil => simp
  | cons c cs ih =>
    simp only [List.mem_cons, not_or] at h
    rw [decode_cons_of_ne (Ne.symm h.1), ih h.2]

end TimeMarkup.Markup
