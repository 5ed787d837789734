import TimeMarkup.Text.Blank
/-!
Tags of markup. A reader takes a tag from the front of a text and gives back what follows it; names
are found in any case and kept as they are written, and quotes hide the end of a tag.
-/

namespace TimeMarkup.Markup

/-- An opening tag of a name and of what follows the name. -/
def openingTag (name body : List Char) : List Char :=
  '<' :: name ++ body ++ ['>']

/-- Whether a character is a small letter of a tag's name in some case; the long s counts as an
s. -/
def isLetter (letter c : Char) : Bool :=
  c.toLower == letter || (letter == 's' && c == '\u017F')

/-- Takes a tag's name in any case. -/
def tagName? : List Char → List Char → Option (List Char × List Char)
  | [], cs => some ([], cs)
  | _ :: _, [] => none
  | n :: ns, c :: cs =>
    if isLetter n c then (tagName? ns cs).map fun (taken, rest) => (c :: taken, rest) else none

def opensQuote (c : Char) : Option Char :=
  if c = '"' ∨ c = '\x27' then some c else none

/-- Takes the rest of a tag up to the angle bracket that closes it, and that bracket. A bracket
inside quotes does not close the tag; `quote` is the quotation mark that is open. -/
def tagBody? : Option Char → List Char → Option (List Char × List Char)
  | _, [] => none
  | none, c :: cs =>
    if c = '>' then some ([], cs)
    else (tagBody? (opensQuote c) cs).map fun (body, rest) => (c :: body, rest)
  | some q, c :: cs =>
    (tagBody? (if c = q then none else some q) cs).map fun (body, rest) => (c :: body, rest)

/-- Takes what follows the name of an opening tag: nothing, or a blank or slash and more, up to the
end of the tag. -/
def openingBody? : List Char → Option (List Char × List Char)
  | [] => none
  | c :: cs =>
    if c = '>' then some ([], cs)
    else if isBlank c || c == '/' then
      (tagBody? none cs).map fun (body, rest) => (c :: body, rest)
    else none

/-- Takes an opening tag; gives the name as it is written and what follows the name in the tag. -/
def openingTag? (name : List Char) : List Char → Option (List Char × List Char × List Char)
  | '<' :: cs =>
    (tagName? name cs).bind fun (taken, rest) =>
      (openingBody? rest).map fun (body, rest) => (taken, body, rest)
  | _ => none

/-- Takes a closing tag, which may have blanks before its end. -/
def closingTag? (name : List Char) : List Char → Option (List Char × List Char)
  | '<' :: '/' :: cs =>
    (tagName? name cs).bind fun (taken, rest) =>
      match rest.dropWhile isBlank with
      | '>' :: rest' => some ('<' :: '/' :: taken ++ rest.takeWhile isBlank ++ ['>'], rest')
      | _ => none
  | _ => none

/-- Takes everything up to the next closing tag, and that tag. -/
def upToClosing? (name : List Char) : List Char → Option (List Char × List Char × List Char)
  | [] => none
  | c :: cs =>
    match closingTag? name (c :: cs) with
    | some (tag, rest) => some ([], tag, rest)
    | none => (upToClosing? name cs).map fun (content, tag, rest) => (c :: content, tag, rest)

theorem tagName?_append {name cs taken rest : List Char}
    (h : tagName? name cs = some (taken, rest)) :
    taken ++ rest = cs := by
  fun_induction tagName? name cs generalizing taken rest with
  | case1 => simp_all
  | case2 => simp at h
  | case3 n ns c cs _ ih =>
    simp only [Option.map_eq_some_iff, Prod.exists, Prod.mk.injEq] at h
    obtain ⟨t, r, h, rfl, rfl⟩ := h
    rw [List.cons_append, ih h]
  | case4 => simp at h

theorem tagBody?_append {quote : Option Char} {cs body rest : List Char}
    (h : tagBody? quote cs = some (body, rest)) : body ++ '>' :: rest = cs := by
  fun_induction tagBody? quote cs generalizing body rest with
  | case1 => simp at h
  | case2 => simp_all
  | case3 c cs _ ih =>
    simp only [Option.map_eq_some_iff, Prod.exists, Prod.mk.injEq] at h
    obtain ⟨t, r, h, rfl, rfl⟩ := h
    rw [List.cons_append, ih h]
  | case4 q c cs ih =>
    simp only [Option.map_eq_some_iff, Prod.exists, Prod.mk.injEq] at h
    obtain ⟨t, r, h, rfl, rfl⟩ := h
    rw [List.cons_append, ih h]

theorem openingBody?_append {cs body rest : List Char} (h : openingBody? cs = some (body, rest)) :
    body ++ '>' :: rest = cs := by
  cases cs with
  | nil => simp [openingBody?] at h
  | cons c cs =>
    simp only [openingBody?] at h
    split at h
    · simp_all
    · split at h
      · simp only [Option.map_eq_some_iff, Prod.exists, Prod.mk.injEq] at h
        obtain ⟨t, r, h, rfl, rfl⟩ := h
        rw [List.cons_append, tagBody?_append h]
      · simp at h

theorem openingTag?_append {name cs taken body rest : List Char}
    (h : openingTag? name cs = some (taken, body, rest)) : openingTag taken body ++ rest = cs := by
  simp only [openingTag?] at h
  split at h
  · simp only [Option.bind_eq_some_iff, Option.map_eq_some_iff, Prod.exists, Prod.mk.injEq] at h
    obtain ⟨t, r, ht, b, r', hb, rfl, rfl, rfl⟩ := h
    simp [openingTag, ← tagName?_append ht, ← openingBody?_append hb]
  · simp at h

theorem closingTag?_append {name cs tag rest : List Char}
    (h : closingTag? name cs = some (tag, rest)) :
    tag ++ rest = cs := by
  simp only [closingTag?] at h
  split at h
  · simp only [Option.bind_eq_some_iff, Prod.exists] at h
    obtain ⟨t, r, ht, h⟩ := h
    split at h
    · rename_i r' hr
      simp only [Option.some.injEq, Prod.mk.injEq] at h
      obtain ⟨rfl, rfl⟩ := h
      have hb : r.takeWhile isBlank ++ '>' :: r' = r := by
        rw [← hr, List.takeWhile_append_dropWhile]
      rw [← tagName?_append ht]
      simp [hb]
    · simp at h
  · simp at h

theorem upToClosing?_append {name cs content tag rest : List Char}
    (h : upToClosing? name cs = some (content, tag, rest)) : content ++ tag ++ rest = cs := by
  fun_induction upToClosing? name cs generalizing content tag rest with
  | case1 => simp at h
  | case2 c cs tag' rest' hc =>
    simp only [Option.some.injEq, Prod.mk.injEq] at h
    obtain ⟨rfl, rfl, rfl⟩ := h
    simpa using closingTag?_append hc
  | case3 c cs _ ih =>
    simp only [Option.map_eq_some_iff, Prod.exists, Prod.mk.injEq] at h
    obtain ⟨x, t, r, h, rfl, rfl, rfl⟩ := h
    simp [← ih h]

end TimeMarkup.Markup
