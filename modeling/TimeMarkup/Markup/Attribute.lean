import TimeMarkup.Markup.CharacterReference
import TimeMarkup.Text.Blank
/-!
Attributes of an opening tag. Names are kept in small letters and values with their character
references decoded; of two attributes with one name the first counts.
-/

namespace TimeMarkup.Markup

/-- A name and a value; an attribute that is written without a value has the empty one. -/
structure Attribute where
  name : List Char
  value : List Char
  deriving DecidableEq

namespace Attribute

def isNameChar (c : Char) : Bool :=
  !(isBlank c || c == '"' || c == '\x27' || c == '<' || c == '>' || c == '/' || c == '=')

def isValueChar (c : Char) : Bool :=
  !(isBlank c || c == '"' || c == '\x27' || c == '=' || c == '<' || c == '>' || c == '\x60')

/-- Takes the characters up to a mark, and the mark, if it is there. -/
def upTo? (mark : Char) (cs : List Char) : Option (List Char × List Char) :=
  match cs.dropWhile (· != mark) with
  | _ :: rest => some (cs.takeWhile (· != mark), rest)
  | [] => none

/-- Takes what follows the equals sign of an attribute. -/
def quotedOrBare? : List Char → Option (List Char × List Char)
  | '"' :: cs => upTo? '"' cs
  | '\x27' :: cs => upTo? '\x27' cs
  | cs =>
    match cs.takeWhile isValueChar with
    | [] => none
    | v => some (v, cs.dropWhile isValueChar)

/-- Takes an equals sign and a value, with blanks around the sign. -/
def value? (cs : List Char) : Option (List Char × List Char) :=
  match Text.trimLeft cs with
  | '=' :: rest => quotedOrBare? (Text.trimLeft rest)
  | _ => none

theorem upTo?_length {mark : Char} {cs v rest : List Char} (h : upTo? mark cs = some (v, rest)) :
    rest.length < cs.length := by
  simp only [upTo?] at h
  split at h
  · rename_i hd
    have := (List.dropWhile_sublist (l := cs) (· != mark)).length_le
    rw [hd, List.length_cons] at this
    simp only [Option.some.injEq, Prod.mk.injEq] at h
    rw [← h.2]
    omega
  · simp at h

theorem quotedOrBare?_length {cs v rest : List Char} (h : quotedOrBare? cs = some (v, rest)) :
    rest.length ≤ cs.length := by
  simp only [quotedOrBare?] at h
  split at h
  · have := upTo?_length h
    simp only [List.length_cons]
    omega
  · have := upTo?_length h
    simp only [List.length_cons]
    omega
  · split at h
    · simp at h
    · simp only [Option.some.injEq, Prod.mk.injEq] at h
      rw [← h.2]
      exact (List.dropWhile_sublist _).length_le

theorem value?_length {cs v rest : List Char} (h : value? cs = some (v, rest)) :
    rest.length ≤ cs.length := by
  simp only [value?] at h
  split at h
  · rename_i r hr
    have h1 := quotedOrBare?_length h
    have h2 := Text.trimLeft_length_le r
    have h3 := Text.trimLeft_length_le cs
    rw [hr, List.length_cons] at h3
    omega
  · simp at h

def written : List Char → List Attribute
  | [] => []
  | c :: cs =>
    if isNameChar c then
      let name := (c :: cs.takeWhile isNameChar).map Char.toLower
      match _h : value? (cs.dropWhile isNameChar) with
      | some (v, rest) => ⟨name, decode v⟩ :: written rest
      | none => ⟨name, []⟩ :: written (cs.dropWhile isNameChar)
    else written cs
termination_by cs => cs.length
decreasing_by
  all_goals simp only [List.length_cons]
  · have h1 := value?_length _h
    have h2 := (List.dropWhile_sublist (l := cs) isNameChar).length_le
    omega
  · have h2 := (List.dropWhile_sublist (l := cs) isNameChar).length_le
    omega
  · omega

/-- The attributes without those whose name occurred before. -/
def firstOfEach : List Attribute → List Attribute
  | [] => []
  | a :: as => a :: (firstOfEach as).filter (·.name ≠ a.name)

/-- The attributes of the text between a tag's name and its end. -/
def parse (cs : List Char) : List Attribute :=
  firstOfEach (written cs)

/-- The value of the attribute with a name, in any case. -/
def lookup? (as : List Attribute) (name : List Char) : Option (List Char) :=
  (as.find? fun a => a.name = name.map Char.toLower).map value

end Attribute

end TimeMarkup.Markup
