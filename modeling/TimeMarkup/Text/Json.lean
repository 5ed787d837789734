/-!
JSON as it is printed for people: members and items on lines of their own, two blanks deeper than
what holds them.
-/

namespace TimeMarkup

inductive Json
  | number (n : Nat)
  | text (cs : List Char)
  | list (items : List Json)
  | object (members : List (String × Json))

namespace Json

def escapedChar (c : Char) : List Char :=
  match c with
  | '"' => ['\\', '"']
  | '\\' => ['\\', '\\']
  | '\x08' => ['\\', 'b']
  | '\x0c' => ['\\', 'f']
  | '\n' => ['\\', 'n']
  | '\r' => ['\\', 'r']
  | '\t' => ['\\', 't']
  | c =>
    if c.toNat < 32 then
      ['\\', 'u', '0', '0', Nat.digitChar (c.toNat / 16), Nat.digitChar (c.toNat % 16)]
    else [c]

def quoted (cs : List Char) : String :=
  String.ofList ('"' :: cs.flatMap escapedChar ++ ['"'])

/-- A line break, and the blanks at the given depth. -/
def lineBreak (depth : Nat) : String :=
  String.ofList ('\n' :: List.replicate (2 * depth) ' ')

def block (opening closing : String) (depth : Nat) (parts : List String) : String :=
  if parts.isEmpty then opening ++ closing
  else
    opening ++ lineBreak (depth + 1) ++ ("," ++ lineBreak (depth + 1)).intercalate parts
      ++ lineBreak depth ++ closing

mutual

def prettyAt (depth : Nat) : Json → String
  | number n => toString n
  | text cs => quoted cs
  | list items => block "[" "]" depth (prettyItems (depth + 1) items)
  | object members => block "\x7b" "\x7d" depth (prettyMembers (depth + 1) members)

def prettyItems (depth : Nat) : List Json → List String
  | [] => []
  | item :: items => prettyAt depth item :: prettyItems depth items

def prettyMembers (depth : Nat) : List (String × Json) → List String
  | [] => []
  | (name, value) :: members =>
    (quoted name.toList ++ ": " ++ prettyAt depth value) :: prettyMembers depth members

end

def pretty (j : Json) : String :=
  prettyAt 0 j

end Json

end TimeMarkup
