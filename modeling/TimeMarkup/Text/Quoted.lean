import TimeMarkup.Text.Hidden
/-!
Quoted texts in messages. A quoted text stands between double quotes and shows neither line breaks
nor other control characters.
-/

namespace TimeMarkup.Text

def quotedChar (c : Char) : List Char :=
  match c with
  | '"' => ['\\', '"']
  | '\\' => ['\\', '\\']
  | '\t' => ['\\', 't']
  | '\r' => ['\\', 'r']
  | '\n' => ['\\', 'n']
  | '\x00' => ['\\', '0']
  | c =>
    if isHidden c then ['\\', 'u', '{'] ++ Nat.toDigits 16 c.toNat ++ ['}'] else [c]

/-- The text between double quotes, with every character that would not show escaped. -/
def quoted (cs : List Char) : List Char :=
  '"' :: cs.flatMap quotedChar ++ ['"']

@[simp] theorem quoted_nil : quoted [] = ['"', '"'] := rfl

def quote (cs : List Char) : String :=
  String.ofList (quoted cs)

end TimeMarkup.Text
