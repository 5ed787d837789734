/-!
Texts cut at separators. There is always one field more than there are separators.
-/

namespace TimeMarkup.Text

def fields (isSeparator : Char → Bool) : List Char → List (List Char)
  | [] => [[]]
  | c :: cs =>
    if isSeparator c then [] :: fields isSeparator cs
    else match fields isSeparator cs with
      | [] => [[c]]
      | w :: ws => (c :: w) :: ws

/-- The fields that have characters. -/
def words (isSeparator : Char → Bool) (cs : List Char) : List (List Char) :=
  (fields isSeparator cs).filter fun w => !w.isEmpty

def joined (separator : List Char) : List (List Char) → List Char
  | [] => []
  | [w] => w
  | w :: ws => w ++ separator ++ joined separator ws

@[simp] theorem fields_nil (p : Char → Bool) : fields p [] = [[]] := rfl

theorem fields_ne_nil (p : Char → Bool) (cs : List Char) : fields p cs ≠ [] := by
  cases cs with
  | nil => simp
  | cons c cs =>
    simp only [fields]
    repeat' split
    all_goals simp

theorem length_fields (p : Char → Bool) (cs : List Char) :
    (fields p cs).length = cs.countP p + 1 := by
  induction cs with
  | nil => rfl
  | cons c cs ih =>
    simp only [fields, List.countP_cons]
    split
    · simp [*]
    · have := fields_ne_nil p cs
      split <;> simp_all

theorem joined_fields (c : Char) (cs : List Char) : joined [c] (fields (· == c) cs) = cs := by
  induction cs with
  | nil => rfl
  | cons d ds ih =>
    have hne := fields_ne_nil (· == c) ds
    simp only [fields]
    split
    · rename_i h
      obtain rfl := eq_of_beq h
      revert ih hne
      cases fields (· == d) ds <;> simp [joined]
    · revert ih hne
      cases fields (· == c) ds with
      | nil => simp
      | cons w ws => cases ws <;> simp [joined]

end TimeMarkup.Text
