/-!
Values of settings files: scalars, lists, and tables with named entries. A table remembers how it
came about, on which it depends whether later parts of a file may add to it.
-/

namespace TimeMarkup.Settings

/-- How a table came about. -/
inductive TableOrigin
  /-- It was written as a value and takes no further entries. -/
  | inline
  /-- It has a header of its own. -/
  | headed
  /-- A header of a table below it implies it. -/
  | implied
  /-- A dotted key implies it. -/
  | dotted
  deriving DecidableEq

inductive Value
  | null
  | boolean (b : Bool)
  | integer (n : Int)
  | fraction
  | text (s : String)
  | moment
  | list (items : List Value)
  | tables (elements : List Value)
  | table (origin : TableOrigin) (entries : List (String × Value))
  deriving Inhabited

namespace Value

def find? (entries : List (String × Value)) (key : String) : Option Value :=
  (entries.find? fun e => e.1 == key).map (·.2)

/-- Entries with a new value for a key; a new key goes to the end. -/
def put (entries : List (String × Value)) (key : String) (v : Value) : List (String × Value) :=
  match entries with
  | [] => [(key, v)]
  | e :: es => if e.1 == key then (key, v) :: es else e :: put es key v

@[simp] theorem find?_put_self (entries : List (String × Value)) (key : String) (v : Value) :
    find? (put entries key v) key = some v := by
  induction entries with
  | nil => simp [put, find?]
  | cons e es ih =>
    simp only [put]
    split
    · simp [find?]
    · rename_i h
      simpa [find?, h] using ih

end Value

end TimeMarkup.Settings
