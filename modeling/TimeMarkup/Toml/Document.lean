import TimeMarkup.Toml.Scalar
/-!
TOML documents. Lines with headers and keys build up a table; no key may be given twice, and no
table opened again that is complete.
-/

namespace TimeMarkup.Toml

open Settings (Value TableOrigin)

/-- Changes the table to which keys lead. Tables on the way that do not exist yet are made, with an
origin; dotted keys do not lead into tables that have a header. -/
def enter (origin : TableOrigin) (f : Value → Option Value) : List String → Value → Option Value
  | [], v => f v
  | k :: ks, .table o entries => do
    let v ← match Value.find? entries k with
      | none => enter origin f ks (.table origin [])
      | some (.table o' entries') =>
        if o' = .inline ∨ (origin = .dotted ∧ o' = .headed) then none
        else enter origin f ks (.table o' entries')
      | some (.tables elements) => do
        let last ← elements.getLast?
        let v ← enter origin f ks last
        some (.tables (elements.dropLast ++ [v]))
      | some _ => none
    some (.table o (Value.put entries k v))
  | _ :: _, _ => none

/-- Gives a table a header; it must be new or implied by the header of another one. -/
def defineTable (k : String) : Value → Option Value
  | .table o entries =>
    match Value.find? entries k with
    | none => some (.table o (Value.put entries k (.table .headed [])))
    | some (.table .implied inner) => some (.table o (Value.put entries k (.table .headed inner)))
    | some _ => none
  | _ => none

/-- Adds an element to an array of tables, which may be new. -/
def defineElement (k : String) : Value → Option Value
  | .table o entries =>
    match Value.find? entries k with
    | none => some (.table o (Value.put entries k (.tables [.table .headed []])))
    | some (.tables elements) =>
      some (.table o (Value.put entries k (.tables (elements ++ [.table .headed []]))))
    | some _ => none
  | _ => none

/-- Gives a key of a table its value. The key must be new, and the table be made by dotted keys if
the key is dotted, and only then. -/
def defineKey (isDotted : Bool) (k : String) (v : Value) : Value → Option Value
  | .table o entries =>
    if (o = .dotted) = isDotted ∧ (Value.find? entries k).isNone then
      some (.table o (Value.put entries k v))
    else none
  | _ => none

/-- Gives the key at the end of dotted keys its value. -/
def assign (ks : List String) (k : String) (v : Value) (t : Value) : Option Value :=
  enter .dotted (defineKey (!ks.isEmpty) k v) ks t

mutual

/-- Takes a value; `depth` bounds the nesting. -/
def value? (depth : Nat) (cs : List Char) : Option (Value × List Char) :=
  match cs, depth with
  | '[' :: rest, depth + 1 =>
    (items? depth rest.length rest).map fun (vs, rest) => (.list vs, rest)
  | '{' :: rest, depth + 1 =>
    match skipSpaces rest with
    | '}' :: rest' => some (.table .inline [], rest')
    | rest' => pairs? depth rest'.length (.table .headed []) rest'
  | '[' :: _, 0 => none
  | '{' :: _, 0 => none
  | cs, _ => scalar? cs
termination_by (depth, 0)

/-- Takes the items of a list and its closing bracket. -/
def items? (depth fuel : Nat) (cs : List Char) : Option (List Value × List Char) :=
  match fuel with
  | 0 => none
  | fuel + 1 =>
    match skipLines cs.length cs with
    | ']' :: rest => some ([], rest)
    | cs' => do
      let (v, cs') ← value? depth cs'
      match skipLines cs'.length cs' with
      | ']' :: rest => some ([v], rest)
      | ',' :: rest =>
        let (vs, rest) ← items? depth fuel rest
        some (v :: vs, rest)
      | _ => none
termination_by (depth, fuel + 1)

/-- Takes the entries of an inline table and its closing brace. -/
def pairs? (depth fuel : Nat) (t : Value) (cs : List Char) : Option (Value × List Char) :=
  match fuel with
  | 0 => none
  | fuel + 1 => do
    let (ks, k, cs) ← key? cs
    match cs with
    | '=' :: cs =>
      let (v, cs) ← value? depth (skipSpaces cs)
      let t ← assign ks k v t
      match skipSpaces cs with
      | '}' :: rest =>
        match t with
        | .table _ entries => some (.table .inline entries, rest)
        | _ => none
      | ',' :: rest => pairs? depth fuel t rest
      | _ => none
    | _ => none
termination_by (depth, fuel + 1)

end

inductive Line
  | header (parents : List String) (k : String)
  | element (parents : List String) (k : String)
  | entry (ks : List String) (k : String) (v : Value)

/-- Takes a line that says something, with its line end. -/
def line? (cs : List Char) : Option (Line × List Char) :=
  match cs with
  | '[' :: '[' :: cs => do
    let (ks, k, cs) ← key? cs
    match cs with
    | ']' :: ']' :: cs => (lineEnd? cs).map (.element ks k, ·)
    | _ => none
  | '[' :: cs => do
    let (ks, k, cs) ← key? cs
    match cs with
    | ']' :: cs => (lineEnd? cs).map (.header ks k, ·)
    | _ => none
  | cs => do
    let (ks, k, cs) ← key? cs
    match cs with
    | '=' :: cs =>
      let (v, cs) ← value? nestingLimit (skipSpaces cs)
      (lineEnd? cs).map (.entry ks k v, ·)
    | _ => none

def lines? : Nat → List Char → Option (List Line)
  | 0, _ => none
  | fuel + 1, cs =>
    match skipLines cs.length cs with
    | [] => some []
    | cs => do
      let (line, rest) ← line? cs
      let lines ← lines? fuel rest
      some (line :: lines)

/-- The table after a line, where keys belong to the table of the last header. -/
def step (root : Value) (current : List String) : Line → Option (Value × List String)
  | .header parents k =>
    (enter .implied (defineTable k) parents root).map (·, parents ++ [k])
  | .element parents k =>
    (enter .implied (defineElement k) parents root).map (·, parents ++ [k])
  | .entry ks k v => (enter .implied (assign ks k v) current root).map (·, current)

def parse? (cs : List Char) : Option Value := do
  let cs := if cs.head? = some '\uFEFF' then cs.drop 1 else cs
  let lines ← lines? (cs.length + 1) cs
  let (root, _) ← lines.foldlM (fun (root, current) line => step root current line)
    (Value.table .headed [], ([] : List String))
  some root

end TimeMarkup.Toml
