/-!
Tables: finite maps as lists of pairs, of which the first with a key counts. Looking up after a
change is described by one equation for each kind of change.
-/

namespace TimeMarkup

structure Table (κ α : Type) where
  entries : List (κ × α)

namespace Table

variable {κ α : Type} [DecidableEq κ]

def empty : Table κ α := ⟨[]⟩

instance : Inhabited (Table κ α) := ⟨empty⟩

def get? (t : Table κ α) (k : κ) : Option α :=
  (t.entries.find? fun e => e.1 = k).map (·.2)

def erase (t : Table κ α) (k : κ) : Table κ α :=
  ⟨t.entries.filter fun e => e.1 ≠ k⟩

def put (t : Table κ α) (k : κ) (v : α) : Table κ α :=
  ⟨(k, v) :: (t.erase k).entries⟩

def keys (t : Table κ α) : List κ :=
  t.entries.map (·.1)

theorem mem_entries_of_get? {t : Table κ α} {k : κ} {v : α} (h : t.get? k = some v) :
    (k, v) ∈ t.entries := by
  obtain ⟨e, hfind, rfl⟩ := Option.map_eq_some_iff.mp h
  have hkey : e.1 = k := by simpa using List.find?_some hfind
  exact hkey ▸ List.mem_of_find?_eq_some hfind

@[simp] theorem get?_empty (k : κ) : (empty : Table κ α).get? k = none := rfl

@[simp] theorem get?_put_self (t : Table κ α) (k : κ) (v : α) : (t.put k v).get? k = some v := by
  simp [get?, put]

theorem get?_erase_of_ne (t : Table κ α) {k l : κ} (h : l ≠ k) : (t.erase k).get? l = t.get? l := by
  simp only [get?, erase, List.find?_filter]
  congr 2
  funext e
  by_cases he : e.1 = l <;> simp_all

@[simp] theorem get?_erase_self (t : Table κ α) (k : κ) : (t.erase k).get? k = none := by
  simp only [get?, erase, List.find?_filter, Option.map_eq_none_iff, List.find?_eq_none]
  intro e _
  simp_all

theorem get?_put_of_ne (t : Table κ α) {k l : κ} (v : α) (h : l ≠ k) :
    (t.put k v).get? l = t.get? l := by
  rw [← get?_erase_of_ne t h]
  simp [get?, put, Ne.symm h]

theorem get?_put (t : Table κ α) (k l : κ) (v : α) :
    (t.put k v).get? l = if l = k then some v else t.get? l := by
  split
  · simp [*]
  · simp [get?_put_of_ne, *]

end Table

end TimeMarkup
