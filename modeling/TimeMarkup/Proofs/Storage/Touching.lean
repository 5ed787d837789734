import TimeMarkup.Proofs.Storage.Writing

/-!
# What touching and removing a file changes

A file that is touched keeps its content. A file that is removed is not read through its path any
more. Through a path that leads to another file nothing else is read than before.
-/

namespace TimeMarkup.FileSystem
variable {fs fs' : FileSystem} {p q : Path} {l : Location}

/-- A file that can be read is put again with its content and another time. -/
theorem setModified_eq_ok (hsound : fs.IsSound) {c : Content} {modified : Int}
    (hread : fs.read p = .ok c) (h : fs.setModified p modified = .ok fs') :
    checkPath p = .ok () ∧ ∃ l number, fs.Place p l ∧ fs.Puts l number ⟨c, modified⟩ fs' := by
  obtain ⟨number, stored, hlookup, hstored, rfl⟩ := read_eq_ok_iff.mp hread
  obtain ⟨hpath, l, hplace, hnode⟩ := (lookup_eq_file_iff hsound).mp hlookup
  simp only [setModified, resolve, bind, Except.bind, hpath, hplace.follow hnode, hnode, hstored,
    Except.ok.injEq] at h
  subst h
  refine ⟨hpath, l, number, hplace, rfl, fun m => ?_, fun n => Table.get?_put _ _ _ _, .inl hnode⟩
  split
  · rename_i hm
    exact hm ▸ node?_eq_file_iff_outline.mp hnode
  · rfl

/-- The second file system is the first one without the file at a location. -/
structure Drops (fs : FileSystem) (l : Location) (fs' : FileSystem) : Prop where
  base : fs'.base = fs.base
  outline : ∀ m, fs'.outline m = if m = l then none else fs.outline m
  files : fs'.files = fs.files
  before : ∃ number, fs.node? l = some (.file number)

theorem outline_erase (fs : FileSystem) {l : Location} (hl : l ≠ []) (m : Location) :
    { fs with nodes := fs.nodes.erase l }.outline m = if m = l then none else fs.outline m := by
  simp only [outline, node?]
  by_cases hm : m = l
  · rw [if_pos hm, hm, if_neg hl, Table.get?_erase_self, Option.map_none]
  · rw [if_neg hm, Table.get?_erase_of_ne _ hm]

/-- The last step of the path is the name, and the others lead to the directory. -/
theorem parentAndName_eq_ok {parent : Location} {name : List Char}
    (hslash : p.hasTrailingSlash = false) (h : fs.parentAndName p = .ok (parent, some name)) :
    fs.isDirectoryAt parent = true ∧
      ∃ init left, p.steps = init ++ [.entry name] ∧
        fs.Leads maxLinks (fs.start p) init parent left := by
  simp only [parentAndName, bind, Except.bind, ← steps_of_not_trailing hslash] at h
  cases hpath : checkPath p with
  | error e =>
    rw [hpath] at h
    cases h
  | ok _ =>
    cases hfollow : fs.follow (fs.start p) p.steps.dropLast with
    | error e =>
      simp only [hpath, hfollow] at h
      cases h
    | ok found =>
      simp only [hpath, hfollow] at h
      split at h
      · rename_i hdir
        simp only [Except.ok.injEq, Prod.mk.injEq] at h
        obtain ⟨rfl, hlast⟩ := h
        split at hlast
        · rename_i last hentry
          cases hlast
          obtain ⟨init, hsteps⟩ := List.getLast?_eq_some_iff.mp hentry
          rw [hsteps, List.dropLast_concat] at hfollow
          obtain ⟨left, hleads⟩ := follow_eq_ok_iff.mp hfollow
          exact ⟨hdir, init, left, hsteps, hleads⟩
        · cases hlast
      · cases h

theorem exists_name_of_remove (h : fs.remove p = .ok fs') :
    ∃ parent name, p.hasTrailingSlash = false ∧ fs.parentAndName p = .ok (parent, some name) ∧
      Text.byteLength name ≤ maxName ∧
      fs' = { fs with nodes := fs.nodes.erase (parent ++ [name]) }.stamp
        (parent ++ [name]).dropLast := by
  simp only [remove, bind, Except.bind] at h
  cases hparent : fs.parentAndName p with
  | error e =>
    simp only [hparent] at h
    cases h
  | ok found =>
    obtain ⟨parent, last⟩ := found
    cases last with
    | none =>
      simp only [hparent] at h
      cases h
    | some name =>
      by_cases hname : maxName < Text.byteLength name
      · simp only [hparent, entryIn, if_pos hname] at h
        cases h
      · simp only [hparent, entryIn, if_neg hname] at h
        split at h
        · cases h
        · cases h
        · split at h
          · cases h
          · rename_i hslash
            exact ⟨parent, name, Bool.eq_false_iff.mpr hslash, rfl, Nat.le_of_not_lt hname,
              (Except.ok.inj h).symm⟩

/-- Removing takes the name at the end of the path away, if it is the name of a file. -/
theorem remove_eq_ok {number : Nat} (hentry : fs.lookupEntry p = .ok (.file number))
    (h : fs.remove p = .ok fs') :
    ∃ l, fs.Place p l ∧ fs.Drops l fs' := by
  obtain ⟨parent, name, hslash, hparent, hname, rfl⟩ := exists_name_of_remove h
  obtain ⟨hdir, init, left, hsteps, hleads⟩ := parentAndName_eq_ok hslash hparent
  simp only [lookupEntry, hslash, hparent, entryIn, if_neg (Nat.not_lt.mpr hname), bind,
    Except.bind, Bool.false_eq_true, if_false] at hentry
  cases hnode : fs.node? (parent ++ [name]) with
  | none =>
    rw [hnode] at hentry
    cases hentry
  | some node =>
    simp only [hnode, Except.ok.injEq] at hentry
    subst hentry
    have hfile := not_isDirectoryAt_of_file hnode
    have hlink (target : Path) : fs.node? (parent ++ [name]) ≠ some (.link target) := by
      rw [hnode]
      exact nofun
    refine ⟨parent ++ [name], .entry hsteps hleads hdir hname hfile hlink, ?_, ?_, ?_,
      number, hnode⟩
    · rw [base_stamp]
    · intro m
      rw [outline_stamp]
      exact outline_erase fs (by simp) m
    · rw [files_stamp]

namespace Drops
variable (h : fs.Drops l fs')
include h

theorem node?_self : fs'.node? l = none := by
  have hself := h.outline l
  rw [if_pos rfl] at hself
  exact Option.map_eq_none_iff.mp hself

theorem alters : fs.Alters l fs' where
  base := h.base
  outline m hm := by rw [h.outline, if_neg hm]
  before := .inr h.before
  after := .inl h.node?_self

theorem isSound (hsound : fs.IsSound) (hl : fs.isDirectoryAt l.dropLast = true) : fs'.IsSound := by
  refine h.alters.isSound hsound hl fun m n hm => ?_
  rw [h.files]
  refine hsound.isSome_get? m n ((h.alters.node?_eq_file_iff ?_ n).mp hm)
  rintro rfl
  rw [h.node?_self] at hm
  cases hm

theorem modified?_self (hplace : fs.Place p l) : fs'.modified? p = none :=
  modified?_eq_none (hplace.of_sameTree h.alters.sameTree) h.node?_self

theorem apart (hapart : fs.Apart p q) (hplace : fs.Place q l) : fs'.Apart p q := by
  intro m m' hm hm'
  have hm := hm.of_sameTree h.alters.sameTree.symm
  have hm' := hm'.of_sameTree h.alters.sameTree.symm
  refine ⟨(hapart m m' hm hm').1, fun n _ hn => ?_⟩
  rw [hm'.unique hplace, h.node?_self] at hn
  cases hn

theorem read_iff (hsound : fs.IsSound) (hapart : fs.Apart p q) (hplace : fs.Place q l)
    (c : Content) :
    fs'.read p = .ok c ↔ fs.read p = .ok c :=
  h.alters.read_iff hsound (h.isSound hsound hplace.isDirectoryAt_dropLast) hapart hplace
    (fun _ _ => by rw [h.files]) c

end Drops
end TimeMarkup.FileSystem
