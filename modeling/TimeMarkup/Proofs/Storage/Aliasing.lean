import TimeMarkup.Proofs.Storage.Touching

/-!
# Paths that may lead to one file

Two paths are unlinked if no file is at the places of both under different names. They may still
lead to one place: then writing through one path is writing the file of the other. Otherwise the
file of the other keeps its time.
-/

namespace TimeMarkup.FileSystem

/-- The paths lead to one place, or to different files. -/
def Unlinked (fs : FileSystem) (p q : Path) : Prop :=
  ∀ l m, fs.Place p l → fs.Place q m → l ≠ m →
    ∀ number, fs.node? l = some (.file number) → fs.node? m ≠ some (.file number)

theorem Apart.unlinked {fs : FileSystem} {p q : Path} (h : fs.Apart p q) : fs.Unlinked p q := by
  intro l m hl hm _
  exact (h l m hl hm).2

theorem unlinked_self (fs : FileSystem) (p : Path) : fs.Unlinked p p := by
  intro l m hl hm hne
  exact absurd (hl.unique hm) hne

theorem Unlinked.symm {fs : FileSystem} {p q : Path} (h : fs.Unlinked p q) : fs.Unlinked q p := by
  intro l m hl hm hne number hnode hnode'
  exact h m l hm hl hne.symm number hnode' hnode

section Changes
variable {fs fs' : FileSystem} {p q : Path} {l : Location}

theorem Puts.unlinked (hsound : fs.IsSound) (hunlinked : fs.Unlinked p q) (hplace : fs.Place q l)
    {number : Nat} {stored : Stored} (h : fs.Puts l number stored fs') : fs'.Unlinked p q := by
  intro m m' hm hm' hne n hn hn'
  have hm := hm.of_sameTree h.alters.sameTree.symm
  obtain rfl : m' = l := (hm'.of_sameTree h.alters.sameTree.symm).unique hplace
  rw [h.node?_self] at hn'
  cases hn'
  have hnode := (h.alters.node?_eq_file_iff hne number).mp hn
  exact h.ne_number_of_node? hsound hnode (hunlinked m m' hm hplace hne number hnode) rfl

theorem Drops.unlinked (hplace : fs.Place q l) (h : fs.Drops l fs') : fs'.Unlinked p q := by
  intro m m' hm hm' hne n hn hn'
  obtain rfl : m' = l := (hm'.of_sameTree h.alters.sameTree.symm).unique hplace
  rw [h.node?_self] at hn'
  cases hn'

theorem Unlinked.write {content : Content} (hsound : fs.IsSound) (hunlinked : fs.Unlinked p q)
    (h : fs.write q content = .ok fs') : fs'.Unlinked p q := by
  obtain ⟨-, l, number, hplace, hputs⟩ := write_eq_ok h
  exact hputs.unlinked hsound hunlinked hplace

theorem isDirectory_of_sameTree (hsame : fs.SameTree fs') (h : fs.isDirectory p = true) :
    fs'.isDirectory p = true := by
  cases hlookup : fs.lookup p with
  | error e => simp [isDirectory, hlookup] at h
  | ok node =>
    cases node with
    | file number => simp [isDirectory, hlookup] at h
    | link target => simp [isDirectory, hlookup] at h
    | directory modified =>
      obtain ⟨hpath, l, hfollow, hl⟩ := lookup_eq_ok_iff.mp hlookup
      have hdir := isDirectoryAt_iff.mpr ⟨modified, hl⟩
      obtain ⟨left, hleads⟩ := follow_eq_ok_iff.mp hfollow
      have hfollow' : fs'.follow (fs'.start p) p.steps = .ok l := by
        rw [start, hsame.base]
        exact follow_eq_ok_iff.mpr ⟨left, hleads.of_sameTree hsame hdir⟩
      rw [← hsame.isDirectoryAt] at hdir
      obtain ⟨modified', hl'⟩ := isDirectoryAt_iff.mp hdir
      simp only [isDirectory, lookup_eq_ok_iff.mpr ⟨hpath, l, hfollow', hl'⟩]

end Changes

theorem canonical?_of_place {fs : FileSystem} {p : Path} {l : Location} {number : Nat}
    (hpath : checkPath p = .ok ()) (hplace : fs.Place p l) (hl : fs.node? l = some (.file number)) :
    fs.canonical? p = some l := by
  have hlookup := lookup_eq_ok_iff.mpr ⟨hpath, l, hplace.follow hl, hl⟩
  obtain ⟨m, hm⟩ := Option.isSome_iff_exists.mp (isSome_canonical?_of_lookup hlookup)
  have hfollow := follow_of_canonical? hm
  rw [hplace.follow hl] at hfollow
  cases hfollow
  exact hm

/-- Writing through an unlinked path leaves the modification time of a watched file as it is, unless
the path leads to the file; a directory may hold the file that is written. -/
theorem modified?_write_of_unlinked {fs fs' : FileSystem} {w : FileWatch} {q : Path}
    {content : Content} (hsound : fs.IsSound) (hunlinked : fs.Unlinked w.path q)
    (h : fs.write q content = .ok fs') :
    w.isSameFile fs' q = true ∨ fs.isDirectory w.path = true ∨ fs'.modified? w.path = none ∨
      fs'.modified? w.path = fs.modified? w.path := by
  obtain ⟨hpath, l, number, hplace, hputs⟩ := write_eq_ok h
  have hsame := hputs.alters.sameTree
  cases hlookup : fs'.lookup w.path with
  | error e =>
    right; right; left
    simp only [modified?, hlookup]
  | ok node =>
    cases node with
    | link target =>
      right; right; left
      simp only [modified?, hlookup]
    | directory modified =>
      right; left
      apply isDirectory_of_sameTree hsame.symm
      simp only [isDirectory, hlookup]
    | file n =>
      obtain ⟨hwatched, m, hm, hnode⟩ := (lookup_eq_file_iff (hsound.write h)).mp hlookup
      by_cases hne : m = l
      · left
        subst hne
        have hcanonical := canonical?_of_place hwatched hm hnode
        have hcanonical' := canonical?_of_place hpath (hplace.of_sameTree hsame) hnode
        simp only [FileWatch.isSameFile, hcanonical, hcanonical', beq_self_eq_true]
      · right; right; right
        -- The watched file was there before, and is not the one that is written.
        have hm := hm.of_sameTree hsame.symm
        have hnode := (hputs.alters.node?_eq_file_iff hne n).mp hnode
        have hother := hputs.ne_number_of_node? hsound hnode (hunlinked m l hm hplace hne n hnode)
        have hlookup' := (lookup_eq_file_iff hsound).mpr ⟨hwatched, m, hm, hnode⟩
        rw [modified?_of_lookup hlookup, modified?_of_lookup hlookup', hputs.stored, if_neg hother]

end TimeMarkup.FileSystem
