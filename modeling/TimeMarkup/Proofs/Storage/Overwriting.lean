import TimeMarkup.Proofs.Storage.Writing

/-!
# Writing over a file that exists

Where a path leads depends on the nodes alone. Writing through a path that leads to a file changes
what that file holds, under all of its names, and nothing else.
-/

namespace TimeMarkup.FileSystem

/-- The same directories, links and names of files, whatever the files hold. -/
structure SameNodes (fs fs' : FileSystem) : Prop where
  nodes : fs'.nodes = fs.nodes
  base : fs'.base = fs.base

namespace SameNodes
variable {fs fs' : FileSystem} (h : fs.SameNodes fs')
include h

theorem node? (l : Location) : fs'.node? l = fs.node? l := by
  rw [FileSystem.node?, FileSystem.node?, h.nodes]

theorem isDirectoryAt (l : Location) : fs'.isDirectoryAt l = fs.isDirectoryAt l := by
  rw [FileSystem.isDirectoryAt, FileSystem.isDirectoryAt, h.node?]

theorem walk (links : Nat) (l : Location) (steps : List Path.Step) :
    fs'.walk links l steps = fs.walk links l steps := by
  fun_induction fs.walk links l steps with
  | case1 => rw [FileSystem.walk]
  | case2 links l rest hdir ih => rw [FileSystem.walk, h.isDirectoryAt, if_pos hdir, ih]
  | case3 links l rest hdir ih => rw [FileSystem.walk, h.isDirectoryAt, if_pos hdir, ih]
  | case4 links l rest hdir name hname =>
    simp only [FileSystem.walk, h.isDirectoryAt, if_pos hdir, if_pos hname]
  | case5 links l rest hdir name hname hnode =>
    simp only [FileSystem.walk, h.isDirectoryAt, h.node?, if_pos hdir, if_neg hname, hnode]
  | case6 l rest hdir name hname target hnode =>
    simp only [FileSystem.walk, h.isDirectoryAt, h.node?, if_pos hdir, if_neg hname, hnode]
  | case7 l rest hdir name hname target hnode fewer ih =>
    simp only [FileSystem.walk, h.isDirectoryAt, h.node?, if_pos hdir, if_neg hname, hnode]
    exact ih
  | case8 links l rest hdir name hname node hlink hnode ih =>
    simp only [FileSystem.walk, h.isDirectoryAt, h.node?, if_pos hdir, if_neg hname, hnode]
    cases node with
    | link target => exact absurd rfl (hlink target)
    | _ => exact ih
  | case9 links l step rest hdir =>
    cases step <;> simp only [FileSystem.walk, h.isDirectoryAt, if_neg hdir]

theorem follow (l : Location) (steps : List Path.Step) :
    fs'.follow l steps = fs.follow l steps := by
  rw [FileSystem.follow, FileSystem.follow, h.walk]

theorem start (p : Path) : fs'.start p = fs.start p := by
  rw [FileSystem.start, FileSystem.start, h.base]

theorem resolve (p : Path) : fs'.resolve p = fs.resolve p := by
  simp only [FileSystem.resolve, h.start, h.follow]

theorem lookup (p : Path) : fs'.lookup p = fs.lookup p := by
  simp only [FileSystem.lookup, h.resolve, h.node?]

theorem exists? (p : Path) : fs'.exists? p = fs.exists? p := by
  simp only [FileSystem.exists?, h.lookup]

theorem isDirectory (p : Path) : fs'.isDirectory p = fs.isDirectory p := by
  simp only [FileSystem.isDirectory, h.lookup]

theorem isFile (p : Path) : fs'.isFile p = fs.isFile p := by
  simp only [FileSystem.isFile, h.lookup]

theorem entries (p : Path) : fs'.entries p = fs.entries p := by
  simp only [FileSystem.entries, FileSystem.entriesAt, h.resolve, h.nodes]

/-- What is read is the content of one file, and depends on no other. -/
theorem read {p : Path}
    (hfiles : ∀ n, fs.lookup p = .ok (.file n) → fs'.files.get? n = fs.files.get? n) :
    fs'.read p = fs.read p := by
  simp only [FileSystem.read, bind, Except.bind, h.lookup]
  cases hlookup : fs.lookup p with
  | error e => rfl
  | ok node =>
    cases node with
    | file n => simp only [hfiles n hlookup]
    | _ => rfl

end SameNodes

/-- The file system after a file has got another content. -/
def overwrite (fs : FileSystem) (number : Nat) (content : Content) : FileSystem :=
  { fs with files := fs.files.put number ⟨content, fs.clock⟩, clock := fs.clock + 1 }

section Overwrite
variable {fs : FileSystem} {p q : Path} {number : Nat}

theorem sameNodes_overwrite (fs : FileSystem) (number : Nat) (content : Content) :
    fs.SameNodes (fs.overwrite number content) :=
  ⟨rfl, rfl⟩

theorem lookup_overwrite (fs : FileSystem) (number : Nat) (content : Content) (p : Path) :
    (fs.overwrite number content).lookup p = fs.lookup p :=
  (sameNodes_overwrite fs number content).lookup p

theorem write_eq_overwrite (hsound : fs.IsSound) (h : fs.lookup q = .ok (.file number))
    (content : Content) :
    fs.write q content = .ok (fs.overwrite number content) := by
  obtain ⟨hpath, l, hplace, hl⟩ := (lookup_eq_file_iff hsound).mp h
  have hlocation : fs.writeLocation maxLinks (fs.start q) q = .ok l :=
    writeLocation_eq_ok_iff.mpr hplace
  simp only [write, bind, Except.bind, hpath, hlocation, hl]
  rfl

theorem IsSound.overwrite (hsound : fs.IsSound) (number : Nat) (content : Content) :
    (fs.overwrite number content).IsSound where
  isDirectoryAt_base := hsound.isDirectoryAt_base
  isDirectoryAt_dropLast := hsound.isDirectoryAt_dropLast
  isSome_get? l n hl := by
    rw [FileSystem.overwrite, Table.get?_put]
    split
    · rfl
    · exact hsound.isSome_get? l n hl

/-- The file is read again under each of its names. -/
theorem read_overwrite_self (h : fs.lookup p = .ok (.file number)) (content : Content) :
    (fs.overwrite number content).read p = .ok content := by
  rw [read_eq_ok_iff, lookup_overwrite]
  exact ⟨number, ⟨content, fs.clock⟩, h, Table.get?_put_self _ _ _, rfl⟩

theorem read_overwrite_of_ne (h : fs.lookup p ≠ .ok (.file number)) (content : Content) :
    (fs.overwrite number content).read p = fs.read p := by
  refine (sameNodes_overwrite fs number content).read fun n hlookup => ?_
  have hne : n ≠ number := fun heq => h (heq ▸ hlookup)
  rw [overwrite, Table.get?_put_of_ne _ _ hne]

end Overwrite

end TimeMarkup.FileSystem
