import TimeMarkup.Proofs.Storage.Writing

/-!
# What is added to a file system

Making directories, and writing a file where there was nothing, only adds to a file system. A path
that led to a file leads to it again, and the file is read as before.
-/

namespace TimeMarkup.FileSystem
variable {fs fs' fs'' : FileSystem} {l m : Location} {p : Path}

/-- What one file system has, the other one has too, apart from the times of directories. -/
structure Extends (fs fs' : FileSystem) : Prop where
  base : fs'.base = fs.base
  outline : ∀ l node, fs.outline l = some node → fs'.outline l = some node
  stored : ∀ n stored, fs.files.get? n = some stored → fs'.files.get? n = some stored

namespace Extends

theorem refl (fs : FileSystem) : fs.Extends fs :=
  ⟨rfl, fun _ _ h => h, fun _ _ h => h⟩

theorem trans (h : fs.Extends fs') (h' : fs'.Extends fs'') : fs.Extends fs'' where
  base := h'.base.trans h.base
  outline l node hl := h'.outline l node (h.outline l node hl)
  stored n stored hn := h'.stored n stored (h.stored n stored hn)

section
variable (h : fs.Extends fs')
include h

theorem isDirectoryAt (hl : fs.isDirectoryAt l = true) : fs'.isDirectoryAt l = true :=
  isDirectoryAt_iff_outline.mpr (h.outline l _ (isDirectoryAt_iff_outline.mp hl))

theorem node?_file {number : Nat} (hl : fs.node? l = some (.file number)) :
    fs'.node? l = some (.file number) :=
  node?_eq_file_iff_outline.mpr (h.outline l _ (node?_eq_file_iff_outline.mp hl))

theorem node?_link {target : Path} (hl : fs.node? l = some (.link target)) :
    fs'.node? l = some (.link target) :=
  node?_eq_link_iff_outline.mpr (h.outline l _ (node?_eq_link_iff_outline.mp hl))

theorem leads {links left : Nat} {steps : List Path.Step} (hl : fs.Leads links l steps m left) :
    fs'.Leads links l steps m left := by
  induction hl with
  | done => exact .done
  | here hdir _ ih => exact .here (h.isDirectoryAt hdir) ih
  | up hdir _ ih => exact .up (h.isDirectoryAt hdir) ih
  | @entry _ _ _ _ _ _ node hdir hname hnode hlink _ ih =>
    cases node with
    | directory modified =>
      obtain ⟨modified', hnode'⟩ :=
        isDirectoryAt_iff.mp (h.isDirectoryAt (isDirectoryAt_iff.mpr ⟨modified, hnode⟩))
      exact .entry (h.isDirectoryAt hdir) hname hnode' nofun ih
    | file number => exact .entry (h.isDirectoryAt hdir) hname (h.node?_file hnode) nofun ih
    | link target => exact absurd rfl (hlink target)
  | link hdir hname hnode _ ih => exact .link (h.isDirectoryAt hdir) hname (h.node?_link hnode) ih

theorem lookup_file {number : Nat} (hp : fs.lookup p = .ok (.file number)) :
    fs'.lookup p = .ok (.file number) := by
  obtain ⟨hpath, l, hfollow, hl⟩ := lookup_eq_ok_iff.mp hp
  obtain ⟨left, hleads⟩ := follow_eq_ok_iff.mp hfollow
  refine lookup_eq_ok_iff.mpr ⟨hpath, l, follow_eq_ok_iff.mpr ⟨left, ?_⟩, h.node?_file hl⟩
  rw [start, h.base]
  exact h.leads hleads

theorem read {c : Content} (hp : fs.read p = .ok c) : fs'.read p = .ok c := by
  obtain ⟨number, stored, hlookup, hstored, hcontent⟩ := read_eq_ok_iff.mp hp
  exact read_eq_ok_iff.mpr ⟨number, stored, h.lookup_file hlookup, h.stored _ _ hstored, hcontent⟩

end

/-- A new node where there was nothing. -/
theorem insert (hl : fs.node? l = none) (node : Node) : fs.Extends (fs.insert l node) where
  base := base_stamp _ _
  outline m node' hm := by
    have hroot : l ≠ [] := by
      rintro rfl
      cases hl
    rw [outline_insert fs hroot, if_neg]
    · exact hm
    · rintro rfl
      rw [FileSystem.outline, hl] at hm
      cases hm
  stored n stored hn := by rwa [FileSystem.insert, files_stamp]

end Extends

/-- A file that is written where there was nothing. -/
theorem Puts.extends {number : Nat} {stored : Stored} (h : fs.Puts l number stored fs')
    (hl : fs.node? l = none) :
    fs.Extends fs' where
  base := h.base
  outline m node hm := by
    rw [h.outline, if_neg]
    · exact hm
    · rintro rfl
      rw [FileSystem.outline, hl] at hm
      cases hm
  stored n stored' hn := by
    rw [h.stored, if_neg]
    · exact hn
    · rintro rfl
      rcases h.before with hfile | ⟨-, hfresh⟩
      · rw [hl] at hfile
        cases hfile
      · rw [hfresh, get?_freshNumber] at hn
        cases hn

theorem IsSound.insert_directory (hsound : fs.IsSound) (hl : fs.node? l = none)
    (hparent : fs.isDirectoryAt l.dropLast = true) (modified : Int) :
    (fs.insert l (.directory modified)).IsSound := by
  have hroot : l ≠ [] := by
    rintro rfl
    cases hl
  have hextends := Extends.insert hl (.directory modified)
  refine ⟨?_, fun m hm => ?_, fun m number hm => ?_⟩
  · rw [hextends.base]
    exact hextends.isDirectoryAt hsound.isDirectoryAt_base
  · refine hextends.isDirectoryAt ?_
    by_cases heq : m = l
    · rw [heq]
      exact hparent
    · refine hsound.isDirectoryAt_dropLast m ?_
      have houtline := congrArg Option.isSome (outline_insert fs hroot (.directory modified) m)
      rw [if_neg heq] at houtline
      simpa only [outline, Option.isSome_map, hm] using houtline.symm
  · rw [node?_eq_file_iff_outline, outline_insert fs hroot] at hm
    split at hm
    · cases hm
    · rw [insert, files_stamp]
      exact hsound.isSome_get? m number (node?_eq_file_iff_outline.mpr hm)

theorem isDirectoryAt_of_parentAndName {name? : Option (List Char)}
    (h : fs.parentAndName p = .ok (l, name?)) :
    fs.isDirectoryAt l = true := by
  simp only [parentAndName, bind, Except.bind] at h
  repeat' split at h
  all_goals cases h
  all_goals assumption

/-- A new entry is for a location with nothing in an existing directory. -/
theorem newEntry_eq_ok {isDirectory : Bool} (h : fs.newEntry p isDirectory = .ok l) :
    fs.node? l = none ∧ fs.isDirectoryAt l.dropLast = true := by
  simp only [newEntry, bind, Except.bind] at h
  cases hparent : fs.parentAndName p with
  | error e =>
    rw [hparent] at h
    cases h
  | ok found =>
    obtain ⟨parent, name?⟩ := found
    have hdir := isDirectoryAt_of_parentAndName hparent
    rw [hparent] at h
    cases name? with
    | none => cases h
    | some name =>
      by_cases hname : maxName < Text.byteLength name
      · simp only [entryIn, if_pos hname] at h
        cases h
      simp only [entryIn, if_neg hname] at h
      repeat' split at h
      all_goals cases h
      rename_i hnode _
      rw [List.dropLast_concat]
      exact ⟨Option.not_isSome_iff_eq_none.mp hnode, hdir⟩

theorem createDirectory_eq_ok (h : fs.createDirectory p = .ok fs') :
    ∃ l, fs.node? l = none ∧ fs.isDirectoryAt l.dropLast = true ∧
      fs' = fs.insert l (.directory fs.clock) := by
  simp only [createDirectory, bind, Except.bind] at h
  cases hentry : fs.newEntry p true with
  | error e =>
    rw [hentry] at h
    cases h
  | ok l =>
    rw [hentry] at h
    cases h
    obtain ⟨hl, hparent⟩ := newEntry_eq_ok hentry
    exact ⟨l, hl, hparent, rfl⟩

/-- The second file system is the first one with more directories. -/
structure AddsDirectories (fs fs' : FileSystem) : Prop where
  grows : fs.Extends fs'
  files : fs'.files = fs.files
  isSound : fs.IsSound → fs'.IsSound

namespace AddsDirectories

theorem refl (fs : FileSystem) : fs.AddsDirectories fs :=
  ⟨.refl fs, rfl, id⟩

theorem trans (h : fs.AddsDirectories fs') (h' : fs'.AddsDirectories fs'') :
    fs.AddsDirectories fs'' :=
  ⟨h.grows.trans h'.grows, h'.files.trans h.files, h'.isSound ∘ h.isSound⟩

theorem createDirectory (h : fs.createDirectory p = .ok fs') : fs.AddsDirectories fs' := by
  obtain ⟨l, hl, hparent, rfl⟩ := createDirectory_eq_ok h
  exact ⟨.insert hl _, files_stamp _ _, fun hsound => hsound.insert_directory hl hparent _⟩

/-- Also if not all directories can be made. -/
theorem createNested (fs : FileSystem) (ps : List Path) :
    fs.AddsDirectories (fs.createNested ps).1 := by
  induction ps with
  | nil => exact refl fs
  | cons p above ih =>
    simp only [FileSystem.createNested]
    split
    · -- The directories above come first, and then there is another try.
      split
      · rename_i fs' hnested
        rw [hnested] at ih
        split
        · exact ih.trans (createDirectory ‹_›)
        · exact ih
      · exact ih
    · split
      · exact createDirectory ‹_›
      · exact refl fs

theorem createDirectories (fs : FileSystem) (p : Path) :
    fs.AddsDirectories (fs.createDirectories p).1 :=
  createNested fs p.ancestors

end AddsDirectories

end TimeMarkup.FileSystem
