import TimeMarkup.Proofs.Storage.Places
import TimeMarkup.Storage.FileWatch

/-!
# What writing a file changes

Writing through a path puts a file at the place of the path, where the content is read again.
Through a path that leads to another file nothing else is read than before.
-/

namespace TimeMarkup

theorem Table.get?_eq_none_of_not_mem_keys {κ α : Type} [DecidableEq κ] {t : Table κ α} {k : κ}
    (h : k ∉ t.keys) :
    t.get? k = none := by
  rw [get?, Option.map_eq_none_iff, List.find?_eq_none]
  intro e he hk
  exact h (List.mem_map.mpr ⟨e, he, of_decide_eq_true hk⟩)

def Node.timeless : Node → Node
  | .directory _ => .directory 0
  | .file number => .file number
  | .link target => .link target

namespace FileSystem

/-- What a location has, without the time of a directory. -/
def outline (fs : FileSystem) (l : Location) : Option Node :=
  (fs.node? l).map Node.timeless

section Outline
variable {fs fs' : FileSystem} {l : Location}

theorem isDirectoryAt_iff_outline :
    fs.isDirectoryAt l = true ↔ fs.outline l = some (.directory 0) := by
  simp only [isDirectoryAt, outline]
  cases fs.node? l with
  | none => simp
  | some node => cases node <;> simp [Node.timeless]

theorem node?_eq_file_iff_outline {number : Nat} :
    fs.node? l = some (.file number) ↔ fs.outline l = some (.file number) := by
  simp only [outline]
  cases fs.node? l with
  | none => simp
  | some node => cases node <;> simp [Node.timeless]

theorem node?_eq_link_iff_outline {target : Path} :
    fs.node? l = some (.link target) ↔ fs.outline l = some (.link target) := by
  simp only [outline]
  cases fs.node? l with
  | none => simp
  | some node => cases node <;> simp [Node.timeless]

theorem outline_stamp (fs : FileSystem) (l m : Location) :
    (fs.stamp l).outline m = fs.outline m := by
  simp only [stamp]
  split
  · rename_i modified hl
    simp only [outline, node?]
    split
    · rfl
    · rw [Table.get?_put]
      split
      · rename_i heq
        rw [heq, hl]
        rfl
      · rfl
  · rfl

theorem outline_insert (fs : FileSystem) {l : Location} (hl : l ≠ []) (node : Node) (m : Location) :
    (fs.insert l node).outline m = if m = l then some node.timeless else fs.outline m := by
  rw [insert, outline_stamp]
  simp only [outline, node?, Table.get?_put]
  split
  · rename_i hm
    rw [if_neg (hm ▸ hl.symm)]
  · split <;> simp_all

theorem files_stamp (fs : FileSystem) (l : Location) : (fs.stamp l).files = fs.files := by
  simp only [stamp]
  split <;> rfl

theorem base_stamp (fs : FileSystem) (l : Location) : (fs.stamp l).base = fs.base := by
  simp only [stamp]
  split <;> rfl

end Outline

theorem le_foldl_max (ns : List Nat) (n : Nat) :
    n ≤ ns.foldl max n ∧ ∀ k ∈ ns, k ≤ ns.foldl max n := by
  induction ns generalizing n with
  | nil => simp
  | cons m ns ih =>
    obtain ⟨hle, hall⟩ := ih (max n m)
    refine ⟨by rw [List.foldl_cons]; omega, ?_⟩
    rintro k (_ | ⟨_, hk⟩)
    · rw [List.foldl_cons]
      omega
    · exact hall k hk

theorem get?_freshNumber (fs : FileSystem) : fs.files.get? fs.freshNumber = none := by
  refine Table.get?_eq_none_of_not_mem_keys fun hmem => ?_
  have hle := (le_foldl_max fs.files.keys 0).2 _ hmem
  rw [freshNumber] at hle
  omega

theorem SameTree.symm {fs fs' : FileSystem} (h : fs.SameTree fs') : fs'.SameTree fs where
  base := h.base.symm
  isDirectoryAt l := (h.isDirectoryAt l).symm
  link l target := (h.link l target).symm

theorem Place.of_sameTree {fs fs' : FileSystem} (h : fs.SameTree fs') {p : Path} {l : Location}
    (hp : fs.Place p l) :
    fs'.Place p l := by
  have hplace := IsPlace.of_sameTree h hp
  simp only [Place, start, h.base]
  exact hplace

theorem Place.isDirectoryAt_dropLast {fs : FileSystem} {p : Path} {l : Location}
    (h : fs.Place p l) :
    fs.isDirectoryAt l.dropLast = true := by
  obtain ⟨⟨parent, name, rfl, hparent⟩, -, -⟩ := IsPlace.exists_entry h
  rw [List.dropLast_concat]
  exact hparent

def HasAtMostFile (fs : FileSystem) (l : Location) : Prop :=
  fs.node? l = none ∨ ∃ number, fs.node? l = some (.file number)

theorem HasAtMostFile.outline {fs : FileSystem} {l : Location} (h : fs.HasAtMostFile l) :
    fs.outline l ≠ some (.directory 0) ∧ ∀ target, fs.outline l ≠ some (.link target) := by
  rcases h with h | ⟨number, h⟩ <;> simp [FileSystem.outline, h, Node.timeless]

/-- At the location each of the file systems has a file or nothing; elsewhere they have the same. -/
structure Alters (fs : FileSystem) (l : Location) (fs' : FileSystem) : Prop where
  base : fs'.base = fs.base
  outline : ∀ m, m ≠ l → fs'.outline m = fs.outline m
  before : fs.HasAtMostFile l
  after : fs'.HasAtMostFile l

namespace Alters
variable {fs fs' : FileSystem} {l : Location} (h : fs.Alters l fs')
include h

theorem node?_eq_file_iff {m : Location} (hm : m ≠ l) (n : Nat) :
    fs'.node? m = some (.file n) ↔ fs.node? m = some (.file n) := by
  rw [node?_eq_file_iff_outline, node?_eq_file_iff_outline, h.outline m hm]

theorem isSome_node?_iff {m : Location} (hm : m ≠ l) :
    (fs'.node? m).isSome = (fs.node? m).isSome := by
  have hsome := congrArg Option.isSome (h.outline m hm)
  simpa only [FileSystem.outline, Option.isSome_map] using hsome

/-- Neither before nor after the change the location has a directory or a link. -/
theorem sameTree : fs.SameTree fs' where
  base := h.base
  isDirectoryAt m := by
    rw [Bool.eq_iff_iff, isDirectoryAt_iff_outline, isDirectoryAt_iff_outline]
    by_cases hm : m = l
    · rw [hm]
      exact iff_of_false h.after.outline.1 h.before.outline.1
    · rw [h.outline m hm]
  link m target := by
    rw [node?_eq_link_iff_outline, node?_eq_link_iff_outline]
    by_cases hm : m = l
    · rw [hm]
      exact iff_of_false (h.after.outline.2 target) (h.before.outline.2 target)
    · rw [h.outline m hm]

theorem isSound (hsound : fs.IsSound) (hl : fs.isDirectoryAt l.dropLast = true)
    (hfiles : ∀ m n, fs'.node? m = some (.file n) → (fs'.files.get? n).isSome) : fs'.IsSound where
  isDirectoryAt_base := by
    rw [h.base, h.sameTree.isDirectoryAt]
    exact hsound.isDirectoryAt_base
  isDirectoryAt_dropLast m hm := by
    rw [h.sameTree.isDirectoryAt]
    by_cases heq : m = l
    · rw [heq]
      exact hl
    · rw [h.isSome_node?_iff heq] at hm
      exact hsound.isDirectoryAt_dropLast m hm
  isSome_get? := hfiles

end Alters

/-- The second file system is the first one with a file written at a location. -/
structure Puts (fs : FileSystem) (l : Location) (number : Nat) (stored : Stored)
    (fs' : FileSystem) : Prop where
  base : fs'.base = fs.base
  outline : ∀ m, fs'.outline m = if m = l then some (.file number) else fs.outline m
  stored : ∀ n, fs'.files.get? n = if n = number then some stored else fs.files.get? n
  before : fs.node? l = some (.file number) ∨ fs.node? l = none ∧ number = fs.freshNumber

theorem write_eq_ok {fs fs' : FileSystem} {p : Path} {content : Content}
    (h : fs.write p content = .ok fs') :
    checkPath p = .ok () ∧ ∃ l number, fs.Place p l ∧ fs.Puts l number ⟨content, fs.clock⟩ fs' := by
  simp only [write, bind, Except.bind] at h
  cases hpath : checkPath p with
  | error e => rw [hpath] at h; cases h
  | ok _ =>
    cases hlocation : fs.writeLocation maxLinks (fs.start p) p with
    | error e => simp only [hpath, hlocation] at h; cases h
    | ok l =>
      have hplace := writeLocation_eq_ok_iff.mp hlocation
      obtain ⟨⟨parent, name, hl, -⟩, hfile, hlink⟩ := hplace.exists_entry
      have hroot : l ≠ [] := by simp [hl]
      simp only [hpath, hlocation] at h
      refine ⟨rfl, l, ?_⟩
      cases hnode : fs.node? l with
      | none =>
        simp only [hnode, Except.ok.injEq] at h
        subst h
        refine ⟨fs.freshNumber, hplace, ?_, ?_, ?_, .inr ⟨hnode, rfl⟩⟩
        · rw [insert, base_stamp]
        · exact outline_insert _ hroot _
        · intro n
          rw [insert, files_stamp]
          exact Table.get?_put _ _ _ _
      | some node =>
        cases node with
        | directory modified =>
          exact absurd (isDirectoryAt_iff.mpr ⟨modified, hnode⟩) (by simp [hfile])
        | link target => exact absurd hnode (hlink target)
        | file number =>
          simp only [hnode, Except.ok.injEq] at h
          subst h
          refine ⟨number, hplace, rfl, ?_, fun n => Table.get?_put _ _ _ _, .inl hnode⟩
          intro m
          split
          · rename_i hm
            exact hm ▸ node?_eq_file_iff_outline.mp hnode
          · rfl

namespace Puts
variable {fs fs' : FileSystem} {l : Location} {number : Nat} {stored : Stored}
  (h : fs.Puts l number stored fs')
include h

theorem node?_self : fs'.node? l = some (.file number) :=
  node?_eq_file_iff_outline.mpr (by rw [h.outline, if_pos rfl])

theorem alters : fs.Alters l fs' where
  base := h.base
  outline m hm := by rw [h.outline, if_neg hm]
  before := h.before.elim (fun hl => .inr ⟨number, hl⟩) fun hl => .inl hl.1
  after := .inr ⟨number, h.node?_self⟩

theorem isSound (hsound : fs.IsSound) (hl : fs.isDirectoryAt l.dropLast = true) : fs'.IsSound := by
  refine h.alters.isSound hsound hl fun m n hm => ?_
  rw [h.stored]
  split
  · rfl
  · rename_i hn
    refine hsound.isSome_get? m n ?_
    by_cases heq : m = l
    · rw [heq, h.node?_self] at hm
      cases hm
      exact absurd rfl hn
    · exact (h.alters.node?_eq_file_iff heq n).mp hm

theorem lookup_self {p : Path} (hpath : checkPath p = .ok ()) (hplace : fs.Place p l) :
    fs'.lookup p = .ok (.file number) :=
  lookup_eq_ok_iff.mpr ⟨hpath, l, (hplace.of_sameTree h.alters.sameTree).follow h.node?_self,
    h.node?_self⟩

theorem modified?_self {p : Path} (hpath : checkPath p = .ok ()) (hplace : fs.Place p l) :
    fs'.modified? p = some stored.modified := by
  simp only [modified?, h.lookup_self hpath hplace, h.stored, if_true, Option.map_some]

end Puts

/-- The paths lead to different files: to different places, which do not have one file under two
names. -/
def Apart (fs : FileSystem) (p q : Path) : Prop :=
  ∀ l m, fs.Place p l → fs.Place q m →
    l ≠ m ∧ ∀ number, fs.node? l = some (.file number) → fs.node? m ≠ some (.file number)

theorem Apart.symm {fs : FileSystem} {p q : Path} (h : fs.Apart p q) : fs.Apart q p := by
  intro l m hl hm
  obtain ⟨hne, hfile⟩ := h m l hm hl
  exact ⟨hne.symm, fun number hnode hnode' => hfile number hnode' hnode⟩

theorem read_eq_ok_iff {fs : FileSystem} {p : Path} {c : Content} :
    fs.read p = .ok c ↔
      ∃ n stored, fs.lookup p = .ok (.file n) ∧ fs.files.get? n = some stored ∧
        stored.content = c := by
  simp only [read, bind, Except.bind]
  cases fs.lookup p with
  | error e => simp
  | ok node =>
    cases node with
    | file n => cases hget : fs.files.get? n <;> simp [hget]
    | _ => simp

theorem readText_eq_ok_iff {fs : FileSystem} {p : Path} {text : List Char} :
    fs.readText p = .ok text ↔ fs.read p = .ok (.text text) := by
  simp only [readText, bind, Except.bind]
  cases fs.read p with
  | error e => simp
  | ok c => cases c <;> simp

theorem modified?_of_lookup {fs : FileSystem} {p : Path} {n : Nat}
    (h : fs.lookup p = .ok (.file n)) :
    fs.modified? p = (fs.files.get? n).map Stored.modified := by
  simp only [modified?, h]

section Frame
variable {fs fs' : FileSystem} {p q : Path} {l : Location} (hsound : fs.IsSound)
  (hsound' : fs'.IsSound) (hapart : fs.Apart p q) (hplace : fs.Place q l)

namespace Alters
variable (h : fs.Alters l fs')
  (hfiles : ∀ n, fs.lookup p = .ok (.file n) → fs'.files.get? n = fs.files.get? n)
include hsound hsound' hapart hplace h

theorem lookup_eq_file_iff (n : Nat) :
    fs'.lookup p = .ok (.file n) ↔ fs.lookup p = .ok (.file n) := by
  rw [FileSystem.lookup_eq_file_iff hsound, FileSystem.lookup_eq_file_iff hsound']
  refine and_congr_right fun _ => exists_congr fun m => ?_
  constructor
  · rintro ⟨hm, hn⟩
    have hm' := hm.of_sameTree h.sameTree.symm
    exact ⟨hm', (h.node?_eq_file_iff (hapart m l hm' hplace).1 n).mp hn⟩
  · rintro ⟨hm, hn⟩
    exact ⟨hm.of_sameTree h.sameTree, (h.node?_eq_file_iff (hapart m l hm hplace).1 n).mpr hn⟩

include hfiles

theorem read_iff (c : Content) : fs'.read p = .ok c ↔ fs.read p = .ok c := by
  rw [read_eq_ok_iff, read_eq_ok_iff]
  refine exists_congr fun n => exists_congr fun stored => ?_
  rw [h.lookup_eq_file_iff hsound hsound' hapart hplace]
  refine and_congr_right fun hn => ?_
  rw [hfiles n hn]

theorem modified?_of_read {c : Content} (hc : fs.read p = .ok c) :
    fs'.modified? p = fs.modified? p := by
  obtain ⟨n, stored, hn, -, -⟩ := read_eq_ok_iff.mp hc
  have hn' := (h.lookup_eq_file_iff hsound hsound' hapart hplace n).mpr hn
  rw [modified?_of_lookup hn, modified?_of_lookup hn', hfiles n hn]

end Alters

namespace Puts
variable {number : Nat} {stored : Stored} (h : fs.Puts l number stored fs')

include hsound h in
/-- A file that is not the one at the place has another number than the file that is put there. -/
theorem ne_number_of_node? {m : Location} {n : Nat} (hn : fs.node? m = some (.file n))
    (hl : fs.node? l ≠ some (.file n)) : n ≠ number := by
  rintro rfl
  rcases h.before with hl' | ⟨-, hfresh⟩
  · exact hl hl'
  · have hstored := hsound.isSome_get? m n hn
    rw [hfresh, get?_freshNumber] at hstored
    cases hstored

include hsound hapart hplace h

/-- A file at another place has another number than the file that is put. -/
theorem ne_number {m : Location} {n : Nat} (hm : fs.Place p m) (hn : fs.node? m = some (.file n)) :
    n ≠ number :=
  h.ne_number_of_node? hsound hn ((hapart m l hm hplace).2 n hn)

theorem get?_of_lookup (n : Nat) (hn : fs.lookup p = .ok (.file n)) :
    fs'.files.get? n = fs.files.get? n := by
  obtain ⟨-, m, hm, hnode⟩ := (FileSystem.lookup_eq_file_iff hsound).mp hn
  rw [h.stored, if_neg (h.ne_number hsound hapart hplace hm hnode)]

theorem read_iff (c : Content) : fs'.read p = .ok c ↔ fs.read p = .ok c :=
  h.alters.read_iff hsound (h.isSound hsound hplace.isDirectoryAt_dropLast) hapart hplace
    (h.get?_of_lookup hsound hapart hplace) c

theorem modified?_of_read {c : Content} (hc : fs.read p = .ok c) :
    fs'.modified? p = fs.modified? p :=
  h.alters.modified?_of_read hsound (h.isSound hsound hplace.isDirectoryAt_dropLast) hapart hplace
    (h.get?_of_lookup hsound hapart hplace) hc

theorem apart : fs'.Apart p q := by
  intro m m' hm hm'
  have hm := hm.of_sameTree h.alters.sameTree.symm
  have hl : m' = l := (hm'.of_sameTree h.alters.sameTree.symm).unique hplace
  have hne := (hapart m l hm hplace).1
  refine ⟨hl ▸ hne, fun n hn hn' => ?_⟩
  rw [hl, h.node?_self] at hn'
  cases hn'
  exact h.ne_number hsound hapart hplace hm ((h.alters.node?_eq_file_iff hne number).mp hn) rfl

end Puts
end Frame

section Write
variable {fs fs' : FileSystem} {p q : Path} {content : Content}

theorem write_of_place {l : Location} (hpath : checkPath p = .ok ()) (hplace : fs.Place p l)
    (content : Content) :
    ∃ fs', fs.write p content = .ok fs' := by
  have hlocation : fs.writeLocation maxLinks (fs.start p) p = .ok l :=
    writeLocation_eq_ok_iff.mpr hplace
  simp only [write, bind, Except.bind, hpath, hlocation]
  split <;> exact ⟨_, rfl⟩

/-- What has been written is read through the same path, with the time of the change. -/
theorem read_of_write (h : fs.write p content = .ok fs') : fs'.read p = .ok content := by
  obtain ⟨hpath, l, n, hplace, hputs⟩ := write_eq_ok h
  exact read_eq_ok_iff.mpr ⟨n, _, hputs.lookup_self hpath hplace, by rw [hputs.stored, if_pos rfl],
    rfl⟩

theorem modified?_of_write (h : fs.write p content = .ok fs') :
    fs'.modified? p = some fs.clock := by
  obtain ⟨hpath, l, n, hplace, hputs⟩ := write_eq_ok h
  exact hputs.modified?_self hpath hplace

theorem IsSound.write (hsound : fs.IsSound) (h : fs.write p content = .ok fs') : fs'.IsSound := by
  obtain ⟨-, l, n, hplace, hputs⟩ := write_eq_ok h
  exact hputs.isSound hsound hplace.isDirectoryAt_dropLast

variable (hsound : fs.IsSound) (hapart : fs.Apart p q) (h : fs.write q content = .ok fs')
include hsound hapart h

theorem read_write_iff (c : Content) : fs'.read p = .ok c ↔ fs.read p = .ok c := by
  obtain ⟨-, l, n, hplace, hputs⟩ := write_eq_ok h
  exact hputs.read_iff hsound hapart hplace c

theorem modified?_write {c : Content} (hc : fs.read p = .ok c) :
    fs'.modified? p = fs.modified? p := by
  obtain ⟨-, l, n, hplace, hputs⟩ := write_eq_ok h
  exact hputs.modified?_of_read hsound hapart hplace hc

theorem Apart.write : fs'.Apart p q := by
  obtain ⟨-, l, n, hplace, hputs⟩ := write_eq_ok h
  exact hputs.apart hsound hapart hplace

end Write

section SameFile
variable {fs : FileSystem} {w : FileWatch} {c : Content}

/-- A file that can be read has changed if its modification time is another one than the time that
was seen. -/
theorem hasChanged_iff (h : fs.read w.path = .ok c) :
    w.hasChanged fs = true ↔ w.seen ≠ fs.modified? w.path := by
  obtain ⟨n, stored, hlookup, hstored, -⟩ := read_eq_ok_iff.mp h
  rw [FileWatch.hasChanged, modified?_of_lookup hlookup, hstored]
  simp only [Option.map_some, Option.isSome_some, Bool.true_and, decide_eq_true_eq]
  exact ne_comm

theorem isSameFile_self (h : fs.read w.path = .ok c) : w.isSameFile fs w.path = true := by
  obtain ⟨n, stored, hlookup, -, -⟩ := read_eq_ok_iff.mp h
  obtain ⟨l, hl⟩ := Option.isSome_iff_exists.mp (isSome_canonical?_of_lookup hlookup)
  simp only [FileWatch.isSameFile, hl, beq_self_eq_true]

/-- A file that another path leads to is at the place of that path alone. -/
theorem isSameFile_of_apart (hsound : fs.IsSound) {q : Path} (hapart : fs.Apart w.path q)
    (h : fs.read q = .ok c) :
    w.isSameFile fs q = false := by
  obtain ⟨n, stored, hlookup, -, -⟩ := read_eq_ok_iff.mp h
  obtain ⟨-, m, hm, hnode⟩ := (lookup_eq_file_iff hsound).mp hlookup
  rw [FileWatch.isSameFile]
  split
  · rename_i l m' hl hm'
    have hfollow := follow_of_canonical? hm'
    rw [hm.follow hnode] at hfollow
    cases hfollow
    rw [beq_eq_false_iff_ne]
    rintro rfl
    have hplace := place_of_follow hsound (follow_of_canonical? hl) hnode
    exact (hapart l l hplace hm).1 rfl
  · rfl

end SameFile

end FileSystem
end TimeMarkup
