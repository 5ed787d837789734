import TimeMarkup.Command.Run
import TimeMarkup.Proofs.Storage.Growth

/-!
# What opening the log changes

Directories are made for the log, and a file if there is none for the day. Everything else is as it
was, also if the log cannot be opened.
-/

namespace TimeMarkup

/-- The second file system is the first one with more directories and at most one more file, to
which the path leads. -/
structure MakesRoom (p : Path) (fs fs' : FileSystem) : Prop where
  grows : fs.Extends fs'
  isSound : fs.IsSound → fs'.IsSound
  stored : ∀ n, fs'.files.get? n ≠ fs.files.get? n → fs'.lookup p = .ok (.file n)

namespace MakesRoom
variable {fs fs' fs'' : FileSystem} {p : Path}

/-- A file is added when it is written through a path that leads nowhere. -/
theorem write {content : Content} (h : fs.AddsDirectories fs') (hexists : fs'.exists? p = false)
    (hwrite : fs'.write p content = .ok fs'') : MakesRoom p fs fs'' := by
  obtain ⟨hpath, l, number, hplace, hputs⟩ := FileSystem.write_eq_ok hwrite
  have hl : fs'.node? l = none := by
    refine hputs.before.elim (fun hfile => ?_) And.left
    have hlookup := FileSystem.lookup_eq_ok_iff.mpr ⟨hpath, l, hplace.follow hfile, hfile⟩
    cases hexists.symm.trans (FileSystem.exists?_iff.mpr ⟨_, hlookup⟩)
  refine ⟨h.grows.trans (hputs.extends hl), fun hsound => ?_, fun n hn => ?_⟩
  · exact hputs.isSound (h.isSound hsound) hplace.isDirectoryAt_dropLast
  · rw [hputs.stored, h.files] at hn
    split at hn
    · rename_i heq
      rw [heq]
      exact hputs.lookup_self hpath hplace
    · exact absurd rfl hn

end MakesRoom

namespace Run

end Run

end TimeMarkup
