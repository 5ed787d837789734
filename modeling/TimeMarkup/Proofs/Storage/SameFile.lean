import TimeMarkup.Proofs.Storage.Aliasing
import TimeMarkup.Proofs.Storage.Overwriting

/-!
# Whether two paths lead to one file

A watch takes paths for the same file if they lead to one place. Writing through a path changes what
is read through another one if both lead to one file, which may have places of several names.
-/

namespace TimeMarkup.FileSystem

theorem isFile_iff {fs : FileSystem} {p : Path} :
    fs.isFile p = true ↔ ∃ number, fs.lookup p = .ok (.file number) := by
  simp only [isFile]
  split <;> simp_all

section Places
variable {fs : FileSystem} {w : FileWatch} {q : Path} {l m : Location} {number n : Nat}
  (hl : fs.Place w.path l) (hnumber : fs.node? l = some (.file number)) (hm : fs.Place q m)
  (hn : fs.node? m = some (.file n))
include hl hnumber hm hn

theorem isSameFile_iff_of_place (hwatched : checkPath w.path = .ok ())
    (hpath : checkPath q = .ok ()) :
    w.isSameFile fs q = true ↔ l = m := by
  simp only [FileWatch.isSameFile, canonical?_of_place hwatched hl hnumber,
    canonical?_of_place hpath hm hn, beq_iff_eq]

theorem unlinked_iff_of_place : fs.Unlinked w.path q ↔ (number = n → l = m) := by
  constructor
  · rintro hunlinked rfl
    refine Decidable.byContradiction fun hne => ?_
    exact hunlinked l m hl hm hne number hnumber hn
  · intro hplaces l' m' hl' hm' hne k hk hk'
    obtain rfl := hl'.unique hl
    obtain rfl := hm'.unique hm
    rw [hnumber] at hk
    rw [hn] at hk'
    cases hk
    cases hk'
    exact hne (hplaces rfl)

end Places

/-- What is read through a path changes with writing through another one just if both lead to the
same file. -/
theorem exists_write_read_ne_iff {fs : FileSystem} (hsound : fs.IsSound) {p q : Path}
    {number n : Nat} (hp : fs.lookup p = .ok (.file number)) (hq : fs.lookup q = .ok (.file n))
    {c : Content} (hc : fs.read p ≠ .ok c) :
    ∃ fs', fs.write q c = .ok fs' ∧ (fs'.read p ≠ fs.read p ↔ number = n) := by
  refine ⟨_, write_eq_overwrite hsound hq c, ?_⟩
  by_cases heq : number = n
  · rw [read_overwrite_self (heq ▸ hp) c]
    exact iff_of_true hc.symm heq
  · have hne : fs.lookup p ≠ .ok (.file n) := by
      rw [hp]
      rintro ⟨⟩
      exact heq rfl
    rw [read_overwrite_of_ne hne c]
    exact iff_of_false (fun h => h rfl) heq

/-- A watch finds out whether writing through a path changes what is read through the watched one,
just if the two do not lead to one file under different names. -/
theorem unlinked_iff_isSameFile_iff_read_changes {fs : FileSystem} (hsound : fs.IsSound)
    {w : FileWatch} {q : Path} (hw : fs.isFile w.path = true) (hq : fs.isFile q = true) :
    fs.Unlinked w.path q ↔ ∀ c, fs.read w.path ≠ .ok c →
      ∃ fs', fs.write q c = .ok fs' ∧
        (w.isSameFile fs q = true ↔ fs'.read w.path ≠ fs.read w.path) := by
  obtain ⟨number, hw⟩ := isFile_iff.mp hw
  obtain ⟨n, hq⟩ := isFile_iff.mp hq
  obtain ⟨hwatched, l, hl, hnumber⟩ := (lookup_eq_file_iff hsound).mp hw
  obtain ⟨hpath, m, hm, hn⟩ := (lookup_eq_file_iff hsound).mp hq
  have hsame := isSameFile_iff_of_place hl hnumber hm hn hwatched hpath
  have hplace : l = m → number = n := by
    rintro rfl
    rw [hnumber] at hn
    cases hn
    rfl
  rw [unlinked_iff_of_place hl hnumber hm hn]
  constructor
  · intro hunlinked c hc
    obtain ⟨fs', hwrite, hchanges⟩ := exists_write_read_ne_iff hsound hw hq hc
    refine ⟨fs', hwrite, ?_⟩
    rw [hsame, hchanges]
    exact ⟨hplace, hunlinked⟩
  · intro htells heq
    -- Of two contents at least one is not the one that is there.
    obtain ⟨c, hc⟩ : ∃ c, fs.read w.path ≠ .ok c := by
      by_cases hempty : fs.read w.path = .ok (.text [])
      · refine ⟨.text ['a'], ?_⟩
        rw [hempty]
        exact nofun
      · exact ⟨_, hempty⟩
    obtain ⟨fs', hwrite, hiff⟩ := htells c hc
    obtain ⟨fs'', hwrite', hchanges⟩ := exists_write_read_ne_iff hsound hw hq hc
    rw [hwrite] at hwrite'
    cases hwrite'
    rw [← hsame, hiff, hchanges]
    exact heq

/-- An empty file with the names `a` and `b`, and a link `c` to the first of them. -/
def namedTwice : FileSystem where
  nodes := .put (.put (.put .empty [['a']] (.file 1)) [['b']] (.file 1)) [['c']] (.link ['a'])
  files := .put .empty 1 ⟨.text [], 1⟩
  base := []
  clock := 2

theorem isSound_namedTwice : namedTwice.IsSound :=
  isSound_of_isFlat (by decide)

theorem place_a : namedTwice.Place ['a'] [['a']] :=
  place_of_entry rfl rfl (by decide) rfl nofun

theorem place_b : namedTwice.Place ['b'] [['b']] :=
  place_of_entry rfl rfl (by decide) rfl nofun

theorem place_c : namedTwice.Place ['c'] [['a']] := by
  have hlink : Path.steps ['c'] = [] ++ [.entry ['c']] := rfl
  have htarget : Path.steps ['a'] = [] ++ [.entry ['a']] := rfl
  exact .link hlink .done rfl (by decide) rfl (.entry htarget .done rfl (by decide) rfl nofun)

theorem lookup_namedTwice {p : Path} (hp : p = ['a'] ∨ p = ['b'] ∨ p = ['c']) :
    namedTwice.lookup p = .ok (.file 1) := by
  rw [lookup_eq_file_iff isSound_namedTwice]
  rcases hp with rfl | rfl | rfl
  · exact ⟨rfl, _, place_a, rfl⟩
  · exact ⟨rfl, _, place_b, rfl⟩
  · exact ⟨rfl, _, place_c, rfl⟩

/-- Through the link the watch takes the paths for one file, and writing changes what is read. -/
theorem isSameFile_link :
    (⟨['a'], none⟩ : FileWatch).isSameFile namedTwice ['c'] = true ∧
      ∃ fs', namedTwice.write ['c'] (.text ['x']) = .ok fs' ∧
        fs'.read ['a'] ≠ namedTwice.read ['a'] := by
  have ha := lookup_namedTwice (.inl rfl)
  have hc := lookup_namedTwice (.inr (.inr rfl))
  have hread : namedTwice.read ['a'] = .ok (.text []) :=
    read_eq_ok_iff.mpr ⟨1, ⟨.text [], 1⟩, ha, rfl, rfl⟩
  have hunlinked : namedTwice.Unlinked ['a'] ['c'] := by
    intro l m hl hm hne
    exact absurd ((hl.unique place_a).trans (hm.unique place_c).symm) hne
  have hsame : (⟨['a'], none⟩ : FileWatch).isSameFile namedTwice ['c'] = true :=
    (isSameFile_iff_of_place place_a rfl place_c rfl rfl rfl).mpr rfl
  have htells := (unlinked_iff_isSameFile_iff_read_changes isSound_namedTwice (w := ⟨['a'], none⟩)
    (isFile_iff.mpr ⟨1, ha⟩) (isFile_iff.mpr ⟨1, hc⟩)).mp hunlinked
  obtain ⟨fs', hwrite, hiff⟩ := htells (.text ['x']) (by rw [hread]; exact nofun)
  exact ⟨hsame, fs', hwrite, hiff.mp hsame⟩

/-- Under its other name the file is not taken for the watched one, and yet writing changes what is
read. -/
theorem not_isSameFile_hardLink :
    namedTwice.isFile ['a'] = true ∧ namedTwice.isFile ['b'] = true ∧
      (⟨['a'], none⟩ : FileWatch).isSameFile namedTwice ['b'] = false ∧
      namedTwice.read ['a'] = .ok (.text []) ∧
      ∃ fs', namedTwice.write ['b'] (.text ['x']) = .ok fs' ∧
        fs'.read ['a'] = .ok (.text ['x']) := by
  have ha := lookup_namedTwice (.inl rfl)
  have hb := lookup_namedTwice (.inr (.inl rfl))
  have hother : (⟨['a'], none⟩ : FileWatch).isSameFile namedTwice ['b'] ≠ true := by
    rw [Ne, isSameFile_iff_of_place place_a rfl place_b rfl rfl rfl]
    decide
  exact ⟨isFile_iff.mpr ⟨1, ha⟩, isFile_iff.mpr ⟨1, hb⟩, Bool.eq_false_iff.mpr hother,
    read_eq_ok_iff.mpr ⟨1, ⟨.text [], 1⟩, ha, rfl, rfl⟩, _,
    write_eq_overwrite isSound_namedTwice hb _, read_overwrite_self ha _⟩

end TimeMarkup.FileSystem
