import TimeMarkup.Proofs.Storage.Aliasing
import TimeMarkup.Proofs.Watching.InPlace

/-!
# How often a watch finds a change

Each pass of a watch writes the output, which may be the input under the same or another path. The
watch takes that as seen, so that it finds at most as many changes as others have made: as long as
the input is not replaced, touched or made again, it is bound once and for all.
-/

namespace TimeMarkup.Watching.Polls
open FileSystem (IsSound Unlinked)

/-- A watch that goes on, the session it goes on in, in how many polls it has found a change, and
how often others have replaced, touched or made its input again. -/
structure Tally where
  state : WatchState
  session : Session
  found : Nat
  changes : Nat

/-- The next step of the watch is a poll that finds a change. -/
def finds (w : WatchState) (fs : FileSystem) : Bool :=
  match w.phase with
  | .poll => w.watch.hasChanged fs
  | _ => false

namespace Tally

def advance (t : WatchTask) (clock : Instant) (r : Tally) : Tally where
  state := (t.step clock r.state r.session).1
  session := (t.step clock r.state r.session).2
  found := r.found + (finds r.state r.session.fs).toNat
  changes := r.changes

/-- The tally after others have changed the input. If there is none then, it was removed, and this
does not count. -/
def interrupted (t : WatchTask) (fs : FileSystem) (r : Tally) : Tally :=
  { r with
    session := { r.session with fs := fs }
    changes := r.changes + (fs.modified? t.input).isSome.toNat }

end Tally

inductive Step (t : WatchTask) : Tally → Tally → Prop
  | own (clock : Instant) (r : Tally) : Step t r (r.advance t clock)
  | foreign {r : Tally} {fs : FileSystem} (hsound : fs.IsSound)
      (hunlinked : fs.Unlinked t.input t.output) :
      Step t r (r.interrupted t fs)

inductive Reachable (t : WatchTask) : Tally → Prop
  | initial {s : Session} (hsound : s.fs.IsSound) (hunlinked : s.fs.Unlinked t.input t.output) :
      Reachable t ⟨t.initial, s, 0, 0⟩
  | step {r r' : Tally} (h : Reachable t r) (hstep : Step t r r') : Reachable t r'

namespace Step
variable {t : WatchTask} {r : Tally} {fs : FileSystem} (hsound : r.session.fs.IsSound)
  (hunlinked : r.session.fs.Unlinked t.input t.output)

include hsound in
theorem removed {number : Nat} (hentry : r.session.fs.lookupEntry t.input = .ok (.file number))
    (h : r.session.fs.remove t.input = .ok fs) :
    Step t r { r with session := { r.session with fs := fs } } := by
  obtain ⟨l, hplace, hdrops⟩ := FileSystem.remove_eq_ok hentry h
  have hstep : Step t r (r.interrupted t fs) :=
    .foreign (hdrops.isSound hsound hplace.isDirectoryAt_dropLast) (hdrops.unlinked hplace).symm
  rwa [Tally.interrupted, hdrops.modified?_self hplace] at hstep

include hsound hunlinked

theorem of_puts {l : Location} {number : Nat} {stored : Stored}
    (hpath : FileSystem.checkPath t.input = .ok ()) (hplace : r.session.fs.Place t.input l)
    (h : r.session.fs.Puts l number stored fs) :
    Step t r { r with session := { r.session with fs := fs }, changes := r.changes + 1 } := by
  have hstep : Step t r (r.interrupted t fs) :=
    .foreign (h.isSound hsound hplace.isDirectoryAt_dropLast)
      (h.unlinked hsound hunlinked.symm hplace).symm
  rwa [Tally.interrupted, h.modified?_self hpath hplace] at hstep

/-- The input is replaced, or made again. -/
theorem replaced {content : Content} (h : r.session.fs.write t.input content = .ok fs) :
    Step t r { r with session := { r.session with fs := fs }, changes := r.changes + 1 } := by
  obtain ⟨hpath, l, number, hplace, hputs⟩ := FileSystem.write_eq_ok h
  exact of_puts hsound hunlinked hpath hplace hputs

theorem touched {c : Content} {modified : Int} (hread : r.session.fs.read t.input = .ok c)
    (h : r.session.fs.setModified t.input modified = .ok fs) :
    Step t r { r with session := { r.session with fs := fs }, changes := r.changes + 1 } := by
  obtain ⟨hpath, l, number, hplace, hputs⟩ := FileSystem.setModified_eq_ok hsound hread h
  exact of_puts hsound hunlinked hpath hplace hputs

end Step

/-- The changes found, and one more if a poll would find one now, are at most as many as others have
made. -/
def Covered (w : WatchState) (fs : FileSystem) (found changes : Nat) : Prop :=
  found + (w.watch.hasChanged fs).toNat ≤ changes

/-- While the watch writes and has not looked at the input since, a poll could find its own
writing. -/
def Bounded (t : WatchTask) (w : WatchState) (fs : FileSystem) (found changes : Nat) : Prop :=
  match w.phase with
  | .bind _ | .announce _ _ | .poll => Covered w fs found changes
  | .write _ _ => Covered w fs found changes ∧ (fs.isDirectory t.input = true → found + 1 ≤ changes)
  | .compare _ _ =>
    found ≤ changes ∧ (w.watch.isSameFile fs t.output = false → Covered w fs found changes)
  | .start | .refresh _ _ | .failed _ => found ≤ changes

structure Invariant (t : WatchTask) (w : WatchState) (fs : FileSystem) (found changes : Nat) :
    Prop where
  isSound : fs.IsSound
  unlinked : fs.Unlinked t.input t.output
  path : w.watch.path = t.input
  bounded : Bounded t w fs found changes

/-- A watch that waits has made one pass more than it has found changes, at most. -/
structure Accounted (w : WatchState) (found : Nat) : Prop where
  passes : w.passes ≤ found + (WatchTask.isIdle w).toNat
  rebinds : w.phase = .bind .afterSwap → 0 < found

theorem isSome_modified?_of_isDirectory {fs : FileSystem} {p : Path} (h : fs.isDirectory p = true) :
    (fs.modified? p).isSome = true := by
  simp only [FileSystem.isDirectory] at h
  split at h
  · rename_i modified hlookup
    simp only [FileSystem.modified?, hlookup, Option.isSome_some]
  · cases h

theorem not_isDirectory_of_read {fs : FileSystem} {p : Path} {c : Content} (h : fs.read p = .ok c) :
    fs.isDirectory p = false := by
  obtain ⟨n, stored, hlookup, -, -⟩ := FileSystem.read_eq_ok_iff.mp h
  simp only [FileSystem.isDirectory, hlookup]

theorem toNat_hasChanged_le (w : FileWatch) (fs : FileSystem) :
    (w.hasChanged fs).toNat ≤ (fs.modified? w.path).isSome.toNat := by
  rw [FileWatch.hasChanged]
  cases (fs.modified? w.path).isSome with
  | false => simp
  | true => exact Bool.toNat_le _

namespace Invariant
variable {t : WatchTask} {now : Instant} {w w' : WatchState} {fs fs' : FileSystem}
  {found changes : Nat}

theorem found_le (h : Invariant t w fs found changes) : found ≤ changes := by
  have hbounded := h.bounded
  cases hphase : w.phase with
  | write trigger b =>
    simp only [Bounded, Covered, hphase] at hbounded
    omega
  | compare trigger b =>
    simp only [Bounded, hphase] at hbounded
    exact hbounded.1
  | _ =>
    simp only [Bounded, Covered, hphase] at hbounded
    omega

/-- A change by others adds one to what a poll may find, and counts, unless the input is gone. -/
theorem foreign (h : Invariant t w fs found changes) (hsound : fs'.IsSound)
    (hunlinked : fs'.Unlinked t.input t.output) :
    Invariant t w fs' found (changes + (fs'.modified? t.input).isSome.toNat) where
  isSound := hsound
  unlinked := hunlinked
  path := h.path
  bounded := by
    have hle := h.found_le
    have hchanged := toNat_hasChanged_le w.watch fs'
    rw [h.path] at hchanged
    have hcovered : Covered w fs' found (changes + (fs'.modified? t.input).isSome.toNat) := by
      rw [Covered]
      omega
    cases hphase : w.phase with
    | write trigger b =>
      simp only [Bounded, hphase]
      refine ⟨hcovered, fun hdir => ?_⟩
      rw [isSome_modified?_of_isDirectory hdir]
      exact Nat.add_le_add_right hle 1
    | compare trigger b =>
      simp only [Bounded, hphase]
      exact ⟨Nat.le_add_right_of_le hle, fun _ => hcovered⟩
    | bind trigger => simp only [Bounded, hphase]; exact hcovered
    | announce trigger b => simp only [Bounded, hphase]; exact hcovered
    | poll => simp only [Bounded, hphase]; exact hcovered
    | _ =>
      simp only [Bounded, hphase]
      exact Nat.le_add_right_of_le hle

/-- The watch goes on with the files as they are, other than by a poll. -/
theorem goOn (h : Invariant t w fs found changes) {phase : WatchPhase} (hphase : w.phase = phase)
    (hpoll : phase ≠ .poll) (hpath : w'.watch.path = t.input)
    (hbounded : Bounded t w' fs found changes) :
    Invariant t w' fs (found + (finds w fs).toNat) changes := by
  have hnone : finds w fs = false := by
    rw [finds, hphase]
    cases phase with
    | poll => exact absurd rfl hpoll
    | _ => rfl
  rw [hnone]
  exact ⟨h.isSound, h.unlinked, hpath, hbounded⟩

/-- What the watch has just looked at has not changed. -/
theorem covered_of_seen {watch : FileWatch} {phase : WatchPhase} {passes : Nat}
    (hwatch : watch.hasChanged fs = false) (hle : found ≤ changes) :
    Covered ⟨watch, phase, passes⟩ fs found changes := by
  rw [Covered, hwatch]
  exact hle

/-- The output is written: it is the input, which will be found out, or the input has the time that
it had. -/
theorem write {trigger : Trigger} {b : BoundFile} (h : Invariant t w fs found changes)
    (hphase : w.phase = .write trigger b) (hwrite : fs.write t.output (.text b.html) = .ok fs') :
    Invariant t { w with phase := .compare trigger b } fs' found changes := by
  have hle := h.found_le
  have hbounded := h.bounded
  simp only [Bounded, hphase] at hbounded
  obtain ⟨hcovered, hdirectory⟩ := hbounded
  refine ⟨h.isSound.write hwrite, h.unlinked.write h.isSound hwrite, h.path, hle, fun hother => ?_⟩
  have hwatched : fs.Unlinked w.watch.path t.output := h.path ▸ h.unlinked
  rcases FileSystem.modified?_write_of_unlinked h.isSound hwatched hwrite
    with hsame | hdir | hgone | hkept
  · rw [hsame] at hother
    cases hother
  · -- Others have put a directory where the text was read from, and that counts.
    exact Nat.le_trans (Nat.add_le_add_left (Bool.toNat_le _) found) (hdirectory (h.path ▸ hdir))
  · simpa [Covered, FileWatch.hasChanged, hgone] using hle
  · simpa only [Covered, FileWatch.hasChanged, hkept] using hcovered

theorem moves (h : Invariant t w fs found changes) (hmove : t.Moves now w fs w' fs') :
    Invariant t w' fs' (found + (finds w fs).toNat) changes := by
  have hle := h.found_le
  have hbounded := h.bounded
  cases hmove with
  | start hphase =>
    exact h.goOn hphase nofun rfl (covered_of_seen (FileWatch.hasChanged_start fs t.input) hle)
  | bound hphase hread =>
    simp only [Bounded, hphase] at hbounded
    refine h.goOn hphase nofun h.path ⟨hbounded, fun hdir => ?_⟩
    rw [not_isDirectory_of_read (FileSystem.readText_eq_ok_iff.mp hread)] at hdir
    cases hdir
  | unbound hphase hread hnext =>
    simp only [Bounded, hphase] at hbounded
    rcases hnext with rfl | ⟨o, rfl⟩
    · exact h.goOn hphase nofun h.path hbounded
    · exact h.goOn hphase nofun h.path hle
  | written hphase hwrite =>
    simp only [finds, hphase, Bool.toNat_false, Nat.add_zero]
    exact h.write hphase hwrite
  | unwritten hphase hwrite => exact h.goOn hphase nofun h.path hle
  | same hphase hsame => exact h.goOn hphase nofun h.path hle
  | other hphase hother =>
    simp only [Bounded, hphase] at hbounded
    exact h.goOn hphase nofun h.path (hbounded.2 hother)
  | refresh hphase =>
    exact h.goOn hphase nofun h.path (covered_of_seen (FileWatch.hasChanged_refresh fs w.watch) hle)
  | announce hphase =>
    simp only [Bounded, hphase] at hbounded
    exact h.goOn hphase nofun h.path hbounded
  | changed hphase hchanged =>
    -- The change that the poll finds was covered already.
    simp only [Bounded, Covered, hphase, hchanged] at hbounded
    simp only [finds, hphase, hchanged]
    exact ⟨h.isSound, h.unlinked, h.path,
      covered_of_seen (FileWatch.hasChanged_refresh fs w.watch) hbounded⟩
  | unchanged hphase hchanged =>
    simp only [finds, hphase, hchanged, Bool.toNat_false, Nat.add_zero]
    exact ⟨h.isSound, h.unlinked, h.path,
      covered_of_seen (FileWatch.hasChanged_refresh fs w.watch) hle⟩
  | failed hphase => exact h.goOn hphase nofun h.path hbounded

end Invariant

/-- A pass ends in waiting for the next change, which has to be found before the next pass. -/
theorem Accounted.moves {t : WatchTask} {now : Instant} {w w' : WatchState} {fs fs' : FileSystem}
    {found : Nat} (h : Accounted w found) (hmove : t.Moves now w fs w' fs') :
    Accounted w' (found + (finds w fs).toNat) := by
  have hpasses := h.passes
  cases hmove with
  | unbound hphase hread hnext =>
    simp only [finds, WatchTask.isIdle, hphase, Bool.toNat_false, Nat.add_zero] at hpasses ⊢
    rcases hnext with rfl | ⟨o, rfl⟩ <;> exact ⟨Nat.le_add_right_of_le hpasses, nofun⟩
  | announce hphase =>
    simp only [finds, WatchTask.isIdle, hphase, Bool.toNat_false, Nat.add_zero] at hpasses ⊢
    exact ⟨Nat.add_le_add_right hpasses 1, nofun⟩
  | changed hphase hchanged =>
    simp only [finds, WatchTask.isIdle, hphase, hchanged] at hpasses ⊢
    exact ⟨hpasses, fun _ => Nat.succ_pos found⟩
  | unchanged hphase hchanged =>
    simp only [finds, WatchTask.isIdle, hphase, hchanged] at hpasses ⊢
    exact ⟨hpasses, nofun⟩
  | failed hphase =>
    simp only [finds, hphase]
    exact h
  | unwritten hphase hwrite =>
    simp only [finds, WatchTask.isIdle, hphase, Bool.toNat_false, Nat.add_zero] at hpasses ⊢
    exact ⟨Nat.le_add_right_of_le hpasses, nofun⟩
  | _ hphase =>
    simp only [finds, WatchTask.isIdle, hphase, Bool.toNat_false, Nat.add_zero] at hpasses ⊢
    exact ⟨hpasses, nofun⟩

theorem invariant_of_reachable {t : WatchTask} {r : Tally} (h : Reachable t r) :
    Invariant t r.state r.session.fs r.found r.changes ∧ Accounted r.state r.found := by
  induction h with
  | initial hsound hunlinked =>
    exact ⟨⟨hsound, hunlinked, rfl, Nat.le_refl 0⟩, Nat.le_refl 0, nofun⟩
  | step h hstep ih =>
    cases hstep with
    | own clock =>
      have hmove := WatchTask.moves_step t clock
      exact ⟨ih.1.moves (hmove _ _), ih.2.moves (hmove _ _)⟩
    | foreign hsound hunlinked => exact ⟨ih.1.foreign hsound hunlinked, ih.2⟩

/-- A watch finds at most as many changes as others have made to its input. If there were none, it
has bound the input once at most, and will not bind it again. -/
theorem found_le_changes {t : WatchTask} {r : Tally} (h : Reachable t r) :
    r.found ≤ r.changes ∧
      (r.changes = 0 → r.state.phase ≠ .bind .afterSwap ∧ r.state.passes ≤ 1) := by
  obtain ⟨hinv, haccounted⟩ := invariant_of_reachable h
  have hle := hinv.found_le
  refine ⟨hle, fun hnone => ⟨fun hphase => ?_, ?_⟩⟩
  · have hfound := haccounted.rebinds hphase
    omega
  · have hpasses := haccounted.passes
    have hidle := Bool.toNat_le (WatchTask.isIdle r.state)
    omega

theorem Reachable.exists_next {t : WatchTask} {now : Instant} (hnow : t.now = some now) {r : Tally}
    (h : Reachable t r) :
    ∃ r', Reachable t r' ∧ t.Moves now r.state r.session.fs r'.state r'.session.fs ∧
      r'.found = r.found + (finds r.state r.session.fs).toNat ∧ r'.changes = r.changes :=
  ⟨r.advance t now, h.step (.own now r), WatchTask.step_moves hnow now r.state r.session, rfl, rfl⟩

/-- The page is replaced after the watch has looked at it first. The pass that follows writes
another file, and the poll after it finds the change. -/
theorem exists_found_onePage : ∃ r, Reachable pageTask r ∧ r.found = 1 := by
  have h0 : Reachable pageTask ⟨pageTask.initial, ⟨onePage, .silent, "", ""⟩, 0, 0⟩ :=
    .initial isSound_onePage apart_onePage.unlinked
  obtain ⟨r1, h1, hmove1, hfound1, -⟩ := h0.exists_next rfl
  obtain ⟨hstate1, hfs1⟩ := hmove1.of_start rfl
  have hsound1 : r1.session.fs.IsSound := hfs1 ▸ isSound_onePage
  have hapart1 : r1.session.fs.Apart ['p'] ['q'] := hfs1 ▸ apart_onePage
  have hplace1 : r1.session.fs.Place ['p'] [['p']] := hfs1 ▸ place_p
  obtain ⟨fs, hreplaced⟩ := FileSystem.write_of_place rfl hplace1 (.text ['a'])
  have h2 := h1.step (.replaced hsound1 hapart1.unlinked hreplaced)
  have hsound : fs.IsSound := hsound1.write hreplaced
  have hapart : fs.Apart ['p'] ['q'] := (FileSystem.Apart.write hsound1 hapart1.symm hreplaced).symm
  have hread : fs.read ['p'] = .ok (.text ['a']) := FileSystem.read_of_write hreplaced
  obtain ⟨r3, h3, hmove3, hfound3, -⟩ := h2.exists_next rfl
  obtain ⟨hstate3, hfs3⟩ :=
    hmove3.of_bind (by rw [hstate1]) (FileSystem.readText_eq_ok_iff.mpr hread)
  have hplace3 : fs.Place ['q'] [['q']] := by
    obtain ⟨-, l, number, -, hputs⟩ := FileSystem.write_eq_ok hreplaced
    have hplace : r1.session.fs.Place ['q'] [['q']] := hfs1 ▸ place_q
    exact hplace.of_sameTree hputs.alters.sameTree
  obtain ⟨written, hwrite⟩ :=
    FileSystem.write_of_place rfl hplace3 (.text (page pageTask ⟨0, 0⟩ ['a']))
  obtain ⟨r4, h4, hmove4, hfound4, -⟩ := h3.exists_next rfl
  obtain ⟨hstate4, hfs4⟩ := hmove4.of_write (by rw [hstate3]) (by rw [hfs3]; exact hwrite)
  obtain ⟨r5, h5, hmove5, hfound5, -⟩ := h4.exists_next rfl
  obtain ⟨hstate5, hfs5⟩ := hmove5.of_compare (by rw [hstate4])
  have hpath : r4.state.watch.path = ['p'] := (invariant_of_reachable h4).1.path
  have hother : r4.state.watch.isSameFile r4.session.fs pageTask.output = false := by
    rw [hfs4]
    have hwatched : written.Apart r4.state.watch.path ['q'] :=
      hpath ▸ FileSystem.Apart.write hsound hapart hwrite
    exact FileSystem.isSameFile_of_apart (hsound.write hwrite) hwatched
      (FileSystem.read_of_write hwrite)
  rw [hother] at hstate5
  obtain ⟨r6, h6, hmove6, hfound6, -⟩ := h5.exists_next rfl
  obtain ⟨hstate6, hfs6⟩ := hmove6.of_announce (by rw [hstate5]; rfl)
  have hwatch : r6.state.watch = .start onePage ['p'] := by
    rw [hstate6, hstate5, hstate4, hstate3, hstate1]
    rfl
  have hmodified : written.modified? ['p'] = some 2 := by
    rw [FileSystem.modified?_write hsound hapart hwrite hread,
      FileSystem.modified?_of_write hreplaced, hfs1]
    rfl
  have hchanged : r6.state.watch.hasChanged r6.session.fs = true := by
    rw [hwatch, hfs6, hfs5, hfs4]
    simp [FileWatch.hasChanged, FileWatch.start, hmodified, modified?_onePage]
  obtain ⟨r7, h7, -, hfound7, -⟩ := h6.exists_next rfl
  refine ⟨r7, h7, ?_⟩
  rw [hfound7, hfound6, hfound5, hfound4, hfound3, hfound1]
  have hpoll : r6.state.phase = .poll := by rw [hstate6]
  simp [finds, hpoll, hchanged, hstate1, hstate3, hstate4, hstate5, WatchTask.initial]

theorem found_le_changes_onePage :
    ∃ r, Reachable pageTask r ∧ r.found = 1 ∧ r.found ≤ r.changes := by
  obtain ⟨r, h, hfound⟩ := exists_found_onePage
  exact ⟨r, h, hfound, (found_le_changes h).1⟩

end TimeMarkup.Watching.Polls
