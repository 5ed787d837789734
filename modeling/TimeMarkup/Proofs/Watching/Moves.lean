import TimeMarkup.Command.Watch
import TimeMarkup.Proofs.Storage.Writing

/-!
# What one step of a watch does

`Moves` lists all that a step can do to the state of a watch and to the files. Each step looks at
the files once or changes them once; what is printed and logged besides does not matter for what
comes next.
-/

namespace TimeMarkup

namespace WatchTask

/-- The moves of a watch whose passes take place at one instant. -/
inductive Moves (t : WatchTask) (now : Instant) :
    WatchState → FileSystem → WatchState → FileSystem → Prop
  | start {w : WatchState} {fs : FileSystem} (h : w.phase = .start) :
      Moves t now w fs { w with watch := .start fs t.input, phase := .bind .documentLoaded } fs
  | bound {w : WatchState} {fs : FileSystem} {trigger : Trigger} {text : List Char}
      (h : w.phase = .bind trigger) (hread : fs.readText t.input = .ok text) :
      Moves t now w fs { w with phase := .write trigger (.ofText t.formatter now t.input text) } fs
  | unbound {w : WatchState} {fs : FileSystem} {trigger : Trigger} {e : IoError}
      {phase : WatchPhase} (h : w.phase = .bind trigger) (hread : fs.readText t.input = .error e)
      (hphase : phase = .poll ∨ ∃ o, phase = .failed o) :
      Moves t now w fs { w with phase := phase } fs
  | written {w : WatchState} {fs fs' : FileSystem} {trigger : Trigger} {b : BoundFile}
      (h : w.phase = .write trigger b) (hwrite : fs.write t.output (.text b.html) = .ok fs') :
      Moves t now w fs { w with phase := .compare trigger b } fs'
  | unwritten {w : WatchState} {fs : FileSystem} {trigger : Trigger} {b : BoundFile} {e : IoError}
      {o : Obstacle} (h : w.phase = .write trigger b)
      (hwrite : fs.write t.output (.text b.html) = .error e) :
      Moves t now w fs { w with phase := .failed o } fs
  | same {w : WatchState} {fs : FileSystem} {trigger : Trigger} {b : BoundFile}
      (h : w.phase = .compare trigger b) (hsame : w.watch.isSameFile fs t.output = true) :
      Moves t now w fs { w with phase := .refresh trigger b } fs
  | other {w : WatchState} {fs : FileSystem} {trigger : Trigger} {b : BoundFile}
      (h : w.phase = .compare trigger b) (hother : w.watch.isSameFile fs t.output = false) :
      Moves t now w fs { w with phase := .announce trigger b } fs
  | refresh {w : WatchState} {fs : FileSystem} {trigger : Trigger} {b : BoundFile}
      (h : w.phase = .refresh trigger b) :
      Moves t now w fs { w with watch := w.watch.refresh fs, phase := .announce trigger b } fs
  | announce {w : WatchState} {fs : FileSystem} {trigger : Trigger} {b : BoundFile}
      (h : w.phase = .announce trigger b) :
      Moves t now w fs { w with phase := .poll, passes := w.passes + 1 } fs
  | changed {w : WatchState} {fs : FileSystem} (h : w.phase = .poll)
      (hchanged : w.watch.hasChanged fs = true) :
      Moves t now w fs { w with watch := w.watch.refresh fs, phase := .bind .afterSwap } fs
  | unchanged {w : WatchState} {fs : FileSystem} (h : w.phase = .poll)
      (hchanged : w.watch.hasChanged fs = false) :
      Moves t now w fs { w with watch := w.watch.refresh fs, phase := .poll } fs
  | failed {w : WatchState} {fs : FileSystem} {o : Obstacle} (h : w.phase = .failed o) :
      Moves t now w fs w fs

theorem fs_announce (t : WatchTask) (clock : Instant) (trigger : Trigger) (b : BoundFile)
    (passes : Nat) (s : Session) :
    (t.announce clock trigger b passes s).fs = s.fs := by
  cases trigger <;> rfl

theorem moves_step (t : WatchTask) (clock : Instant) (w : WatchState) (s : Session) :
    t.Moves (t.now.getD clock) w s.fs (t.step clock w s).1 (t.step clock w s).2.fs := by
  cases hphase : w.phase with
  | start =>
    simp only [step, hphase]
    exact .start hphase
  | bind trigger =>
    simp only [step, hphase, Session.bind]
    cases hread : s.fs.readText t.input with
    | ok text => exact .bound hphase hread
    | error e =>
      cases trigger with
      | documentLoaded => exact .unbound hphase hread (.inr ⟨_, rfl⟩)
      | afterSwap => exact .unbound hphase hread (.inl rfl)
  | write trigger b =>
    simp only [step, hphase, Session.write, BoundFile.write]
    cases hwrite : s.fs.write t.output (.text b.html) with
    | ok fs => exact .written hphase hwrite
    | error e => exact .unwritten hphase hwrite
  | compare trigger b =>
    simp only [step, hphase]
    cases hsame : w.watch.isSameFile s.fs t.output with
    | true => exact .same hphase hsame
    | false => exact .other hphase hsame
  | refresh trigger b =>
    simp only [step, hphase]
    exact .refresh hphase
  | announce trigger b =>
    simp only [step, hphase, fs_announce]
    exact .announce hphase
  | poll =>
    simp only [step, hphase, FileWatch.changed_eq]
    cases hchanged : w.watch.hasChanged s.fs with
    | true => exact .changed hphase hchanged
    | false => exact .unchanged hphase hchanged
  | failed o =>
    rw [step_failed t clock w s hphase]
    exact .failed hphase

theorem step_moves {t : WatchTask} {now : Instant} (hnow : t.now = some now) (clock : Instant)
    (w : WatchState) (s : Session) :
    t.Moves now w s.fs (t.step clock w s).1 (t.step clock w s).2.fs := by
  have hmoves := moves_step t clock w s
  rwa [hnow, Option.getD_some] at hmoves

namespace Moves
variable {t : WatchTask} {now : Instant} {w w' : WatchState} {fs fs' : FileSystem}
  {trigger : Trigger} {b : BoundFile}

theorem of_start (h : t.Moves now w fs w' fs') (hphase : w.phase = .start) :
    w' = { w with watch := .start fs t.input, phase := .bind .documentLoaded } ∧ fs' = fs := by
  cases h <;> simp_all

theorem of_bind {text : List Char} (h : t.Moves now w fs w' fs') (hphase : w.phase = .bind trigger)
    (hread : fs.readText t.input = .ok text) :
    w' = { w with phase := .write trigger (.ofText t.formatter now t.input text) } ∧ fs' = fs := by
  cases h <;> simp_all

theorem of_write {written : FileSystem} (h : t.Moves now w fs w' fs')
    (hphase : w.phase = .write trigger b)
    (hwrite : fs.write t.output (.text b.html) = .ok written) :
    w' = { w with phase := .compare trigger b } ∧ fs' = written := by
  cases h <;> simp_all

theorem of_compare (h : t.Moves now w fs w' fs') (hphase : w.phase = .compare trigger b) :
    w' = { w with phase :=
      if w.watch.isSameFile fs t.output then .refresh trigger b else .announce trigger b } ∧
      fs' = fs := by
  cases h <;> simp_all

theorem of_refresh (h : t.Moves now w fs w' fs') (hphase : w.phase = .refresh trigger b) :
    w' = { w with watch := w.watch.refresh fs, phase := .announce trigger b } ∧ fs' = fs := by
  cases h <;> simp_all

theorem of_poll (h : t.Moves now w fs w' fs') (hphase : w.phase = .poll)
    (hchanged : w.watch.hasChanged fs = true) :
    w' = { w with watch := w.watch.refresh fs, phase := .bind .afterSwap } ∧ fs' = fs := by
  cases h <;> simp_all

theorem of_announce (h : t.Moves now w fs w' fs') (hphase : w.phase = .announce trigger b) :
    w' = { w with phase := .poll, passes := w.passes + 1 } ∧ fs' = fs := by
  cases h <;> simp_all

end Moves

end WatchTask
end TimeMarkup
