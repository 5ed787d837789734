import TimeMarkup.Proofs.Storage.Touching
import TimeMarkup.Proofs.Watching.Moves

/-!
# Watching with an output of its own

While a watch goes on, others may replace, touch, remove or make its input again, but each change
gives the input a modification time that it never had. If a watch that looks for a change has seen
the time that the input has, it has also read what the input holds: the output is the page bound
last, and no other change can have been missed.
-/

namespace TimeMarkup.Watching
open FileSystem (Apart IsSound)

/-- A watch that goes on, the session it goes on in, and all modification times that its input has
had. -/
structure Progress where
  state : WatchState
  session : Session
  times : List Int

namespace Progress

/-- The progress after a change of state or files; the input's present modification time is
noted. -/
def noted (t : WatchTask) (times : List Int) (state : WatchState) (session : Session) : Progress :=
  ⟨state, session, times ++ (session.fs.modified? t.input).toList⟩

def advance (t : WatchTask) (clock : Instant) (r : Progress) : Progress :=
  noted t r.times (t.step clock r.state r.session).1 (t.step clock r.state r.session).2

def interrupted (t : WatchTask) (fs : FileSystem) (r : Progress) : Progress :=
  noted t r.times r.state { r.session with fs := fs }

end Progress

/-- A change that others may make: nobody else writes the output, which stays another file than the
input, and the input is left as it is, or it is gone, or it has a modification time that it never
had. -/
structure Foreign (t : WatchTask) (times : List Int) (fs fs' : FileSystem) : Prop where
  isSound : fs'.IsSound
  apart : fs'.Apart t.input t.output
  output : ∀ c, fs.read t.output = .ok c → fs'.read t.output = .ok c
  input : (fs'.modified? t.input = fs.modified? t.input ∧ fs'.read t.input = fs.read t.input) ∨
    fs'.modified? t.input = none ∨ ∃ m, fs'.modified? t.input = some m ∧ m ∉ times

inductive Step (t : WatchTask) : Progress → Progress → Prop
  | own (clock : Instant) (r : Progress) : Step t r (r.advance t clock)
  | foreign {r : Progress} {fs : FileSystem} (h : Foreign t r.times r.session.fs fs) :
      Step t r (r.interrupted t fs)

inductive Reachable (t : WatchTask) : Progress → Prop
  | initial {s : Session} (hsound : s.fs.IsSound) (hapart : s.fs.Apart t.input t.output) :
      Reachable t (.noted t [] t.initial s)
  | step {r r' : Progress} (h : Reachable t r) (hstep : Step t r r') : Reachable t r'

namespace Foreign
variable {t : WatchTask} {times : List Int} {fs fs' : FileSystem} (hsound : fs.IsSound)
  (hapart : fs.Apart t.input t.output)
include hsound hapart

/-- Putting a file with a new time where the input is, or was, is such a change. -/
theorem put {l : Location} {number : Nat} {stored : Stored}
    (hpath : FileSystem.checkPath t.input = .ok ()) (hplace : fs.Place t.input l)
    (h : fs.Puts l number stored fs') (hnew : stored.modified ∉ times) :
    Foreign t times fs fs' where
  isSound := h.isSound hsound hplace.isDirectoryAt_dropLast
  apart := (h.apart hsound hapart.symm hplace).symm
  output c hc := (h.read_iff hsound hapart.symm hplace c).mpr hc
  input := .inr (.inr ⟨stored.modified, h.modified?_self hpath hplace, hnew⟩)

/-- The input is replaced, or made again. -/
theorem replace {content : Content} (h : fs.write t.input content = .ok fs')
    (hnew : fs.clock ∉ times) :
    Foreign t times fs fs' := by
  obtain ⟨hpath, l, number, hplace, hputs⟩ := FileSystem.write_eq_ok h
  exact put hsound hapart hpath hplace hputs hnew

theorem touch {c : Content} {modified : Int} (hread : fs.read t.input = .ok c)
    (h : fs.setModified t.input modified = .ok fs') (hnew : modified ∉ times) :
    Foreign t times fs fs' := by
  obtain ⟨hpath, l, number, hplace, hputs⟩ := FileSystem.setModified_eq_ok hsound hread h
  exact put hsound hapart hpath hplace hputs hnew

theorem remove {number : Nat} (hentry : fs.lookupEntry t.input = .ok (.file number))
    (h : fs.remove t.input = .ok fs') : Foreign t times fs fs' := by
  obtain ⟨l, hplace, hdrops⟩ := FileSystem.remove_eq_ok hentry h
  exact {
    isSound := hdrops.isSound hsound hplace.isDirectoryAt_dropLast
    apart := (hdrops.apart hapart.symm hplace).symm
    output := fun c hc => (hdrops.read_iff hsound hapart.symm hplace c).mpr hc
    input := .inr (.inl (hdrops.modified?_self hplace)) }

end Foreign

/-- The input holds a text, and the watch has seen the time that it has. -/
def Seen (t : WatchTask) (w : WatchState) (fs : FileSystem) (text : List Char) : Prop :=
  (∃ m, fs.modified? t.input = some m ∧ w.watch.seen = some m) ∧ fs.read t.input = .ok (.text text)

/-- The markup of a text after one pass. -/
def page (t : WatchTask) (now : Instant) (text : List Char) : List Char :=
  (BoundFile.ofText t.formatter now t.input text).html

/-- What a phase knows of a text that has been seen: its page is to be written, or it has been. -/
def Knows (t : WatchTask) (now : Instant) (fs : FileSystem) (text : List Char) : WatchPhase → Prop
  | .write _ b => b.html = page t now text
  | .compare _ _ | .announce _ _ | .poll => fs.read t.output = .ok (.text (page t now text))
  | .start | .bind _ | .refresh _ _ | .failed _ => True

structure Invariant (t : WatchTask) (now : Instant) (times : List Int) (w : WatchState)
    (fs : FileSystem) : Prop where
  isSound : fs.IsSound
  apart : fs.Apart t.input t.output
  path : w.watch.path = t.input
  seen : ∀ m, w.watch.seen = some m → m ∈ times
  modified : ∀ m, fs.modified? t.input = some m → m ∈ times
  written : ∀ trigger b, w.phase = .compare trigger b → ∃ c, fs.read t.output = .ok c
  unrefreshed : ∀ trigger b, w.phase ≠ .refresh trigger b
  knows : ∀ text, Seen t w fs text → Knows t now fs text w.phase

namespace Invariant
variable {t : WatchTask} {now : Instant} {times : List Int} {w w' : WatchState}
  {fs fs' : FileSystem}

theorem mono {times' : List Int} (h : Invariant t now times w fs) (hsub : ∀ m ∈ times, m ∈ times') :
    Invariant t now times' w fs :=
  { h with
    seen := fun m hm => hsub m (h.seen m hm)
    modified := fun m hm => hsub m (h.modified m hm) }

/-- The watch goes on to a phase in which no more is known than before. -/
theorem goOn (h : Invariant t now times w fs) {phase : WatchPhase} {passes : Nat}
    (hwritten : ∀ trigger b, phase = .compare trigger b → ∃ c, fs.read t.output = .ok c)
    (hrefresh : ∀ trigger b, phase ≠ .refresh trigger b)
    (hknows : ∀ text, Seen t w fs text → Knows t now fs text phase) :
    Invariant t now times { w with phase := phase, passes := passes } fs where
  isSound := h.isSound
  apart := h.apart
  path := h.path
  seen := h.seen
  modified := h.modified
  written := hwritten
  unrefreshed := hrefresh
  knows := hknows

/-- The watch takes the present state of the input as seen. -/
theorem lookAt (h : Invariant t now times w fs) {watch : FileWatch} {phase : WatchPhase}
    (hwatch : watch = ⟨t.input, fs.modified? t.input⟩)
    (hwritten : ∀ trigger b, phase ≠ .compare trigger b)
    (hrefresh : ∀ trigger b, phase ≠ .refresh trigger b)
    (hknows : ∀ text, Seen t { w with watch := watch } fs text → Knows t now fs text phase) :
    Invariant t now times { w with watch := watch, phase := phase } fs where
  isSound := h.isSound
  apart := h.apart
  path := by rw [hwatch]
  seen m hm := h.modified m (by rwa [hwatch] at hm)
  modified := h.modified
  written trigger b hphase := absurd hphase (hwritten trigger b)
  unrefreshed := hrefresh
  knows := hknows

theorem refresh_eq (h : Invariant t now times w fs) :
    w.watch.refresh fs = ⟨t.input, fs.modified? t.input⟩ := by
  rw [FileWatch.refresh, h.path]

/-- The output is written: then it can be read, and the input is what it was. -/
theorem write {trigger : Trigger} {b : BoundFile} (h : Invariant t now times w fs)
    (hphase : w.phase = .write trigger b) (hwrite : fs.write t.output (.text b.html) = .ok fs') :
    Invariant t now (times ++ (fs'.modified? t.input).toList) { w with phase := .compare trigger b }
      fs' where
  isSound := h.isSound.write hwrite
  apart := FileSystem.Apart.write h.isSound h.apart hwrite
  path := h.path
  seen m hm := List.mem_append_left _ (h.seen m hm)
  modified m hm := List.mem_append_right _ (Option.mem_toList.mpr hm)
  written _ _ _ := ⟨_, FileSystem.read_of_write hwrite⟩
  unrefreshed := nofun
  knows text hseen := by
    -- The input is another file: it is read as before, and has the time that it had.
    obtain ⟨⟨m, hmodified, hm⟩, hread⟩ := hseen
    have hread' := (FileSystem.read_write_iff h.isSound h.apart hwrite _).mp hread
    rw [FileSystem.modified?_write h.isSound h.apart hwrite hread'] at hmodified
    have hknows := h.knows text ⟨⟨m, hmodified, hm⟩, hread'⟩
    rw [hphase] at hknows
    have hpage : b.html = page t now text := hknows
    change fs'.read t.output = .ok (.text (page t now text))
    rw [← hpage]
    exact FileSystem.read_of_write hwrite

theorem moves (h : Invariant t now times w fs) (hmove : t.Moves now w fs w' fs') :
    Invariant t now (times ++ (fs'.modified? t.input).toList) w' fs' := by
  have hmore : ∀ m ∈ times, m ∈ times ++ (fs.modified? t.input).toList :=
    fun m hm => List.mem_append_left _ hm
  cases hmove with
  | start hphase => exact mono (h.lookAt rfl nofun nofun fun _ _ => trivial) hmore
  | bound hphase hread =>
    refine mono (h.goOn nofun nofun fun text hseen => ?_) hmore
    have htext := (FileSystem.readText_eq_ok_iff.mp hread).symm.trans hseen.2
    cases htext
    rfl
  | unbound hphase hread hnext =>
    have hunseen (text : List Char) : ¬Seen t w fs text := by
      intro hseen
      have htext := FileSystem.readText_eq_ok_iff.mpr hseen.2
      rw [hread] at htext
      cases htext
    refine mono (h.goOn ?_ ?_ fun text hseen => absurd hseen (hunseen text)) hmore
    · rcases hnext with rfl | ⟨o, rfl⟩ <;> exact nofun
    · rcases hnext with rfl | ⟨o, rfl⟩ <;> exact nofun
  | written hphase hwrite => exact h.write hphase hwrite
  | unwritten hphase hwrite => exact mono (h.goOn nofun nofun fun _ _ => trivial) hmore
  | same hphase hsame =>
    -- The output can be read now, and is another file than the input.
    obtain ⟨c, hc⟩ := h.written _ _ hphase
    have hother := FileSystem.isSameFile_of_apart h.isSound (h.path ▸ h.apart) hc
    rw [hsame] at hother
    cases hother
  | other hphase hother =>
    refine mono (h.goOn nofun nofun fun text hseen => ?_) hmore
    have hknows := h.knows text hseen
    rwa [hphase] at hknows
  | refresh hphase => exact absurd hphase (h.unrefreshed _ _)
  | announce hphase =>
    refine mono (h.goOn nofun nofun fun text hseen => ?_) hmore
    have hknows := h.knows text hseen
    rwa [hphase] at hknows
  | changed hphase hchanged =>
    exact mono (h.lookAt h.refresh_eq nofun nofun fun _ _ => trivial) hmore
  | unchanged hphase hchanged =>
    refine mono (h.lookAt h.refresh_eq nofun nofun fun text hseen => ?_) hmore
    -- The time is the one that has been seen already, as nothing has changed.
    obtain ⟨⟨m, hmodified, -⟩, hread⟩ := hseen
    have hseen : some m = w.watch.seen := by
      simpa [FileWatch.hasChanged, h.path, hmodified] using hchanged
    have hknows := h.knows text ⟨⟨m, hmodified, hseen.symm⟩, hread⟩
    rwa [hphase] at hknows
  | failed hphase => exact mono h hmore

/-- A change by others that shows in the input has a time that has not been seen. -/
theorem foreign (h : Invariant t now times w fs) (hchange : Foreign t times fs fs') :
    Invariant t now (times ++ (fs'.modified? t.input).toList) w fs' where
  isSound := hchange.isSound
  apart := hchange.apart
  path := h.path
  seen m hm := List.mem_append_left _ (h.seen m hm)
  modified m hm := List.mem_append_right _ (Option.mem_toList.mpr hm)
  written trigger b hphase := by
    obtain ⟨c, hc⟩ := h.written trigger b hphase
    exact ⟨c, hchange.output c hc⟩
  unrefreshed := h.unrefreshed
  knows text hseen := by
    obtain ⟨⟨m, hmodified, hm⟩, hread⟩ := hseen
    rcases hchange.input with ⟨hmodified', hread'⟩ | hgone | ⟨m', hmodified', hnew⟩
    · have hknows := h.knows text ⟨⟨m, hmodified' ▸ hmodified, hm⟩, hread' ▸ hread⟩
      cases hphase : w.phase with
      | compare trigger b => rw [hphase] at hknows; exact hchange.output _ hknows
      | announce trigger b => rw [hphase] at hknows; exact hchange.output _ hknows
      | poll => rw [hphase] at hknows; exact hchange.output _ hknows
      | write trigger b => rw [hphase] at hknows; exact hknows
      | _ => trivial
    · rw [hgone] at hmodified
      cases hmodified
    · rw [hmodified'] at hmodified
      cases hmodified
      exact absurd (h.seen m hm) hnew

end Invariant

theorem invariant_of_reachable {t : WatchTask} {now : Instant} (hnow : t.now = some now)
    {r : Progress} (h : Reachable t r) : Invariant t now r.times r.state r.session.fs := by
  induction h with
  | @initial s hsound hapart =>
    exact {
      isSound := hsound
      apart := hapart
      path := rfl
      seen := nofun
      modified := fun m hm => List.mem_append_right _ (Option.mem_toList.mpr hm)
      written := nofun
      unrefreshed := nofun
      knows := fun _ _ => trivial }
  | step h hstep ih =>
    cases hstep with
    | own clock => exact ih.moves (WatchTask.step_moves hnow clock _ _)
    | foreign hchange => exact ih.foreign hchange

/-- A watch that looks for a change, and has seen the modification time of the input, shows what the
input holds. -/
theorem output_eq_page {t : WatchTask} {now : Instant} (hnow : t.now = some now) {r : Progress}
    (h : Reachable t r) (hpoll : r.state.phase = .poll) {text : List Char}
    (hread : r.session.fs.readText t.input = .ok text) {m : Int}
    (hmodified : r.session.fs.modified? t.input = some m) :
    (r.state.watch.seen = some m → r.session.fs.read t.output = .ok (.text (page t now text))) ∧
      (r.session.fs.read t.output = .ok (.text (page t now text)) ∨
        r.state.watch.hasChanged r.session.fs = true) := by
  have hinv := invariant_of_reachable hnow h
  have hshown (hseen : r.state.watch.seen = some m) :
      r.session.fs.read t.output = .ok (.text (page t now text)) := by
    have hknows := hinv.knows text ⟨⟨m, hmodified, hseen⟩, FileSystem.readText_eq_ok_iff.mp hread⟩
    rwa [hpoll] at hknows
  refine ⟨hshown, ?_⟩
  by_cases hseen : r.state.watch.seen = some m
  · exact .inl (hshown hseen)
  · right
    simp only [FileWatch.hasChanged, hinv.path, hmodified]
    simp [Ne.symm hseen]

theorem Reachable.exists_moves {t : WatchTask} {now : Instant} (hnow : t.now = some now)
    {r : Progress} (h : Reachable t r) :
    ∃ r', Reachable t r' ∧ t.Moves now r.state r.session.fs r'.state r'.session.fs :=
  ⟨r.advance t now, h.step (.own now r), WatchTask.step_moves hnow now r.state r.session⟩

/-- A pass that can read the input and write the output comes to its end. -/
theorem Reachable.pass {t : WatchTask} {now : Instant} (hnow : t.now = some now) {r : Progress}
    (h : Reachable t r) {trigger : Trigger} {text : List Char} {fs : FileSystem}
    (hphase : r.state.phase = .bind trigger) (hread : r.session.fs.readText t.input = .ok text)
    (hwrite : r.session.fs.write t.output (.text (page t now text)) = .ok fs) :
    ∃ r', Reachable t r' ∧ r'.state.phase = .poll ∧ r'.state.watch = r.state.watch ∧
      r'.session.fs = fs := by
  obtain ⟨r1, h1, hmove1⟩ := h.exists_moves hnow
  obtain ⟨hstate1, hfs1⟩ := hmove1.of_bind hphase hread
  obtain ⟨r2, h2, hmove2⟩ := h1.exists_moves hnow
  rw [hstate1, hfs1] at hmove2
  obtain ⟨hstate2, hfs2⟩ := hmove2.of_write rfl hwrite
  have hinv := invariant_of_reachable hnow h2
  rw [hstate2, hfs2] at hinv
  have hother := FileSystem.isSameFile_of_apart hinv.isSound (hinv.path ▸ hinv.apart)
    (FileSystem.read_of_write hwrite)
  obtain ⟨r3, h3, hmove3⟩ := h2.exists_moves hnow
  rw [hstate2, hfs2] at hmove3
  obtain ⟨hstate3, hfs3⟩ := hmove3.of_compare rfl
  rw [hother] at hstate3
  obtain ⟨r4, h4, hmove4⟩ := h3.exists_moves hnow
  rw [hstate3, hfs3] at hmove4
  obtain ⟨hstate4, hfs4⟩ := hmove4.of_announce rfl
  exact ⟨r4, h4, by rw [hstate4], by rw [hstate4], hfs4⟩

/-- One file named `p`, empty, in the root directory. -/
def onePage : FileSystem where
  nodes := .put .empty [['p']] (.file 1)
  files := .put .empty 1 ⟨.text [], 1⟩
  base := []
  clock := 2

def pageTask : WatchTask where
  input := ['p']
  output := ['q']
  formatter := ⟨.default, .utc, 0⟩
  now := some ⟨0, 0⟩
  pollMs := 500

theorem isSound_onePage : onePage.IsSound :=
  FileSystem.isSound_of_isFlat (by decide)

theorem place_p : onePage.Place ['p'] [['p']] :=
  FileSystem.place_of_entry rfl rfl (by decide) rfl nofun

theorem place_q : onePage.Place ['q'] [['q']] :=
  FileSystem.place_of_entry rfl rfl (by decide) rfl nofun

theorem apart_onePage : onePage.Apart ['p'] ['q'] := by
  intro l m hl hm
  obtain rfl := hl.unique place_p
  obtain rfl := hm.unique place_q
  exact ⟨by decide, nofun⟩

theorem lookup_onePage : onePage.lookup ['p'] = .ok (.file 1) :=
  (FileSystem.lookup_eq_file_iff isSound_onePage).mpr ⟨rfl, [['p']], place_p, rfl⟩

theorem read_onePage : onePage.read ['p'] = .ok (.text []) :=
  FileSystem.read_eq_ok_iff.mpr ⟨1, ⟨.text [], 1⟩, lookup_onePage, rfl, rfl⟩

theorem modified?_onePage : onePage.modified? ['p'] = some 1 :=
  FileSystem.modified?_of_lookup lookup_onePage

/-- The page is replaced before the watch has looked at it, and then bound. -/
theorem exists_poll_onePage :
    ∃ r, Reachable pageTask r ∧ r.state.phase = .poll ∧
      r.session.fs.readText pageTask.input = .ok ['a'] ∧
      r.session.fs.modified? pageTask.input = some 2 ∧ r.state.watch.seen = some 2 := by
  let s : Session := ⟨onePage, .silent, "", ""⟩
  have hinitial : Reachable pageTask (.noted pageTask [] pageTask.initial s) :=
    .initial isSound_onePage apart_onePage
  obtain ⟨fs, hreplaced⟩ := FileSystem.write_of_place rfl place_p (.text ['a'])
  have hnew : onePage.clock ∉ (Progress.noted pageTask [] pageTask.initial s).times := by
    change 2 ∉ [] ++ (onePage.modified? ['p']).toList
    rw [modified?_onePage]
    decide
  have h1 := hinitial.step (.foreign (.replace isSound_onePage apart_onePage hreplaced hnew))
  have hsound := isSound_onePage.write hreplaced
  have hapart : fs.Apart pageTask.input pageTask.output :=
    (Apart.write isSound_onePage apart_onePage.symm hreplaced).symm
  have hmodified : fs.modified? pageTask.input = some 2 := FileSystem.modified?_of_write hreplaced
  have hread : fs.read pageTask.input = .ok (.text ['a']) := FileSystem.read_of_write hreplaced
  obtain ⟨r2, h2, hmove2⟩ := h1.exists_moves rfl
  obtain ⟨hstate2, hfs2⟩ := hmove2.of_start rfl
  change r2.session.fs = fs at hfs2
  have hplace : fs.Place ['q'] [['q']] := by
    obtain ⟨-, l, number, -, hputs⟩ := FileSystem.write_eq_ok hreplaced
    exact place_q.of_sameTree hputs.alters.sameTree
  obtain ⟨written, hwrite⟩ :=
    FileSystem.write_of_place rfl hplace (.text (page pageTask ⟨0, 0⟩ ['a']))
  obtain ⟨r, h, hpoll, hwatch, hfs⟩ := h2.pass rfl (by rw [hstate2])
    (by rw [hfs2]; exact FileSystem.readText_eq_ok_iff.mpr hread) (by rw [hfs2]; exact hwrite)
  refine ⟨r, h, hpoll, ?_, ?_, ?_⟩
  · rw [hfs, FileSystem.readText_eq_ok_iff]
    exact (FileSystem.read_write_iff hsound hapart hwrite _).mpr hread
  · rw [hfs, FileSystem.modified?_write hsound hapart hwrite hread, hmodified]
  · rw [hwatch, hstate2]
    exact hmodified

theorem output_eq_page_onePage :
    ∃ r, Reachable pageTask r ∧ r.state.phase = .poll ∧
      r.session.fs.readText pageTask.input = .ok ['a'] ∧
      r.session.fs.modified? pageTask.input = some 2 ∧ r.state.watch.seen = some 2 ∧
      r.session.fs.read pageTask.output = .ok (.text (page pageTask ⟨0, 0⟩ ['a'])) := by
  obtain ⟨r, h, hpoll, hread, hmodified, hseen⟩ := exists_poll_onePage
  exact ⟨r, h, hpoll, hread, hmodified, hseen, (output_eq_page rfl h hpoll hread hmodified).1 hseen⟩

end TimeMarkup.Watching
