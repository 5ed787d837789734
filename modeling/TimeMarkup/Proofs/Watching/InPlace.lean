import TimeMarkup.Proofs.Watching.SeparateOutput

/-!
# Watching a file in place

Here the output of a watch is its input. Others may put new contents into the file at any time, each
with a modification time that the file never had. A content that comes before the watch reads the
file, or after it has taken its own writing as seen, is bound in the end. One that comes in between
is lost: it is overwritten, or it counts as seen unread.
-/

namespace TimeMarkup.Watching.InPlace

/-- A watch that goes on, the content that others put into the file last, the text that was read for
the last pass, and whether the content came after that text was read and before the writing of its
page was taken as seen. -/
structure Course where
  progress : Progress
  edited : Content
  bound : Option (List Char)
  raced : Bool

/-- The watch has read the file, and has not yet taken its own writing as seen. -/
def isBusy : WatchPhase → Bool
  | .write _ _ | .compare _ _ | .refresh _ _ => true
  | .start | .bind _ | .announce _ _ | .poll | .failed _ => false

/-- The text that was read for the last pass, after one more step. -/
def nextBound (t : WatchTask) (w : WatchState) (fs : FileSystem) (bound : Option (List Char)) :
    Option (List Char) :=
  match w.phase, fs.readText t.input with
  | .bind _, .ok text => some text
  | _, _ => bound

theorem nextBound_of_read {t : WatchTask} {w : WatchState} {fs : FileSystem}
    {bound : Option (List Char)} {trigger : Trigger} {text : List Char}
    (hphase : w.phase = .bind trigger) (hread : fs.readText t.input = .ok text) :
    nextBound t w fs bound = some text := by
  simp only [nextBound, hphase, hread]

inductive Step (t : WatchTask) : Course → Course → Prop
  | own (clock : Instant) (r : Course) :
      Step t r ⟨r.progress.advance t clock, r.edited,
        nextBound t r.progress.state r.progress.session.fs r.bound, r.raced⟩
  | edit {r : Course} {fs : FileSystem} {content : Content} {m : Int}
      (hread : fs.read t.input = .ok content) (hmodified : fs.modified? t.input = some m)
      (hnew : m ∉ r.progress.times) :
      Step t r ⟨r.progress.interrupted t fs, content, r.bound, isBusy r.progress.state.phase⟩

inductive Reachable (t : WatchTask) : Course → Prop
  | initial {s : Session} {content : Content} (hread : s.fs.read t.input = .ok content) :
      Reachable t ⟨.noted t [] t.initial s, content, none, false⟩
  | step {r r' : Course} (h : Reachable t r) (hstep : Step t r r') : Reachable t r'

/-- What a phase knows of a text that others put into the file: it is there to be read, or it has
been read. -/
def Knows (t : WatchTask) (w : WatchState) (fs : FileSystem) (bound : Option (List Char))
    (text : List Char) : Prop :=
  match w.phase with
  | .start | .bind _ => fs.read t.input = .ok (.text text)
  | .write _ _ | .compare _ _ | .refresh _ _ => bound = some text
  | .announce _ _ | .poll =>
    bound = some text ∧ w.watch.seen = fs.modified? t.input ∨
      fs.read t.input = .ok (.text text) ∧ w.watch.seen ≠ fs.modified? t.input
  | .failed _ => True

structure Invariant (t : WatchTask) (times : List Int) (w : WatchState) (fs : FileSystem)
    (bound : Option (List Char)) (edited : Content) (raced : Bool) : Prop where
  path : w.watch.path = t.input
  readable : ∃ c, fs.read t.input = .ok c
  seen : ∀ m, w.watch.seen = some m → m ∈ times
  modified : ∀ m, fs.modified? t.input = some m → m ∈ times
  knows : ∀ text, edited = .text text → raced = false → Knows t w fs bound text

namespace Invariant
variable {t : WatchTask} {now : Instant} {times : List Int} {w w' : WatchState}
  {fs fs' : FileSystem} {bound : Option (List Char)} {edited : Content} {raced : Bool}

/-- The files stay as they are; what the watch has seen stays too, or becomes the present state. -/
theorem goOn (h : Invariant t times w fs bound edited raced) {bound' : Option (List Char)}
    (hpath : w'.watch.path = t.input)
    (hseen : w'.watch.seen = w.watch.seen ∨ w'.watch.seen = fs.modified? t.input)
    (hknows : ∀ text, edited = .text text → raced = false → Knows t w fs bound text →
      Knows t w' fs bound' text) :
    Invariant t (times ++ (fs.modified? t.input).toList) w' fs bound' edited raced where
  path := hpath
  readable := h.readable
  seen m hm := by
    rcases hseen with hseen | hseen
    · exact List.mem_append_left _ (h.seen m (hseen ▸ hm))
    · exact List.mem_append_left _ (h.modified m (hseen ▸ hm))
  modified m hm := List.mem_append_left _ (h.modified m hm)
  knows text hedited hraced := hknows text hedited hraced (h.knows text hedited hraced)

theorem moves (hsame : t.output = t.input) (h : Invariant t times w fs bound edited raced)
    (hmove : t.Moves now w fs w' fs') :
    Invariant t (times ++ (fs'.modified? t.input).toList) w' fs'
      (nextBound t w fs bound) edited raced := by
  have hrefresh : w.watch.refresh fs = ⟨t.input, fs.modified? t.input⟩ := by
    rw [FileWatch.refresh, h.path]
  obtain ⟨content, hreadable⟩ := h.readable
  have hchanges := FileSystem.hasChanged_iff (h.path ▸ hreadable)
  cases hmove with
  | start hphase =>
    refine h.goOn rfl (.inr rfl) fun text _ _ hknows => ?_
    simpa [Knows, hphase] using hknows
  | bound hphase hread =>
    refine h.goOn h.path (.inl rfl) fun text _ _ hknows => ?_
    simp only [Knows, hphase] at hknows
    rw [FileSystem.readText_eq_ok_iff.mp hread] at hknows
    cases hknows
    simp only [Knows, nextBound, hphase, hread]
  | unbound hphase hread hnext =>
    refine h.goOn h.path (.inl rfl) fun text _ _ hknows => ?_
    simp only [Knows, hphase] at hknows
    rw [FileSystem.readText_eq_ok_iff.mpr hknows] at hread
    cases hread
  | written hphase hwrite =>
    rw [hsame] at hwrite
    refine ⟨h.path, ⟨_, FileSystem.read_of_write hwrite⟩, ?_, ?_, fun text hedited hraced => ?_⟩
    · exact fun m hm => List.mem_append_left _ (h.seen m hm)
    · exact fun m hm => List.mem_append_right _ (Option.mem_toList.mpr hm)
    · have hknows := h.knows text hedited hraced
      simp only [Knows, hphase] at hknows
      simp only [Knows, nextBound, hphase]
      exact hknows
  | unwritten hphase => exact h.goOn h.path (.inl rfl) fun _ _ _ _ => trivial
  | same hphase hsame =>
    refine h.goOn h.path (.inl rfl) fun text _ _ hknows => ?_
    simpa [Knows, nextBound, hphase] using hknows
  | other hphase hother =>
    -- The file that is watched can be read, so that it is found to be the output.
    have hself := FileSystem.isSameFile_self (h.path ▸ hreadable)
    rw [h.path, ← hsame, hother] at hself
    cases hself
  | refresh hphase =>
    rw [hrefresh]
    refine h.goOn rfl (.inr rfl) fun text _ _ hknows => ?_
    simp only [Knows, hphase] at hknows
    simp only [Knows, nextBound, hphase]
    exact .inl ⟨hknows, trivial⟩
  | announce hphase =>
    refine h.goOn h.path (.inl rfl) fun text _ _ hknows => ?_
    simpa [Knows, nextBound, hphase] using hknows
  | changed hphase hchanged =>
    rw [hrefresh]
    refine h.goOn rfl (.inr rfl) fun text _ _ hknows => ?_
    simp only [Knows, hphase] at hknows
    -- Had the content been bound, its time would have been seen.
    rcases hknows with ⟨-, hseen⟩ | ⟨hthere, -⟩
    · exact absurd hseen (h.path ▸ hchanges.mp hchanged)
    · exact hthere
  | unchanged hphase hchanged =>
    rw [hrefresh]
    refine h.goOn rfl (.inr rfl) fun text _ _ hknows => ?_
    simp only [Knows, hphase] at hknows
    simp only [Knows, nextBound, hphase]
    rcases hknows with ⟨hbound, -⟩ | ⟨-, hunseen⟩
    · exact .inl ⟨hbound, trivial⟩
    · rw [← h.path] at hunseen
      rw [hchanges.mpr hunseen] at hchanged
      cases hchanged
  | failed hphase =>
    refine h.goOn h.path (.inl rfl) fun text _ _ hknows => ?_
    simp only [Knows, hphase]

/-- Others put a content into the file; it is to be read from then on, unless it races with a
pass. -/
theorem edit (h : Invariant t times w fs bound edited raced) {content : Content} {m : Int}
    (hread : fs'.read t.input = .ok content) (hmodified : fs'.modified? t.input = some m)
    (hnew : m ∉ times) :
    Invariant t (times ++ (fs'.modified? t.input).toList) w fs' bound content (isBusy w.phase) where
  path := h.path
  readable := ⟨content, hread⟩
  seen m hm := List.mem_append_left _ (h.seen m hm)
  modified m hm := List.mem_append_right _ (Option.mem_toList.mpr hm)
  knows text hcontent hraced := by
    have hunseen : w.watch.seen ≠ fs'.modified? t.input := by
      rw [hmodified]
      exact fun hseen => hnew (h.seen m hseen)
    rw [hcontent] at hread
    cases hphase : w.phase with
    | start => simp only [Knows, hphase]; exact hread
    | bind trigger => simp only [Knows, hphase]; exact hread
    | announce trigger b => simp only [Knows, hphase]; exact .inr ⟨hread, hunseen⟩
    | poll => simp only [Knows, hphase]; exact .inr ⟨hread, hunseen⟩
    | failed o => simp only [Knows, hphase]
    | _ => rw [hphase] at hraced; cases hraced

end Invariant

section Runs
variable {t : WatchTask} (hsame : t.output = t.input)

include hsame in
theorem invariant_of_reachable {r : Course} (h : Reachable t r) :
    Invariant t r.progress.times r.progress.state r.progress.session.fs r.bound r.edited
      r.raced := by
  induction h with
  | @initial s content hread =>
    refine ⟨rfl, ⟨content, hread⟩, nofun,
      fun m hm => List.mem_append_right _ (Option.mem_toList.mpr hm), ?_⟩
    intro text hcontent _
    change content = .text text at hcontent
    rw [hcontent] at hread
    exact hread
  | step h hstep ih =>
    cases hstep with
    | own clock => exact ih.moves hsame (WatchTask.moves_step t clock _ _)
    | edit hread hmodified hnew => exact ih.edit hread hmodified hnew

include hsame in
/-- If a watch finds no change, then the content that others put into the file last has been bound,
or it came between the reading of the file and the end of a pass. -/
theorem bound_eq_edited {r : Course} (h : Reachable t r) (hpoll : r.progress.state.phase = .poll)
    (hunchanged : r.progress.state.watch.hasChanged r.progress.session.fs = false)
    {text : List Char} (hedited : r.edited = .text text) (hraced : r.raced = false) :
    r.bound = some text := by
  have hinv := invariant_of_reachable hsame h
  have hknows := hinv.knows text hedited hraced
  simp only [Knows, hpoll] at hknows
  rcases hknows with ⟨hbound, -⟩ | ⟨hread, hunseen⟩
  · exact hbound
  · rw [← hinv.path] at hread hunseen
    rw [(FileSystem.hasChanged_iff hread).mpr hunseen] at hunchanged
    cases hunchanged

structure Next (t : WatchTask) (now : Instant) (r r' : Course) : Prop where
  moves : t.Moves now r.progress.state r.progress.session.fs r'.progress.state
    r'.progress.session.fs
  times : r'.progress.times =
    r.progress.times ++ (r'.progress.session.fs.modified? t.input).toList
  edited : r'.edited = r.edited
  bound : r'.bound = nextBound t r.progress.state r.progress.session.fs r.bound
  raced : r'.raced = r.raced

variable (clock : Instant)

theorem Reachable.exists_next {r : Course} (h : Reachable t r) :
    ∃ r', Reachable t r' ∧ Next t (t.now.getD clock) r r' :=
  ⟨_, h.step (.own clock r), WatchTask.moves_step t clock _ _, rfl, rfl, rfl, rfl⟩

include hsame clock

/-- Whatever the file holds when the watch is about to take its own writing as seen counts as
seen. -/
theorem Reachable.refresh {r : Course} (h : Reachable t r) {trigger : Trigger} {b : BoundFile}
    (hphase : r.progress.state.phase = .refresh trigger b) :
    ∃ r', Reachable t r' ∧ r'.progress.state.phase = .poll ∧
      r'.progress.state.watch.hasChanged r'.progress.session.fs = false ∧
      r'.progress.session.fs = r.progress.session.fs ∧
      (∀ m ∈ r'.progress.times, m ∈ r.progress.times) ∧ r'.edited = r.edited ∧
      r'.bound = r.bound ∧ r'.raced = r.raced := by
  obtain ⟨r1, h1, hnext1⟩ := h.exists_next clock
  obtain ⟨hstate1, hfs1⟩ := hnext1.moves.of_refresh hphase
  obtain ⟨r2, h2, hnext2⟩ := h1.exists_next clock
  have hmove2 := hnext2.moves
  rw [hstate1, hfs1] at hmove2
  obtain ⟨hstate2, hfs2⟩ := hmove2.of_announce rfl
  refine ⟨r2, h2, by rw [hstate2], ?_, hfs2, ?_, hnext2.edited.trans hnext1.edited, ?_,
    hnext2.raced.trans hnext1.raced⟩
  · rw [hstate2, hfs2]
    exact FileWatch.hasChanged_refresh _ _
  · intro m hm
    rw [hnext2.times, hnext1.times, hfs2, hfs1] at hm
    simp only [List.mem_append, Option.mem_toList, or_assoc, or_self] at hm
    exact hm.elim id ((invariant_of_reachable hsame h).modified m)
  · rw [hnext2.bound, hnext1.bound, hstate1]
    simp only [nextBound, hphase]

/-- A content that is put into the file after the watch has written it, and before it has taken its
own writing as seen, is neither bound nor found as a change. -/
theorem edit_unbound {r : Course} (h : Reachable t r) {trigger : Trigger} {b : BoundFile}
    (hphase : r.progress.state.phase = .refresh trigger b) {fs : FileSystem} {content : Content}
    {m : Int} (hread : fs.read t.input = .ok content) (hmodified : fs.modified? t.input = some m)
    (hnew : m ∉ r.progress.times) :
    ∃ r', Reachable t r' ∧ r'.progress.state.phase = .poll ∧
      r'.progress.state.watch.hasChanged r'.progress.session.fs = false ∧
      r'.progress.session.fs.read t.input = .ok content ∧ r'.edited = content ∧
      r'.bound = r.bound := by
  obtain ⟨r1, h1, hpoll, hunchanged, hfs1, -, hedited1, hbound1, -⟩ :=
    (h.step (.edit hread hmodified hnew)).refresh hsame clock hphase
  refine ⟨r1, h1, hpoll, hunchanged, ?_, hedited1, hbound1⟩
  rw [hfs1]
  exact hread

theorem Reachable.write {r : Course} (h : Reachable t r) {trigger : Trigger} {b : BoundFile}
    {before fs : FileSystem} (hphase : r.progress.state.phase = .write trigger b)
    (hfs : r.progress.session.fs = before)
    (hwrite : before.write t.input (.text b.html) = .ok fs) :
    ∃ r', Reachable t r' ∧ r'.progress.state.phase = .refresh trigger b ∧
      r'.progress.session.fs = fs ∧
      (∀ m ∈ r'.progress.times, m ∈ r.progress.times ∨ fs.modified? t.input = some m) ∧
      r'.edited = r.edited ∧ r'.bound = r.bound ∧ r'.raced = r.raced := by
  subst hfs
  obtain ⟨r1, h1, hnext1⟩ := h.exists_next clock
  obtain ⟨hstate1, hfs1⟩ := hnext1.moves.of_write hphase (hsame ▸ hwrite)
  have hpath := (invariant_of_reachable hsame h1).path
  rw [hstate1] at hpath
  have hself : r.progress.state.watch.isSameFile fs t.output = true := by
    rw [hsame, ← hpath]
    exact FileSystem.isSameFile_self (hpath ▸ FileSystem.read_of_write hwrite)
  obtain ⟨r2, h2, hnext2⟩ := h1.exists_next clock
  have hmove2 := hnext2.moves
  rw [hstate1, hfs1] at hmove2
  obtain ⟨hstate2, hfs2⟩ := hmove2.of_compare rfl
  rw [hself] at hstate2
  refine ⟨r2, h2, by rw [hstate2]; rfl, hfs2, ?_, hnext2.edited.trans hnext1.edited, ?_,
    hnext2.raced.trans hnext1.raced⟩
  · intro m hm
    rw [hnext2.times, hnext1.times, hfs2, hfs1] at hm
    simpa only [List.mem_append, Option.mem_toList, or_assoc, or_self] using hm
  · rw [hnext2.bound, hnext1.bound, hstate1]
    simp only [nextBound, hphase]

/-- A content that is put into the file after the watch has read it, and before it writes the page,
is overwritten, and that is not found as a change. -/
theorem edit_overwritten {r : Course} (h : Reachable t r) {trigger : Trigger} {b : BoundFile}
    (hphase : r.progress.state.phase = .write trigger b) {fs fs' : FileSystem} {content : Content}
    {m : Int} (hread : fs.read t.input = .ok content) (hmodified : fs.modified? t.input = some m)
    (hnew : m ∉ r.progress.times) (hwrite : fs.write t.input (.text b.html) = .ok fs') :
    ∃ r', Reachable t r' ∧ r'.progress.state.phase = .poll ∧
      r'.progress.state.watch.hasChanged r'.progress.session.fs = false ∧
      r'.progress.session.fs.read t.input = .ok (.text b.html) ∧ r'.edited = content ∧
      r'.bound = r.bound := by
  obtain ⟨r1, h1, hphase1, hfs1, -, hedited1, hbound1, -⟩ :=
    (h.step (.edit hread hmodified hnew)).write hsame clock hphase rfl hwrite
  obtain ⟨r2, h2, hpoll, hunchanged, hfs2, -, hedited2, hbound2, -⟩ :=
    h1.refresh hsame clock hphase1
  refine ⟨r2, h2, hpoll, hunchanged, ?_, hedited2.trans hedited1, hbound2.trans hbound1⟩
  rw [hfs2, hfs1]
  exact FileSystem.read_of_write hwrite

/-- A pass that can read the file binds it and writes it. -/
theorem Reachable.pass {r : Course} (h : Reachable t r) {trigger : Trigger} {text : List Char}
    {before fs : FileSystem} (hphase : r.progress.state.phase = .bind trigger)
    (hfs : r.progress.session.fs = before) (hread : before.read t.input = .ok (.text text))
    (hwrite : before.write t.input (.text (page t (t.now.getD clock) text)) = .ok fs) :
    ∃ r' b, Reachable t r' ∧ r'.progress.state.phase = .refresh trigger b ∧
      r'.progress.session.fs = fs ∧
      (∀ m ∈ r'.progress.times, m ∈ r.progress.times ∨ fs.modified? t.input = some m) ∧
      r'.edited = r.edited ∧ r'.bound = some text ∧ r'.raced = r.raced := by
  subst hfs
  rw [← FileSystem.readText_eq_ok_iff] at hread
  obtain ⟨r1, h1, hnext1⟩ := h.exists_next clock
  obtain ⟨hstate1, hfs1⟩ := hnext1.moves.of_bind hphase hread
  obtain ⟨r2, h2, hphase2, hfs2, htimes2, hedited2, hbound2, hraced2⟩ :=
    h1.write hsame clock (by rw [hstate1]) hfs1 hwrite
  refine ⟨r2, _, h2, hphase2, hfs2, ?_, hedited2.trans hnext1.edited, ?_,
    hraced2.trans hnext1.raced⟩
  · intro m hm
    rcases htimes2 m hm with hold | hwritten
    · rw [hnext1.times, hfs1, List.mem_append, Option.mem_toList] at hold
      exact .inl (hold.elim id ((invariant_of_reachable hsame h).modified m))
    · exact .inr hwritten
  · rw [hbound2, hnext1.bound]
    exact nextBound_of_read hphase hread

/-- From the start, a file that can be read and written is bound once. -/
theorem Reachable.firstPass {s : Session} {text : List Char} {fs : FileSystem}
    (hread : s.fs.read t.input = .ok (.text text))
    (hwrite : s.fs.write t.input (.text (page t (t.now.getD clock) text)) = .ok fs) :
    ∃ r trigger b, Reachable t r ∧ r.progress.state.phase = .refresh trigger b ∧
      r.progress.session.fs = fs ∧
      (∀ m ∈ r.progress.times,
        s.fs.modified? t.input = some m ∨ fs.modified? t.input = some m) ∧
      r.edited = .text text ∧ r.bound = some text ∧ r.raced = false := by
  have h0 : Reachable t ⟨.noted t [] t.initial s, .text text, none, false⟩ := .initial hread
  obtain ⟨r1, h1, hnext1⟩ := h0.exists_next clock
  obtain ⟨hstate1, hfs1⟩ := hnext1.moves.of_start rfl
  obtain ⟨r2, b, h2, hphase2, hfs2, htimes2, hedited2, hbound2, hraced2⟩ :=
    h1.pass hsame clock (by rw [hstate1]) hfs1 hread hwrite
  refine ⟨r2, _, b, h2, hphase2, hfs2, ?_, hedited2.trans hnext1.edited, hbound2,
    hraced2.trans hnext1.raced⟩
  intro m hm
  rcases htimes2 m hm with hold | hwritten
  · rw [hnext1.times, hfs1] at hold
    simp only [Progress.noted, List.nil_append, List.mem_append, Option.mem_toList, or_self] at hold
    exact .inl hold
  · exact .inr hwritten

/-- A text that is put into the file while the watch waits is found, and bound in one pass. -/
theorem edit_bound {r : Course} (h : Reachable t r) (hpoll : r.progress.state.phase = .poll)
    {fs fs' : FileSystem} {text : List Char} {m : Int} (hread : fs.read t.input = .ok (.text text))
    (hmodified : fs.modified? t.input = some m) (hnew : m ∉ r.progress.times)
    (hwrite : fs.write t.input (.text (page t (t.now.getD clock) text)) = .ok fs') :
    ∃ r', Reachable t r' ∧ r'.progress.state.phase = .poll ∧
      r'.progress.state.watch.hasChanged r'.progress.session.fs = false ∧
      r'.progress.session.fs = fs' ∧ r'.edited = .text text ∧ r'.bound = some text ∧
      r'.raced = false := by
  have hinv := invariant_of_reachable hsame h
  have hchanged : r.progress.state.watch.hasChanged fs = true := by
    have hwatched := hinv.path.symm ▸ hread
    rw [FileSystem.hasChanged_iff hwatched, hinv.path, hmodified]
    exact fun hseen => hnew (hinv.seen m hseen)
  obtain ⟨r1, h1, hnext1⟩ := (h.step (.edit hread hmodified hnew)).exists_next clock
  obtain ⟨hstate1, hfs1⟩ := hnext1.moves.of_poll hpoll hchanged
  obtain ⟨r2, b, h2, hphase2, hfs2, -, hedited2, hbound2, hraced2⟩ :=
    h1.pass hsame clock (by rw [hstate1]) hfs1 hread hwrite
  obtain ⟨r3, h3, hphase3, hunchanged, hfs3, -, hedited3, hbound3, hraced3⟩ :=
    h2.refresh hsame clock hphase2
  refine ⟨r3, h3, hphase3, hunchanged, hfs3.trans hfs2, ?_, hbound3.trans hbound2, ?_⟩
  · rw [hedited3, hedited2, hnext1.edited]
  · rw [hraced3, hraced2, hnext1.raced, hpoll]
    rfl

end Runs

def inPlaceTask : WatchTask :=
  { pageTask with output := ['p'] }

/-- From the start the page is bound once, as it was. -/
theorem exists_firstPass_onePage :
    ∃ r trigger b, Reachable inPlaceTask r ∧ r.progress.state.phase = .refresh trigger b ∧
      (∀ m ∈ r.progress.times, m = 1 ∨ m = 2) ∧ r.bound = some [] := by
  obtain ⟨fs, hwrite⟩ := FileSystem.write_of_place rfl place_p (.text (page inPlaceTask ⟨0, 0⟩ []))
  obtain ⟨r, trigger, b, h, hphase, -, htimes, -, hbound, -⟩ :=
    Reachable.firstPass (t := inPlaceTask) (s := ⟨onePage, .silent, "", ""⟩) rfl ⟨0, 0⟩ read_onePage
      hwrite
  refine ⟨r, trigger, b, h, hphase, fun m hm => ?_, hbound⟩
  rcases htimes m hm with hold | hwritten
  · exact .inl (Option.some.inj (hold.symm.trans modified?_onePage))
  · exact .inr (Option.some.inj (hwritten.symm.trans (FileSystem.modified?_of_write hwrite)))

theorem place_p_later (clock : Int) :
    FileSystem.Place { onePage with clock := clock } ['p'] [['p']] := by
  have hlater : onePage.SameTree { onePage with clock := clock } :=
    ⟨rfl, fun _ => rfl, fun _ _ => Iff.rfl⟩
  exact place_p.of_sameTree hlater

/-- The page is replaced while the watch waits after its first pass. The next pass binds the new
text, and no change is found then. -/
theorem bound_eq_edited_onePage :
    ∃ r, Reachable inPlaceTask r ∧ r.progress.state.phase = .poll ∧
      r.progress.state.watch.hasChanged r.progress.session.fs = false ∧
      r.edited = .text ['a'] ∧ r.raced = false ∧ r.bound = some ['a'] := by
  obtain ⟨r1, trigger, b, h1, hphase1, htimes1, -⟩ := exists_firstPass_onePage
  obtain ⟨r2, h2, hpoll2, -, -, htimes2, -⟩ := h1.refresh rfl ⟨0, 0⟩ hphase1
  obtain ⟨edited, hedit⟩ := FileSystem.write_of_place rfl (place_p_later 3) (.text ['a'])
  have hplace : edited.Place ['p'] [['p']] := by
    obtain ⟨-, l, number, -, hputs⟩ := FileSystem.write_eq_ok hedit
    exact (place_p_later 3).of_sameTree hputs.alters.sameTree
  obtain ⟨fs, hwrite⟩ :=
    FileSystem.write_of_place rfl hplace (.text (page inPlaceTask ⟨0, 0⟩ ['a']))
  have hnew : 3 ∉ r2.progress.times := fun hmem => by
    rcases htimes1 3 (htimes2 3 hmem) with h | h <;> cases h
  obtain ⟨r, h, hpoll, hunchanged, -, hedited, -, hraced⟩ :=
    edit_bound rfl ⟨0, 0⟩ h2 hpoll2 (FileSystem.read_of_write hedit)
      (FileSystem.modified?_of_write hedit) hnew hwrite
  exact ⟨r, h, hpoll, hunchanged, hedited, hraced,
    bound_eq_edited rfl h hpoll hunchanged hedited hraced⟩

/-- The page is replaced after the first pass has written it: the watch finds no change, and has
bound the old text. -/
theorem edit_lost_onePage :
    ∃ r, Reachable inPlaceTask r ∧ r.progress.state.phase = .poll ∧
      r.progress.state.watch.hasChanged r.progress.session.fs = false ∧ r.edited = .text ['a'] ∧
      r.bound = some [] := by
  obtain ⟨r1, trigger, b, h1, hphase1, htimes, hbound1⟩ := exists_firstPass_onePage
  obtain ⟨edited, hedit⟩ := FileSystem.write_of_place rfl (place_p_later 3) (.text ['a'])
  have hnew : 3 ∉ r1.progress.times := fun hmem => by
    rcases htimes 3 hmem with h | h <;> cases h
  obtain ⟨r, h, hpoll, hunchanged, -, hedited, hbound⟩ :=
    edit_unbound rfl ⟨0, 0⟩ h1 hphase1 (FileSystem.read_of_write hedit)
      (FileSystem.modified?_of_write hedit) hnew
  exact ⟨r, h, hpoll, hunchanged, hedited, hbound.trans hbound1⟩

end TimeMarkup.Watching.InPlace
