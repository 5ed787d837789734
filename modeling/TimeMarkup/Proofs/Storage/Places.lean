import TimeMarkup.Storage.Change

/-!
# Where paths of files lead

The place of a path is the location where writing through it puts a file. If there is a file at the
place, reading finds it there, and only there. Places depend on the directories and links of a file
system alone, not on its files.
-/

namespace TimeMarkup.FileSystem

/-- The steps lead from one location to another; the first number says how many links may be
followed, the last how many are left. -/
inductive Leads (fs : FileSystem) : Nat → Location → List Path.Step → Location → Nat → Prop
  | done {links : Nat} {l : Location} : Leads fs links l [] l links
  | here {links left : Nat} {l m : Location} {rest : List Path.Step}
      (hdir : fs.isDirectoryAt l = true) (h : Leads fs links l rest m left) :
      Leads fs links l (.here :: rest) m left
  | up {links left : Nat} {l m : Location} {rest : List Path.Step}
      (hdir : fs.isDirectoryAt l = true) (h : Leads fs links l.dropLast rest m left) :
      Leads fs links l (.up :: rest) m left
  | entry {links left : Nat} {l m : Location} {name : List Char} {rest : List Path.Step}
      {node : Node} (hdir : fs.isDirectoryAt l = true) (hname : Text.byteLength name ≤ maxName)
      (hnode : fs.node? (l ++ [name]) = some node) (hlink : ∀ target, node ≠ .link target)
      (h : Leads fs links (l ++ [name]) rest m left) : Leads fs links l (.entry name :: rest) m left
  | link {links left : Nat} {l m : Location} {name : List Char} {rest : List Path.Step}
      {target : Path} (hdir : fs.isDirectoryAt l = true) (hname : Text.byteLength name ≤ maxName)
      (hnode : fs.node? (l ++ [name]) = some (.link target))
      (h : Leads fs links (if target.isAbsolute then [] else l) (target.steps ++ rest) m left) :
      Leads fs (links + 1) l (.entry name :: rest) m left

theorem walk_eq_ok_iff {fs : FileSystem} {links left : Nat} {l m : Location}
    {steps : List Path.Step} :
    fs.walk links l steps = .ok (m, left) ↔ fs.Leads links l steps m left := by
  constructor
  · intro h
    fun_induction fs.walk links l steps with
    | case1 => cases h; exact .done
    | case2 _ _ _ hdir ih => exact .here hdir (ih h)
    | case3 _ _ _ hdir ih => exact .up hdir (ih h)
    | case7 l rest hdir name hname target hnode fewer ih =>
      exact .link hdir (Nat.le_of_not_lt hname) hnode (ih h)
    | case8 links l rest hdir name hname node hlink hnode ih =>
      exact .entry hdir (Nat.le_of_not_lt hname) hnode (fun target heq => hlink target heq) (ih h)
    | _ => cases h
  · intro h
    induction h with
    | done => rw [walk]
    | here hdir _ ih => rw [walk, if_pos hdir, ih]
    | up hdir _ ih => rw [walk, if_pos hdir, ih]
    | @entry links left l m name rest node hdir hname hnode hlink _ ih =>
      simp only [walk, if_pos hdir, if_neg (Nat.not_lt.mpr hname), hnode]
      cases node with
      | link target => exact absurd rfl (hlink target)
      | _ => exact ih
    | link hdir hname hnode _ ih =>
      simp only [walk, if_pos hdir, if_neg (Nat.not_lt.mpr hname), hnode]
      exact ih

namespace Leads
variable {fs fs' : FileSystem} {links left : Nat} {l m : Location} {steps : List Path.Step}

theorem left_le (h : fs.Leads links l steps m left) : left ≤ links :=
  walk_links_le (walk_eq_ok_iff.mpr h)

theorem unique {n : Location} {left' : Nat} (h : fs.Leads links l steps m left)
    (h' : fs.Leads links l steps n left') :
    m = n ∧ left = left' := by
  rw [← walk_eq_ok_iff] at h h'
  exact Prod.mk.inj (Except.ok.inj (h.symm.trans h'))

theorem append {last : Nat} {n : Location} {rest : List Path.Step}
    (h : fs.Leads links l steps m left) (h' : fs.Leads left m rest n last) :
    fs.Leads links l (steps ++ rest) n last := by
  induction h with
  | done => exact h'
  | here hdir _ ih => exact .here hdir (ih h')
  | up hdir _ ih => exact .up hdir (ih h')
  | entry hdir hname hnode hlink _ ih => exact .entry hdir hname hnode hlink (ih h')
  | link hdir hname hnode _ ih =>
    have hrest := ih h'
    rw [List.append_assoc] at hrest
    exact .link hdir hname hnode hrest

/-- Steps that lead somewhere lead to a place on the way first. -/
theorem split {rest : List Path.Step} (h : fs.Leads links l (steps ++ rest) m left) :
    ∃ n mid, fs.Leads links l steps n mid ∧ fs.Leads mid n rest m left := by
  generalize hall : steps ++ rest = all at h
  induction h generalizing steps with
  | done =>
    obtain ⟨rfl, rfl⟩ := List.append_eq_nil_iff.mp hall
    exact ⟨_, _, .done, .done⟩
  | @here links left l m tail hdir h ih =>
    rcases List.append_eq_cons_iff.mp hall with ⟨rfl, rfl⟩ | ⟨front, rfl, hfront⟩
    · exact ⟨_, _, .done, .here hdir h⟩
    · obtain ⟨n, mid, hn, hrest⟩ := ih hfront.symm
      exact ⟨n, mid, .here hdir hn, hrest⟩
  | @up links left l m tail hdir h ih =>
    rcases List.append_eq_cons_iff.mp hall with ⟨rfl, rfl⟩ | ⟨front, rfl, hfront⟩
    · exact ⟨_, _, .done, .up hdir h⟩
    · obtain ⟨n, mid, hn, hrest⟩ := ih hfront.symm
      exact ⟨n, mid, .up hdir hn, hrest⟩
  | @entry links left l m name tail node hdir hname hnode hlink h ih =>
    rcases List.append_eq_cons_iff.mp hall with ⟨rfl, rfl⟩ | ⟨front, rfl, hfront⟩
    · exact ⟨_, _, .done, .entry hdir hname hnode hlink h⟩
    · obtain ⟨n, mid, hn, hrest⟩ := ih hfront.symm
      exact ⟨n, mid, .entry hdir hname hnode hlink hn, hrest⟩
  | @link links left l m name tail target hdir hname hnode h ih =>
    rcases List.append_eq_cons_iff.mp hall with ⟨rfl, rfl⟩ | ⟨front, rfl, hfront⟩
    · exact ⟨_, _, .done, .link hdir hname hnode h⟩
    · obtain ⟨n, mid, hn, hrest⟩ := @ih (target.steps ++ front) (by rw [hfront, List.append_assoc])
      exact ⟨n, mid, .link hdir hname hnode hn, hrest⟩

theorem isDirectoryAt_start (h : fs.Leads links l steps m left) (hm : fs.isDirectoryAt m = true) :
    fs.isDirectoryAt l = true := by
  cases h with
  | done => exact hm
  | here hdir => exact hdir
  | up hdir => exact hdir
  | entry hdir => exact hdir
  | link hdir => exact hdir

end Leads

/-- The same directories and links, whatever files there are. -/
structure SameTree (fs fs' : FileSystem) : Prop where
  base : fs'.base = fs.base
  isDirectoryAt : ∀ l, fs'.isDirectoryAt l = fs.isDirectoryAt l
  link : ∀ l target, fs'.node? l = some (.link target) ↔ fs.node? l = some (.link target)

theorem isDirectoryAt_iff {fs : FileSystem} {l : Location} :
    fs.isDirectoryAt l = true ↔ ∃ modified, fs.node? l = some (.directory modified) := by
  simp only [FileSystem.isDirectoryAt]
  split <;> simp_all

theorem Leads.of_sameTree {fs fs' : FileSystem} {links left : Nat} {l m : Location}
    {steps : List Path.Step} (hsame : fs.SameTree fs') (h : fs.Leads links l steps m left)
    (hm : fs.isDirectoryAt m = true) :
    fs'.Leads links l steps m left := by
  induction h with
  | done => exact .done
  | here hdir _ ih => exact .here (hsame.isDirectoryAt _ ▸ hdir) (ih hm)
  | up hdir _ ih => exact .up (hsame.isDirectoryAt _ ▸ hdir) (ih hm)
  | @entry links left l m name rest node hdir hname hnode hlink h ih =>
    have hnext := hsame.isDirectoryAt _ ▸ h.isDirectoryAt_start hm
    obtain ⟨modified, hnode'⟩ := isDirectoryAt_iff.mp hnext
    exact .entry (hsame.isDirectoryAt _ ▸ hdir) hname hnode' nofun (ih hm)
  | link hdir hname hnode _ ih =>
    exact .link (hsame.isDirectoryAt _ ▸ hdir) hname ((hsame.link _ _).mpr hnode) (ih hm)

/-- Writing through the path puts a file at the location; it may have to follow links from the end
of the path on. -/
inductive IsPlace (fs : FileSystem) : Nat → Location → Path → Location → Prop
  | entry {links left : Nat} {l parent : Location} {p : Path} {init : List Path.Step}
      {name : List Char} (hsteps : p.steps = init ++ [.entry name])
      (hinit : fs.Leads links l init parent left) (hdir : fs.isDirectoryAt parent = true)
      (hname : Text.byteLength name ≤ maxName) (hfile : fs.isDirectoryAt (parent ++ [name]) = false)
      (hlink : ∀ target, fs.node? (parent ++ [name]) ≠ some (.link target)) :
      IsPlace fs links l p (parent ++ [name])
  | link {links left : Nat} {l parent m : Location} {p : Path} {init : List Path.Step}
      {name : List Char} {target : Path} (hsteps : p.steps = init ++ [.entry name])
      (hinit : fs.Leads links l init parent (left + 1)) (hdir : fs.isDirectoryAt parent = true)
      (hname : Text.byteLength name ≤ maxName)
      (hnode : fs.node? (parent ++ [name]) = some (.link target))
      (h : IsPlace fs left (if target.isAbsolute then [] else parent) target m) :
      IsPlace fs links l p m

theorem steps_of_trailing {p : Path} (h : p.hasTrailingSlash = true) :
    p.steps = (Text.words (· == '/') p).map Path.Step.of ++ [.here] := by
  rw [Path.steps, if_pos h]

theorem steps_of_not_trailing {p : Path} (h : p.hasTrailingSlash = false) :
    p.steps = (Text.words (· == '/') p).map Path.Step.of := by
  rw [Path.steps, if_neg (by simp [h]), List.append_nil]

theorem hasTrailingSlash_of_steps {p : Path} {init : List Path.Step} {name : List Char}
    (h : p.steps = init ++ [.entry name]) : p.hasTrailingSlash = false := by
  cases hslash : p.hasTrailingSlash with
  | false => rfl
  | true =>
    rw [steps_of_trailing hslash] at h
    have hlast := (List.append_inj' h rfl).2
    cases hlast

theorem steps_of_getLast? {p : Path} {step : Path.Step} (hslash : p.hasTrailingSlash = false)
    (hlast : p.steps.getLast? = some step) :
    p.steps = (Text.words (· == '/') p).dropLast.map Path.Step.of ++ [step] := by
  rw [List.getLast?_eq_some_iff] at hlast
  obtain ⟨init, hsteps⟩ := hlast
  have hinit : init = p.steps.dropLast := by rw [hsteps, List.dropLast_concat]
  rw [hinit, steps_of_not_trailing hslash, ← List.map_dropLast] at hsteps
  rw [steps_of_not_trailing hslash, hsteps]

theorem init_of_steps {p : Path} {init : List Path.Step} {name : List Char}
    (h : p.steps = init ++ [.entry name]) :
    (Text.words (· == '/') p).dropLast.map Path.Step.of = init := by
  rw [List.map_dropLast, ← steps_of_not_trailing (hasTrailingSlash_of_steps h), h,
    List.dropLast_concat]

theorem writeLocation_eq_ok_iff {fs : FileSystem} {links : Nat} {l m : Location} {p : Path} :
    fs.writeLocation links l p = .ok m ↔ fs.IsPlace links l p m := by
  constructor
  · intro h
    fun_induction fs.writeLocation links l p with
    | case7 links l p parent left hwalk hdir hslash name hlast hname target hnode hleft ih =>
      simp only [Bool.not_eq_true, Bool.not_eq_false'] at hdir hslash
      obtain ⟨fewer, rfl⟩ := Nat.exists_eq_succ_of_ne_zero hleft
      exact .link (steps_of_getLast? hslash hlast) (walk_eq_ok_iff.mp hwalk) hdir
        (Nat.le_of_not_lt hname) hnode (ih h)
    | case8 links l p parent left hwalk hdir hslash name hlast hname hdirectory hlink =>
      simp only [Bool.not_eq_true, Bool.not_eq_false'] at hdir hslash
      cases h
      have hfile : fs.isDirectoryAt (parent ++ [name]) = false := by
        rw [Bool.eq_false_iff, ne_eq, isDirectoryAt_iff]
        exact fun ⟨modified, hnode⟩ => hdirectory modified hnode
      exact .entry (steps_of_getLast? hslash hlast) (walk_eq_ok_iff.mp hwalk) hdir
        (Nat.le_of_not_lt hname) hfile fun target hnode => hlink target hnode
    | _ => cases h
  · intro h
    induction h with
    | @entry links left l parent p init name hsteps hinit hdir hname hfile hlink =>
      have hlast := congrArg List.getLast? hsteps
      rw [List.getLast?_concat] at hlast
      have hwalk := walk_eq_ok_iff.mpr hinit
      rw [← init_of_steps hsteps] at hwalk
      rw [writeLocation]
      split
      · simp_all
      · rename_i heq
        rw [hwalk] at heq
        cases heq
        simp only [hdir, hasTrailingSlash_of_steps hsteps, hlast, Bool.not_true, Bool.false_eq_true,
          if_false, if_neg (Nat.not_lt.mpr hname)]
        split
        · rename_i hnode
          exact absurd (isDirectoryAt_iff.mpr ⟨_, hnode⟩) (by simp [hfile])
        · rename_i hnode
          exact absurd hnode (hlink _)
        · rfl
    | @link links left l parent m p init name target hsteps hinit hdir hname hnode _ ih =>
      have hlast := congrArg List.getLast? hsteps
      rw [List.getLast?_concat] at hlast
      have hwalk := walk_eq_ok_iff.mpr hinit
      rw [← init_of_steps hsteps] at hwalk
      rw [writeLocation]
      split
      · simp_all
      · rename_i heq
        rw [hwalk] at heq
        cases heq
        simp only [hdir, hasTrailingSlash_of_steps hsteps, hlast, Bool.not_true, Bool.false_eq_true,
          if_false, if_neg (Nat.not_lt.mpr hname), hnode, Nat.add_one_ne_zero, dite_false,
          Nat.add_sub_cancel]
        exact ih

namespace IsPlace
variable {fs fs' : FileSystem} {links : Nat} {l m n : Location} {p : Path}

theorem unique (h : fs.IsPlace links l p m) (h' : fs.IsPlace links l p n) : m = n := by
  rw [← writeLocation_eq_ok_iff] at h h'
  exact Except.ok.inj (h.symm.trans h')

/-- A place is an entry of a directory, and neither a directory nor a link. -/
theorem exists_entry (h : fs.IsPlace links l p m) :
    (∃ parent name, m = parent ++ [name] ∧ fs.isDirectoryAt parent = true) ∧
      fs.isDirectoryAt m = false ∧ ∀ target, fs.node? m ≠ some (.link target) := by
  induction h with
  | entry hsteps hinit hdir hname hfile hlink => exact ⟨⟨_, _, rfl, hdir⟩, hfile, hlink⟩
  | link hsteps hinit hdir hname hnode h ih => exact ih

theorem of_sameTree (hsame : fs.SameTree fs') (h : fs.IsPlace links l p m) :
    fs'.IsPlace links l p m := by
  induction h with
  | entry hsteps hinit hdir hname hfile hlink =>
    refine .entry hsteps (hinit.of_sameTree hsame hdir) (hsame.isDirectoryAt _ ▸ hdir) hname ?_ ?_
    · rw [hsame.isDirectoryAt, hfile]
    · exact fun target hnode => hlink target ((hsame.link _ _).mp hnode)
  | link hsteps hinit hdir hname hnode _ ih =>
    exact .link hsteps (hinit.of_sameTree hsame hdir) (hsame.isDirectoryAt _ ▸ hdir) hname
      ((hsame.link _ _).mpr hnode) ih

/-- A file at the place of a path is what the path leads to. -/
theorem leads {number : Nat} (h : fs.IsPlace links l p m) (hm : fs.node? m = some (.file number)) :
    ∃ left, fs.Leads links l p.steps m left := by
  induction h with
  | entry hsteps hinit hdir hname hfile hlink =>
    rw [hsteps]
    exact ⟨_, hinit.append (.entry hdir hname hm nofun .done)⟩
  | link hsteps hinit hdir hname hnode _ ih =>
    obtain ⟨left, hleads⟩ := ih hm
    rw [← List.append_nil (Path.steps _)] at hleads
    rw [hsteps]
    exact ⟨left, hinit.append (.link hdir hname hnode hleads)⟩

/-- A path leads nowhere if there is nothing at its place. -/
theorem not_leads (h : fs.IsPlace links l p m) (hm : fs.node? m = none) (left : Nat) :
    ¬fs.Leads links l p.steps n left := by
  induction h generalizing left with
  | entry hsteps hinit hdir hname hfile hlink =>
    rw [hsteps]
    intro hleads
    obtain ⟨parent, mid, hinit', hlast⟩ := hleads.split
    obtain ⟨rfl, rfl⟩ := hinit.unique hinit'
    cases hlast with
    | entry _ _ hnode =>
      rw [hm] at hnode
      cases hnode
    | link _ _ hnode =>
      rw [hm] at hnode
      cases hnode
  | link hsteps hinit hdir hname hnode _ ih =>
    rw [hsteps]
    intro hleads
    obtain ⟨parent, mid, hinit', hlast⟩ := hleads.split
    obtain ⟨rfl, rfl⟩ := hinit.unique hinit'
    cases hlast with
    | entry _ _ hnode' hlink =>
      rw [hnode] at hnode'
      cases hnode'
      exact hlink _ rfl
    | link _ _ hnode' hrest =>
      rw [hnode] at hnode'
      cases hnode'
      rw [List.append_nil] at hrest
      exact ih hm left hrest

end IsPlace

/-- Every entry lies in a directory, every file is stored, and relative paths start in a
directory. -/
structure IsSound (fs : FileSystem) : Prop where
  isDirectoryAt_base : fs.isDirectoryAt fs.base = true
  isDirectoryAt_dropLast : ∀ l, (fs.node? l).isSome → fs.isDirectoryAt l.dropLast = true
  isSome_get? : ∀ l number, fs.node? l = some (.file number) → (fs.files.get? number).isSome

/-- All entries lie in the root directory, where relative paths start, and every file is stored. -/
def isFlat (fs : FileSystem) : Bool :=
  fs.base.isEmpty && fs.nodes.entries.all fun e =>
    e.1.length == 1 && match e.2 with
      | .file number => (fs.files.get? number).isSome
      | _ => true

theorem isSound_of_isFlat {fs : FileSystem} (h : fs.isFlat = true) : fs.IsSound := by
  rw [isFlat, Bool.and_eq_true, List.all_eq_true] at h
  obtain ⟨hbase, hentries⟩ := h
  have hentry {l : Location} {node : Node} (hl : l ≠ []) (hnode : fs.node? l = some node) :
      (l, node) ∈ fs.nodes.entries := by
    rw [node?, if_neg hl] at hnode
    exact Table.mem_entries_of_get? hnode
  refine ⟨by rw [List.isEmpty_iff.mp hbase]; rfl, fun l hl => ?_, fun l number hl => ?_⟩
  · by_cases hroot : l = []
    · rw [hroot]
      rfl
    · obtain ⟨node, hnode⟩ := Option.isSome_iff_exists.mp hl
      have hlength := hentries _ (hentry hroot hnode)
      rw [Bool.and_eq_true, beq_iff_eq] at hlength
      obtain ⟨name, rfl⟩ := List.length_eq_one_iff.mp hlength.1
      rfl
  · have hroot : l ≠ [] := by
      rintro rfl
      cases hl
    have hstored := hentries _ (hentry hroot hl)
    rw [Bool.and_eq_true] at hstored
    exact hstored.2

theorem not_isDirectoryAt_of_file {fs : FileSystem} {l : Location} {number : Nat}
    (h : fs.node? l = some (.file number)) : fs.isDirectoryAt l = false := by
  simp only [isDirectoryAt, h]

/-- A file to which a path leads is at the place of the path. -/
theorem isPlace_of_leads {fs : FileSystem} (hsound : fs.IsSound) {links left : Nat} {l m : Location}
    {p : Path} {number : Nat} (hl : fs.isDirectoryAt l = true) (h : fs.Leads links l p.steps m left)
    (hm : fs.node? m = some (.file number)) : fs.IsPlace links l p m := by
  have hfile : fs.isDirectoryAt m ≠ true := by simp [not_isDirectoryAt_of_file hm]
  -- Each link at the end of the path leaves fewer links to follow; links before the end do not
  -- change what the end is.
  induction links using Nat.strongRecOn generalizing l p left with
  | ind links ih =>
    rcases List.eq_nil_or_concat p.steps with hsteps | ⟨init, step, hsteps⟩
    · rw [hsteps] at h
      cases h
      exact absurd hl hfile
    · rw [List.concat_eq_append] at hsteps
      rw [hsteps] at h
      obtain ⟨parent, mid, hinit, hlast⟩ := h.split
      cases hlast with
      | here hdir hdone =>
        cases hdone
        exact absurd hdir hfile
      | up hdir hdone =>
        cases hdone
        obtain ⟨modified, hnode⟩ := isDirectoryAt_iff.mp hdir
        exact absurd (hsound.isDirectoryAt_dropLast parent (by rw [hnode]; rfl)) hfile
      | @entry _ _ _ _ name _ node hdir hname hnode hlink hdone =>
        cases hdone
        refine .entry hsteps hinit hdir hname (Bool.eq_false_iff.mpr hfile) ?_
        rw [hm]
        exact nofun
      | @link fewer _ _ _ name _ target hdir hname hnode hrest =>
        rw [List.append_nil] at hrest
        have hlt : fewer < links := hinit.left_le
        refine .link hsteps hinit hdir hname hnode (ih fewer hlt ?_ hrest)
        split
        · rfl
        · exact hdir

/-- The place of a path as programs use it. -/
def Place (fs : FileSystem) (p : Path) (l : Location) : Prop :=
  fs.IsPlace maxLinks (fs.start p) p l

/-- An entry of the directory where the path starts, if it is neither a directory nor a link, is the
place of its name. -/
theorem place_of_entry {fs : FileSystem} {p : Path} {name : List Char}
    (hsteps : p.steps = [.entry name]) (hdir : fs.isDirectoryAt (fs.start p) = true)
    (hname : Text.byteLength name ≤ maxName)
    (hfile : fs.isDirectoryAt (fs.start p ++ [name]) = false)
    (hlink : ∀ target, fs.node? (fs.start p ++ [name]) ≠ some (.link target)) :
    fs.Place p (fs.start p ++ [name]) :=
  .entry hsteps .done hdir hname hfile hlink

theorem isDirectoryAt_start {fs : FileSystem} (hsound : fs.IsSound) (p : Path) :
    fs.isDirectoryAt (fs.start p) = true := by
  rw [start]
  split
  · rfl
  · exact hsound.isDirectoryAt_base

theorem follow_eq_ok_iff {fs : FileSystem} {l m : Location} {steps : List Path.Step} :
    fs.follow l steps = .ok m ↔ ∃ left, fs.Leads maxLinks l steps m left := by
  simp only [follow, ← walk_eq_ok_iff]
  cases fs.walk maxLinks l steps with
  | error e => simp [Except.map]
  | ok found => obtain ⟨n, left⟩ := found; simp [Except.map]

theorem Place.follow {fs : FileSystem} {p : Path} {l : Location} {number : Nat} (h : fs.Place p l)
    (hl : fs.node? l = some (.file number)) : fs.follow (fs.start p) p.steps = .ok l :=
  follow_eq_ok_iff.mpr (h.leads hl)

theorem place_of_follow {fs : FileSystem} (hsound : fs.IsSound) {p : Path} {l : Location}
    {number : Nat} (h : fs.follow (fs.start p) p.steps = .ok l)
    (hl : fs.node? l = some (.file number)) : fs.Place p l := by
  obtain ⟨left, hleads⟩ := follow_eq_ok_iff.mp h
  exact isPlace_of_leads hsound (isDirectoryAt_start hsound p) hleads hl

theorem lookup_eq_ok_iff {fs : FileSystem} {p : Path} {node : Node} :
    fs.lookup p = .ok node ↔
      checkPath p = .ok () ∧ ∃ l, fs.follow (fs.start p) p.steps = .ok l ∧
      fs.node? l = some node := by
  simp only [lookup, resolve, bind, Except.bind]
  cases checkPath p with
  | error e => simp
  | ok _ =>
    cases fs.follow (fs.start p) p.steps with
    | error e => simp
    | ok l => cases hnode : fs.node? l <;> simp [hnode]

theorem exists?_iff {fs : FileSystem} {p : Path} :
    fs.exists? p = true ↔ ∃ node, fs.lookup p = .ok node := by
  simp only [exists?]
  cases fs.lookup p <;> simp

/-- Reading finds a file at the place of the path, and nowhere else. -/
theorem lookup_eq_file_iff {fs : FileSystem} (hsound : fs.IsSound) {p : Path} {number : Nat} :
    fs.lookup p = .ok (.file number) ↔
      checkPath p = .ok () ∧ ∃ l, fs.Place p l ∧ fs.node? l = some (.file number) := by
  rw [lookup_eq_ok_iff]
  constructor
  · rintro ⟨hpath, l, hfollow, hl⟩
    exact ⟨hpath, l, place_of_follow hsound hfollow hl, hl⟩
  · rintro ⟨hpath, l, hplace, hl⟩
    exact ⟨hpath, l, hplace.follow hl, hl⟩

theorem modified?_eq_none {fs : FileSystem} {p : Path} {l : Location} (hplace : fs.Place p l)
    (hl : fs.node? l = none) :
    fs.modified? p = none := by
  cases hlookup : fs.lookup p with
  | error e => simp only [modified?, hlookup]
  | ok node =>
    obtain ⟨-, m, hfollow, -⟩ := lookup_eq_ok_iff.mp hlookup
    obtain ⟨left, hleads⟩ := follow_eq_ok_iff.mp hfollow
    exact absurd hleads (hplace.not_leads hl left)

theorem follow_of_canonical? {fs : FileSystem} {p : Path} {l : Location}
    (h : fs.canonical? p = some l) :
    fs.follow (fs.start p) p.steps = .ok l := by
  simp only [canonical?] at h
  split at h
  · cases h
  · split at h
    · rename_i m hfollow
      split at h
      · rw [hfollow, Option.some.inj h]
      · cases h
    · cases h

theorem isSome_canonical?_of_lookup {fs : FileSystem} {p : Path} {node : Node}
    (h : fs.lookup p = .ok node) :
    (fs.canonical? p).isSome := by
  obtain ⟨hpath, l, hfollow, hl⟩ := lookup_eq_ok_iff.mp h
  simp only [checkPath] at hpath
  split at hpath
  · cases hpath
  · rename_i hnul
    split at hpath
    · cases hpath
    · rename_i hempty
      simp only [canonical?, Bool.eq_false_iff.mpr hnul, Bool.eq_false_iff.mpr hempty, hfollow, hl,
        Bool.or_self, Bool.false_eq_true, if_false, Option.isSome_some, if_true]

end TimeMarkup.FileSystem
