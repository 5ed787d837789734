import Mathlib.Data.List.Forall2
import Mathlib.Data.List.Induction
import TimeMarkup.Proofs.Storage.PathOrder
import TimeMarkup.Storage.Discovery

/-!
# What inputs stand for

Each input stands for some paths, whatever stands in front of it and behind it. The paths of all
inputs together are what is found, except that a path is left out if it is the same as an earlier
one.
-/

namespace TimeMarkup.Discovery
variable {fs : FileSystem} {found ps qs inputs : List Path} {p q input : Path}

/-- The input names nothing that exists, and is no pattern either. -/
def IsMalformed (fs : FileSystem) (input : Path) : Prop :=
  fs.exists? input = false ∧ ∃ e, PathPattern.parse input = .error e

/-- The paths for which an input stands: itself if it exists, and otherwise all files that match it,
in order. -/
inductive Expands (fs : FileSystem) (input : Path) : List Path → Prop
  | itself (hexists : fs.exists? input = true) : Expands fs input [input]
  | files {pattern : PathPattern} {ps : List Path} (hexists : fs.exists? input = false)
      (hpattern : PathPattern.parse input = .ok pattern)
      (hsorted : ps.Pairwise fun p q => p.le q = true)
      (hfiles : ps.Perm ((matching fs pattern).filter fs.isFile)) : Expands fs input ps

/-- The paths that are not the same as an earlier one. -/
def firsts (ps : List Path) : List Path :=
  (ps.zipIdx.filter fun x => !(ps.take x.2).any x.1.same).map Prod.fst

theorem pairwise_matchingFiles (fs : FileSystem) (pattern : PathPattern) :
    (matchingFiles fs pattern).Pairwise fun p q => p.le q = true :=
  @List.pairwise_mergeSort Path Path.le (fun _ _ _ => Path.le_trans) Path.le_total _

theorem expands_of_expand (h : expand fs input = .ok ps) : Expands fs input ps := by
  rw [expand] at h
  split at h
  · cases h
    exact .itself ‹_›
  · rename_i hexists
    cases hpattern : PathPattern.parse input with
    | error e =>
      rw [hpattern] at h
      cases h
    | ok pattern =>
      rw [hpattern] at h
      cases h
      have hsorted := pairwise_matchingFiles fs pattern
      exact .files (Bool.eq_false_iff.mpr hexists) hpattern hsorted (List.mergeSort_perm _ _)

theorem expand_eq_error_iff : (∃ e, expand fs input = .error e) ↔ IsMalformed fs input := by
  rw [expand, IsMalformed]
  split
  · rename_i hexists
    simp [hexists]
  · rename_i hexists
    cases PathPattern.parse input <;> simp [Except.map, hexists]

theorem discoverFrom_cons (fs : FileSystem) (found : List Path) (input : Path)
    (inputs : List Path) :
    discoverFrom fs found (input :: inputs) =
      expand fs input >>= fun ps => discoverFrom fs (ps.foldl addNew found) inputs := by
  rw [discoverFrom, expand]
  split
  · rfl
  · cases PathPattern.parse input <;> rfl

theorem discoverFrom_append (fs : FileSystem) (found xs ys : List Path) :
    discoverFrom fs found (xs ++ ys) = discoverFrom fs found xs >>= fun qs =>
      discoverFrom fs qs ys := by
  induction xs generalizing found with
  | nil => rfl
  | cons x xs ih =>
    rw [List.cons_append, discoverFrom_cons, discoverFrom_cons]
    cases expand fs x with
    | error e => rfl
    | ok ps => exact ih _

section Found

theorem addNew_of_any (h : found.any p.same = true) : addNew found p = found :=
  if_pos h

theorem addNew_of_not_any (h : found.any p.same = false) : addNew found p = found ++ [p] :=
  if_neg (by simp [h])

theorem prefix_addNew (found : List Path) (p : Path) : found <+: addNew found p := by
  cases h : found.any p.same with
  | true => exact ⟨[], by rw [addNew_of_any h, List.append_nil]⟩
  | false => exact ⟨[p], (addNew_of_not_any h).symm⟩

theorem any_addNew (found : List Path) (p q : Path) :
    (addNew found p).any q.same = (found.any q.same || q.same p) := by
  cases h : found.any p.same with
  | false => rw [addNew_of_not_any h, List.any_append, List.any_cons, List.any_nil, Bool.or_false]
  | true =>
    rw [addNew_of_any h, Bool.eq_iff_iff, Bool.or_eq_true]
    refine ⟨.inl, fun hq => hq.elim id fun hq => ?_⟩
    obtain ⟨r, hr, hp⟩ := List.any_eq_true.mp h
    exact List.any_eq_true.mpr ⟨r, hr, Path.same_trans hq hp⟩

theorem prefix_foldl_addNew (found ps : List Path) : found <+: ps.foldl addNew found := by
  induction ps generalizing found with
  | nil => exact List.prefix_refl found
  | cons p ps ih => exact (prefix_addNew found p).trans (ih _)

theorem any_foldl_addNew (found ps : List Path) (q : Path) :
    (ps.foldl addNew found).any q.same = (found.any q.same || ps.any q.same) := by
  induction ps generalizing found with
  | nil => simp
  | cons p ps ih => rw [List.foldl_cons, ih, any_addNew, List.any_cons, Bool.or_assoc]

/-- Paths that have all been found leave what has been found as it is. -/
theorem foldl_addNew_of_any (h : ∀ p ∈ ps, found.any p.same = true) :
    ps.foldl addNew found = found := by
  induction ps with
  | nil => rfl
  | cons p ps ih =>
    rw [List.forall_mem_cons] at h
    rw [List.foldl_cons, addNew_of_any h.1, ih h.2]

theorem firsts_concat (ps : List Path) (p : Path) :
    firsts (ps ++ [p]) = if ps.any p.same then firsts ps else firsts ps ++ [p] := by
  have hfront : ∀ x ∈ ps.zipIdx, ((ps ++ [p]).take x.2).any x.1.same =
      (ps.take x.2).any x.1.same := by
    intro x hx
    rw [List.take_append_of_le_length (Nat.le_of_lt (List.snd_lt_of_mem_zipIdx hx))]
  have hlast : (ps ++ [p]).take ps.length = ps := List.take_left
  rw [firsts, List.zipIdx_append, List.filter_append, List.map_append,
    List.filter_congr fun x hx => by rw [hfront x hx], ← firsts]
  rw [List.zipIdx_singleton, Nat.zero_add, List.filter_singleton, hlast]
  cases ps.any p.same with
  | true => exact List.append_nil _
  | false => rfl

theorem foldl_addNew_nil (ps : List Path) : ps.foldl addNew [] = firsts ps := by
  induction ps using List.reverseRecOn with
  | nil => rfl
  | append_singleton ps p ih =>
    have hany := any_foldl_addNew [] ps p
    rw [List.any_nil, Bool.false_or] at hany
    rw [List.foldl_append, List.foldl_cons, List.foldl_nil, addNew, hany, firsts_concat, ih]

theorem pairwise_addNew (h : found.Pairwise fun p q => p.same q = false) (p : Path) :
    (addNew found p).Pairwise fun p q => p.same q = false := by
  cases hany : found.any p.same with
  | true => rwa [addNew_of_any hany]
  | false =>
    rw [addNew_of_not_any hany, List.pairwise_append]
    refine ⟨h, List.pairwise_singleton _ _, fun q hq r hr => ?_⟩
    obtain rfl := List.mem_singleton.mp hr
    have hne := List.any_eq_false.mp hany q hq
    exact Bool.eq_false_iff.mpr fun hsame => hne (Path.same_symm hsame)

theorem pairwise_foldl_addNew (h : found.Pairwise fun p q => p.same q = false) (ps : List Path) :
    (ps.foldl addNew found).Pairwise fun p q => p.same q = false := by
  induction ps generalizing found with
  | nil => exact h
  | cons p ps ih => exact ih (pairwise_addNew h p)

end Found

theorem discoverFrom_eq_error_iff :
    (∃ e, discoverFrom fs found inputs = .error e) ↔ ∃ input ∈ inputs, IsMalformed fs input := by
  induction inputs generalizing found with
  | nil => simp [discoverFrom]
  | cons input inputs ih =>
    rw [discoverFrom_cons, List.exists_mem_cons_iff, ← expand_eq_error_iff]
    cases h : expand fs input with
    | error e => exact ⟨fun _ => .inl ⟨e, rfl⟩, fun _ => ⟨e, rfl⟩⟩
    | ok ps =>
      refine ih.trans ⟨.inr, fun herror => herror.resolve_left ?_⟩
      rintro ⟨e, he⟩
      cases he

/-- What is found on the way through some inputs: all that they stand for, one after the other. -/
theorem exists_expansions (h : discoverFrom fs found inputs = .ok ps) :
    ∃ es, List.Forall₂ (Expands fs) inputs es ∧ ps = es.flatten.foldl addNew found := by
  induction inputs generalizing found with
  | nil =>
    cases h
    exact ⟨[], .nil, rfl⟩
  | cons input inputs ih =>
    rw [discoverFrom_cons] at h
    cases hinput : expand fs input with
    | error e =>
      rw [hinput] at h
      cases h
    | ok qs =>
      rw [hinput] at h
      obtain ⟨es, hes, rfl⟩ := ih h
      refine ⟨qs :: es, .cons (expands_of_expand hinput) hes, ?_⟩
      rw [List.flatten_cons, List.foldl_append]

/-- What an input stands for has been found after it. -/
theorem any_of_discoverFrom (h : discoverFrom fs found inputs = .ok ps) (hinput : input ∈ inputs) :
    ∃ qs, expand fs input = .ok qs ∧ ∀ q ∈ qs, ps.any q.same = true := by
  induction inputs generalizing found with
  | nil => cases hinput
  | cons x inputs ih =>
    rw [discoverFrom_cons] at h
    cases hx : expand fs x with
    | error e =>
      rw [hx] at h
      cases h
    | ok qs =>
      rw [hx] at h
      rcases List.mem_cons.mp hinput with rfl | hlater
      · refine ⟨qs, hx, fun q hq => ?_⟩
        obtain ⟨es, -, rfl⟩ := exists_expansions h
        have hfound : qs.any q.same = true := List.any_eq_true.mpr ⟨q, hq, Path.same_refl q⟩
        rw [any_foldl_addNew, any_foldl_addNew, hfound, Bool.or_true, Bool.true_or]
      · exact ih h hlater

theorem discover_repeated {xs : List Path} (h : input ∈ xs) (ys : List Path) :
    discover fs (xs ++ input :: ys) = discover fs (xs ++ ys) := by
  rw [discover, discover, discoverFrom_append, discoverFrom_append]
  cases hxs : discoverFrom fs [] xs with
  | error e => rfl
  | ok ps =>
    obtain ⟨qs, hqs, hfound⟩ := any_of_discoverFrom hxs h
    change discoverFrom fs ps (input :: ys) = discoverFrom fs ps ys
    rw [discoverFrom_cons, hqs]
    change discoverFrom fs (qs.foldl addNew ps) ys = _
    rw [foldl_addNew_of_any hfound]

theorem prefix_of_discover_append {xs ys : List Path} (h : discover fs (xs ++ ys) = .ok ps) :
    ∃ qs, discover fs xs = .ok qs ∧ qs <+: ps := by
  rw [discover, discoverFrom_append] at h
  cases hxs : discoverFrom fs [] xs with
  | error e =>
    rw [hxs] at h
    cases h
  | ok qs =>
    rw [hxs] at h
    obtain ⟨es, -, rfl⟩ := exists_expansions h
    exact ⟨qs, hxs, prefix_foldl_addNew qs es.flatten⟩

/-- What inputs stand for. Finding it fails exactly if one of them is malformed. Otherwise each
input stands for some paths, and what is found is all of these in the order of the inputs, without
those that are the same as an earlier one. Hence no two paths that are found are the same, an input
that is repeated changes nothing, and further inputs only add paths behind those of the inputs
before them. -/
theorem discover_eq_firsts (fs : FileSystem) (inputs : List Path) :
    ((∃ e, discover fs inputs = .error e) ↔ ∃ input ∈ inputs, IsMalformed fs input) ∧
    ((∀ input ∈ inputs, ¬IsMalformed fs input) →
      ∃ es, List.Forall₂ (Expands fs) inputs es ∧ discover fs inputs = .ok (firsts es.flatten)) ∧
    (∀ ps, discover fs inputs = .ok ps → ps.Pairwise fun p q => p.same q = false) ∧
    (∀ xs input ys, inputs = xs ++ input :: ys → input ∈ xs →
      discover fs inputs = discover fs (xs ++ ys)) ∧
    ∀ xs ys ps, inputs = xs ++ ys → discover fs inputs = .ok ps → ∃ qs, discover fs xs = .ok qs ∧
      qs <+: ps := by
  have herror : (∃ e, discover fs inputs = .error e) ↔ ∃ input ∈ inputs, IsMalformed fs input :=
    discoverFrom_eq_error_iff
  refine ⟨herror, fun hformed => ?_, fun ps h => ?_, ?_, ?_⟩
  · cases h : discover fs inputs with
    | error e =>
      obtain ⟨input, hinput, hmalformed⟩ := herror.mp ⟨e, h⟩
      exact absurd hmalformed (hformed input hinput)
    | ok ps =>
      obtain ⟨es, hes, rfl⟩ := exists_expansions h
      exact ⟨es, hes, congrArg Except.ok (foldl_addNew_nil _)⟩
  · obtain ⟨es, -, rfl⟩ := exists_expansions h
    exact pairwise_foldl_addNew List.Pairwise.nil _
  · rintro xs input ys rfl hmem
    exact discover_repeated hmem ys
  · rintro xs ys ps rfl h
    exact prefix_of_discover_append h

end TimeMarkup.Discovery
