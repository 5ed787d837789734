import TimeMarkup.Proofs.Command.Opening
import TimeMarkup.Proofs.Storage.Overwriting

/-!
# Obstacles in the way of binding

Files are bound in place one after the other, and the first one that cannot be read ends the run:
those before it are rewritten, each as of the time of its turn, all others are as they were, and no
report is shown. Where the inputs stand for no files, or for too many, the run ends before the
content of any of them matters.
-/

namespace TimeMarkup

namespace Discovery
variable {fs fs' : FileSystem} (h : fs.SameNodes fs')
include h

end Discovery

namespace Binding
variable {f : Formatter} {now : Instant} {instant : Nat → Instant} {fs fs' : FileSystem}
  {s : Session} {ps : List Path} {p q : Path} {text : List Char} {number : Nat} {e : IoError}

/-- The paths do not lead to one file. -/
def LeadApart (fs : FileSystem) (p q : Path) : Prop :=
  ∀ n, fs.lookup p = .ok (.file n) → fs.lookup q ≠ .ok (.file n)

theorem LeadApart.of_sameNodes (h : fs.SameNodes fs') (hapart : LeadApart fs p q) :
    LeadApart fs' p q := by
  intro n
  rw [h.lookup, h.lookup]
  exact hapart n

/-- The files to which the paths lead hold the markup of one pass over what they held, each as of an
instant of its own, and all other files are as they were. -/
structure Rebinds (f : Formatter) (instant : Nat → Instant) (ps : List Path) (fs fs' : FileSystem) :
    Prop where
  sameNodes : fs.SameNodes fs'
  bound : ∀ k p, ps[k]? = some p → ∀ text, fs.readText p = .ok text →
    fs'.read p = .ok (.text (BoundFile.ofText f (instant k) p text).html)
  kept : ∀ n, (∀ p ∈ ps, fs.lookup p ≠ .ok (.file n)) → fs'.files.get? n = fs.files.get? n

namespace Rebinds

theorem nil (f : Formatter) (instant : Nat → Instant) (fs : FileSystem) :
    Rebinds f instant [] fs fs :=
  ⟨⟨rfl, rfl⟩, nofun, fun _ _ => rfl⟩

/-- A path that leads to none of the files is read as before. -/
theorem read_eq (h : Rebinds f instant ps fs fs') (hapart : ∀ p ∈ ps, LeadApart fs p q) :
    fs'.read q = fs.read q :=
  h.sameNodes.read fun n hn => h.kept n fun p hp hlookup => hapart p hp n hlookup hn

theorem cons (hlookup : fs.lookup p = .ok (.file number)) (htext : fs.readText p = .ok text)
    (hapart : ∀ q ∈ ps, LeadApart fs p q)
    (h : Rebinds f (fun k => instant (k + 1)) ps
      (fs.overwrite number (.text (BoundFile.ofText f (instant 0) p text).html)) fs') :
    Rebinds f instant (p :: ps) fs fs' := by
  have hsame := fs.sameNodes_overwrite number (.text (BoundFile.ofText f (instant 0) p text).html)
  refine ⟨⟨h.sameNodes.nodes, h.sameNodes.base⟩, ?_, ?_⟩
  · intro k q hq text' htext'
    cases k with
    | zero =>
      cases hq
      cases htext.symm.trans htext'
      rw [h.read_eq fun r hr => .of_sameNodes hsame fun n hn hn' => hapart r hr n hn' hn]
      exact FileSystem.read_overwrite_self hlookup _
    | succ k =>
      have hlater := hapart q (List.mem_of_getElem? hq)
      refine h.bound k q hq text' ?_
      rw [FileSystem.readText_eq_ok_iff,
        FileSystem.read_overwrite_of_ne (hlater number hlookup)]
      exact FileSystem.readText_eq_ok_iff.mp htext'
  · intro n hn
    have hne : n ≠ number := by
      rintro rfl
      exact hn p List.mem_cons_self hlookup
    rw [h.kept n fun q hq => by rw [hsame.lookup]; exact hn q (List.mem_cons_of_mem p hq)]
    exact Table.get?_put_of_ne _ _ hne

end Rebinds

end Binding

namespace Obstacle

end Obstacle

namespace Run

section Steps
variable {t : BindTask} {s s' : Session} {p : Path} {ps : List Path}

end Steps

variable {h : Host} {c : Config} {args : List (List Char)} {inputs paths : List Path}
  {destination : Destination} {viewer : Overrides}

end Run

end TimeMarkup
