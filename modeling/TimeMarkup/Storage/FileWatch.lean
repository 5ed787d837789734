import TimeMarkup.Storage.FileSystem
/-!
Watching a file for changes of its modification time. A file that disappears has not changed, but
one that comes back has.
-/

namespace TimeMarkup

/-- A watched path and the modification time that counts as seen. -/
structure FileWatch where
  path : Path
  seen : Option Int
  deriving DecidableEq

namespace FileWatch

def start (fs : FileSystem) (p : Path) : FileWatch :=
  ⟨p, fs.modified? p⟩

/-- The watch with the present state taken as seen. -/
def refresh (fs : FileSystem) (w : FileWatch) : FileWatch :=
  { w with seen := fs.modified? w.path }

/-- Whether a change would be found. -/
def hasChanged (fs : FileSystem) (w : FileWatch) : Bool :=
  (fs.modified? w.path).isSome && fs.modified? w.path ≠ w.seen

/-- Whether the file has changed, and the watch with the change taken as seen. -/
def changed (fs : FileSystem) (w : FileWatch) : FileWatch × Bool :=
  match fs.modified? w.path with
  | some modified =>
    if some modified = w.seen then (w, false) else ({ w with seen := some modified }, true)
  | none => ({ w with seen := none }, false)

/-- Whether a path leads to the watched file, by the canonical locations of both. -/
def isSameFile (fs : FileSystem) (w : FileWatch) (other : Path) : Bool :=
  match fs.canonical? w.path, fs.canonical? other with
  | some l, some m => l == m
  | _, _ => false

/-- Asking for a change takes the present state as seen. -/
theorem changed_eq (fs : FileSystem) (w : FileWatch) :
    w.changed fs = (w.refresh fs, w.hasChanged fs) := by
  simp only [changed, refresh, hasChanged]
  cases hmodified : fs.modified? w.path with
  | none => rfl
  | some modified =>
    by_cases hseen : some modified = w.seen
    · simp [hseen]
    · simp [hseen]

@[simp] theorem hasChanged_refresh (fs : FileSystem) (w : FileWatch) :
    (w.refresh fs).hasChanged fs = false := by
  simp [hasChanged, refresh]

@[simp] theorem hasChanged_start (fs : FileSystem) (p : Path) :
    (start fs p).hasChanged fs = false := by
  simp [hasChanged, start]

@[simp] theorem path_refresh (fs : FileSystem) (w : FileWatch) : (w.refresh fs).path = w.path := rfl

end FileWatch

end TimeMarkup
