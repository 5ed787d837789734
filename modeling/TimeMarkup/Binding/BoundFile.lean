import TimeMarkup.Binding.Pass
import TimeMarkup.Storage.Change
/-!
Files after a bind pass. Binding reads a file and changes nothing; the bound markup is written where
it is wanted.
-/

namespace TimeMarkup

/-- What a bind pass made of the file at a path. -/
structure BoundFile where
  path : Path
  document : Markup.Document
  report : Report
  deriving DecidableEq

namespace BoundFile

def html (b : BoundFile) : List Char :=
  b.document.html

def ofText (f : Formatter) (now : Instant) (p : Path) (text : List Char) : BoundFile :=
  let (document, report) := (Markup.Document.parse text).bind f now
  ⟨p, document, report⟩

def read (f : Formatter) (now : Instant) (fs : FileSystem) (p : Path) : Except IoError BoundFile :=
  (fs.readText p).map (ofText f now p)

def write (b : BoundFile) (fs : FileSystem) (p : Path) : Except IoError FileSystem :=
  fs.write p (.text b.html)

theorem document_ofText (f : Formatter) (now : Instant) (p : Path) (text : List Char) :
    (ofText f now p text).document = ((Markup.Document.parse text).bind f now).1 := rfl

theorem report_ofText (f : Formatter) (now : Instant) (p : Path) (text : List Char) :
    (ofText f now p text).report = ((Markup.Document.parse text).bind f now).2 := rfl

end BoundFile

end TimeMarkup
