import TimeMarkup.Markup.Attribute
import TimeMarkup.Markup.Scan
import TimeMarkup.Markup.TextContent
import TimeMarkup.Text.Bytes
/-!
Documents: markup with the time elements that ask for a local time, each with the place of its
content in the source. Only the content of elements whose text has been set differs from the source.
-/

namespace TimeMarkup.Markup
open Text (Span byteLength)

/-- The attribute by which an element asks for a local time; its value selects the mode. -/
def modeAttribute : List Char := "data-local-time".toList

def datetimeAttribute : List Char := "datetime".toList

/-- A time element: its attributes, where its content lies in the source, its visible text, and
whether that text has been set. -/
structure Element where
  attributes : List Attribute
  content : Span
  text : List Char
  isChanged : Bool
  deriving DecidableEq

namespace Element

def attribute? (e : Element) (name : List Char) : Option (List Char) :=
  Attribute.lookup? e.attributes name

def isOptedIn (e : Element) : Bool :=
  e.attributes.any (·.name = modeAttribute)

def setText (text : List Char) (e : Element) : Element :=
  { e with text := text, isChanged := true }

/-- The element as it is read from an opening tag's body and a content that starts at a place. -/
def read (tagBody : List Char) (place : Nat) (content : List Char) : Element :=
  { attributes := Attribute.parse tagBody
    content := ⟨place, place + byteLength content⟩
    text := textContent content
    isChanged := false }

/-- The element that a stretch from a place on makes, if it is a time element that asks for a local
time. -/
def ofStretch? (place : Nat) : Stretch → Option Element
  | .time name tagBody content _ =>
    let e := read tagBody (place + byteLength (openingTag name tagBody)) content
    if e.isOptedIn then some e else none
  | _ => none

def ofStretches (place : Nat) : List Stretch → List Element
  | [] => []
  | s :: ss => (ofStretch? place s).toList ++ ofStretches (place + byteLength s.source) ss

@[simp] theorem attributes_setText (text : List Char) (e : Element) :
    (e.setText text).attributes = e.attributes := rfl

@[simp] theorem attribute?_setText (text : List Char) (e : Element) (name : List Char) :
    (e.setText text).attribute? name = e.attribute? name := rfl

@[simp] theorem content_setText (text : List Char) (e : Element) :
    (e.setText text).content = e.content := rfl

@[simp] theorem text_setText (text : List Char) (e : Element) : (e.setText text).text = text := rfl

@[simp] theorem isChanged_setText (text : List Char) (e : Element) :
    (e.setText text).isChanged = true := rfl

@[simp] theorem setText_setText (s t : List Char) (e : Element) :
    (e.setText s).setText t = e.setText t := rfl

end Element

/-- Markup, and the time elements in it. -/
structure Document where
  source : List Char
  elements : List Element
  deriving DecidableEq

namespace Document

def parse (source : List Char) : Document :=
  ⟨source, Element.ofStretches 0 (scan source)⟩

/-- The source from a place on, with the texts of elements in place of their contents. There is none
if a content lies before the place, outside of the source or starts or ends within a character. -/
def withTexts? (source : List Char) : Nat → List Element → Option (List Char)
  | place, [] => Text.sliceFrom? place source
  | place, e :: es => do
    let before ← Text.slice? ⟨place, e.content.start⟩ source
    let after ← withTexts? source e.content.stop es
    some (before ++ escape e.text ++ after)

/-- The document as markup, if the contents of the changed elements follow each other in the
source. -/
def html? (d : Document) : Option (List Char) :=
  withTexts? d.source 0 (d.elements.filter (·.isChanged))

/-- The document as markup. Documents that come from markup always have one. -/
def html (d : Document) : List Char :=
  d.html?.getD []

def map (f : Element → Element) (d : Document) : Document :=
  { d with elements := d.elements.map f }

/-- The document with a text set for the time element that has `index` others before it. -/
def setText (index : Nat) (text : List Char) (d : Document) : Document :=
  { d with elements := d.elements.modify index (Element.setText text) }

@[simp] theorem source_parse (source : List Char) : (parse source).source = source := rfl

@[simp] theorem elements_map (f : Element → Element) (d : Document) :
    (d.map f).elements = d.elements.map f := rfl

@[simp] theorem source_map (f : Element → Element) (d : Document) :
    (d.map f).source = d.source := rfl

theorem map_map (f g : Element → Element) (d : Document) : (d.map f).map g = d.map (g ∘ f) := by
  simp [map]

@[simp] theorem source_setText (index : Nat) (text : List Char) (d : Document) :
    (d.setText index text).source = d.source := rfl

@[simp] theorem elements_setText (index : Nat) (text : List Char) (d : Document) :
    (d.setText index text).elements = d.elements.modify index (Element.setText text) := rfl

end Document

end TimeMarkup.Markup
