import TimeMarkup.Binding.BoundFile
import TimeMarkup.Text.Json
/-!
Reports of bound files as they are shown: a line for each file with its warnings below, or a list in
JSON.
-/

namespace TimeMarkup

inductive ReportStyle
  | plain
  | json
  deriving DecidableEq, Repr

def ReportStyle.ofName? (s : String) : Option ReportStyle :=
  match s with
  | "text" => some plain
  | "json" => some json
  | _ => none

def Report.summary (p : Path) (r : Report) : String :=
  String.ofList p ++ ": " ++ toString r.matched ++ " matched, " ++ toString r.updated
    ++ " updated, " ++ toString r.diagnostics.length ++ " diagnostic(s)"

def Diagnostic.json (d : Diagnostic) : Json :=
  .object <| ("index", .number d.index) :: ("kind", .text d.problem.kind.toList)
    :: (d.problem.value?.map fun value => ("value", Json.text value)).toList

def Report.json (r : Report) : Json :=
  .object
    [("diagnostics", .list (r.diagnostics.map Diagnostic.json)), ("matched", .number r.matched),
      ("updated", .number r.updated)]

namespace BoundFile

def lines (b : BoundFile) : List String :=
  b.report.summary b.path :: b.report.warnings

def json (b : BoundFile) : Json :=
  .object [("path", .text b.path), ("report", b.report.json)]

def listing (style : ReportStyle) (bs : List BoundFile) : List String :=
  match style with
  | .plain => bs.flatMap lines
  | .json => [(Json.list (bs.map json)).pretty]

end BoundFile

end TimeMarkup
