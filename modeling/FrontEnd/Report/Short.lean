import FrontEnd.Report.View
import FrontEnd.Text.Trim

/-!
Diagnostics on one line each, and the stream format that shows each as it is reported. A place
that is not in the set is shown as unknown.
-/

namespace FrontEnd

namespace Short

/-- The path, line and column of a span's start. The set is asked for files that it has, and the
file for offsets that it has. -/
def locate (view : PathView) (fs : Option FileSet) (s : Span) :
    Except SourceError (Bytes × Position) :=
  let unknown : Bytes × Position := ("<unknown>", ⟨0, 0⟩)
  match fs with
  | none => .ok unknown
  | some fs =>
    if s.file.toNat < fs.size then do
      let f ← fs.get s.file
      if s.start ≤ f.size then
        let p ← f.positionOf s.start
        return (fs.showPath view f, p)
      else return unknown
    else .ok unknown

def line (view : PathView) (fs : Option FileSet) (s : Span) (severity code message : Bytes) :
    Except SourceError Bytes := do
  let (path, p) ← locate view fs s
  return path ++ ":" ++ Bytes.decimal p.line.toNat ++ ":" ++ Bytes.decimal p.col.toNat ++ ": "
    ++ severity ++ " " ++ code ++ ": " ++ message.foldLines ++ "\n"

def renderOne (view : PathView) (notes : Bool) (fs : Option FileSet) (d : Diagnostic) :
    Except SourceError Bytes := do
  let head ← line view fs d.primary d.severity.name.lower d.code.id d.message
  let rest ← (if notes then d.notes else []).mapM fun n =>
    line view fs n.span "note" d.code.id n.message
  return head ++ rest.flatten

def render (view : PathView) (notes : Bool) (fs : Option FileSet) (bag : Bag) :
    Except SourceError Bytes :=
  (bag.items.toList.mapM (renderOne view notes fs)).map List.flatten

end Short

/-- One line for a diagnostic as it is reported. -/
def streamLine (ink : Ink) (view : PathView) (fs : FileSet) (d : Diagnostic) : Bytes :=
  let path : Bytes := match fs.get d.primary.file with
    | .ok f => fs.showPath view f
    | .error _ => "<unknown>"
  ink.inline Palette.path (path ++ ":") ++ " "
    ++ ink.inline (Palette.severity d.severity) (d.code.id ++ ":") ++ " " ++ d.message ++ "\n"

end FrontEnd
