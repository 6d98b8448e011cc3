import FrontEnd.Encoding.Json
import FrontEnd.Report.View

/-!
The machine-readable report on a bag. It lists the first diagnostics up to a maximum, and what it
cuts counts as dropped together with what the bag refused.
-/

namespace FrontEnd

namespace Report

/-- A span with the path of its file; positions are there when they were asked for. -/
structure Location where
  file : Bytes
  span : Span
  positions : Option (Position × Position)

structure NoteEntry where
  message : Bytes
  location : Location

structure Entry where
  severity : Severity
  code : Code
  message : Bytes
  args : List Bytes
  location : Location
  notes : List NoteEntry

structure Options where
  view : PathView
  positions : Bool
  notes : Bool
  /-- The most diagnostics to list; all of them when it is not positive. -/
  max : Int

end Report

structure Report where
  entries : List Report.Entry
  dropped : Nat

namespace Report

def count (r : Report) : Nat := r.entries.length

def locate (o : Options) (fs : FileSet) (s : Span) : Except SourceError Location :=
  (fs.get s.file).map fun f =>
    ⟨fs.showPath o.view f, s,
      if o.positions then some (f.locate s.start, f.locate s.stop) else none⟩

def noteEntry (o : Options) (fs : FileSet) (n : Note) : Except SourceError NoteEntry :=
  (locate o fs n.span).map (⟨n.message, ·⟩)

def entry (o : Options) (fs : FileSet) (d : Diagnostic) : Except SourceError Entry := do
  let location ← locate o fs d.primary
  let notes ← if o.notes then d.notes.mapM (noteEntry o fs) else pure []
  return ⟨d.severity, d.code, d.message, d.args.map Arg.render, location, notes⟩

/-- How many of `n` diagnostics are listed. -/
def keep (max : Int) (n : Nat) : Nat := if max > 0 then min n max.toNat else n

def build (o : Options) (fs : FileSet) (bag : Bag) : Except SourceError Report := do
  let n := keep o.max bag.size
  let entries ← (bag.items.toList.take n).mapM (entry o fs)
  return ⟨entries, bag.dropped + bag.size - n⟩

open Json (field textField? natField? listField?)

def Location.json (l : Location) : Json :=
  .obj (field "file" (.str l.file) ++ field "start_byte" (.nat l.span.start.toNat)
    ++ field "end_byte" (.nat l.span.stop.toNat)
    ++ match l.positions with
      | none => []
      | some (a, b) => natField? "start_line" a.line.toNat ++ natField? "start_col" a.col.toNat
          ++ natField? "end_line" b.line.toNat ++ natField? "end_col" b.col.toNat)

def NoteEntry.json (n : NoteEntry) : Json :=
  .obj (field "message" (.str n.message) ++ field "location" n.location.json)

def Entry.json (e : Entry) : Json :=
  .obj (field "severity" (.str e.severity.name) ++ field "code" (.str e.code.id)
    ++ field "title" (.str e.code.title) ++ field "message" (.str e.message)
    ++ listField? "args" (e.args.map .str) ++ field "location" e.location.json
    ++ listField? "notes" (e.notes.map NoteEntry.json))

def json (r : Report) : Json :=
  .obj (field "diagnostics" (.arr (r.entries.map Entry.json)) ++ field "count" (.nat r.count)
    ++ natField? "dropped" r.dropped)

end Report

end FrontEnd
