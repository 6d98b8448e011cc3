import FrontEnd.Report.View
import FrontEnd.Unicode.Width

/-!
Diagnostics for reading: a head line, the source line with tabs as blanks, and an underline with
a caret below the octets concerned, aligned by the columns that the characters take.
-/

namespace FrontEnd.Pretty

structure Options where
  ink : Ink
  view : PathView
  notes : Bool

/-- Tabs as single blanks. -/
def untab (s : Bytes) : Bytes := s.map fun b => if b = 9 then 32 else b

def displayWidth (s : Bytes) : Nat := Unicode.width (untab s)

/-- The octets from one place of a line up to another, which must be places of it and in order. -/
def between (line : Bytes) (start stop : Int) : Except SourceError Bytes :=
  if 0 ≤ start ∧ start ≤ stop ∧ stop ≤ line.length then
    .ok ((line.take stop.toNat).drop start.toNat)
  else .error .reversed

/-- An octet over and over, which cannot be less than no times. -/
def repeated (b : UInt8) (count : Int) : Except SourceError Bytes :=
  if 0 ≤ count then .ok (List.replicate count.toNat b) else .error .negativeCount

/-- The columns before the octet `start` of a line, and those of the octets from there to `stop`:
at least one. Both places are first brought into the line and in order. -/
def underline (line : Bytes) (start stop : Int) : Except SourceError (Int × Int) := do
  let start := min (max start 0) line.length
  let stop := min (max stop start) line.length
  let before ← between line 0 start
  let marked ← between line start stop
  return (displayWidth before, max (displayWidth marked : Int) 1)

def blanksOf (n : Nat) : Bytes := List.replicate n 32

/-- `path:line:col:` -/
def place (path : Bytes) (p : Position) : Bytes :=
  path ++ ":" ++ Bytes.decimal p.line.toNat ++ ":" ++ Bytes.decimal p.col.toNat ++ ":"

def renderNote (o : Options) (fs : FileSet) (n : Note) : Except SourceError Bytes :=
  match fs.get n.span.file with
  | .error e => .error e
  | .ok f => .ok (o.ink.inline Palette.note "  = note: "
      ++ place (fs.showPath o.view f) (f.locate n.span.start) ++ " " ++ n.message ++ "\n")

/-- The column that the underline of a span ends before. Of a span that ends on another line, what
is on the first line is underlined. -/
def stopColumn (f : File) (s : Span) (line : Bytes) : UInt32 :=
  let stop := f.locate s.stop
  if stop.line = (f.locate s.start).line then stop.col else line.length.toUInt32 + 1

/-- The head line, the source line and the underline, which is a caret and tildes behind it. -/
def renderHead (o : Options) (fs : FileSet) (d : Diagnostic) : Except SourceError Bytes := do
  let f ← fs.get d.primary.file
  let start := f.locate d.primary.start
  let line ← f.lineContaining d.primary.start
  let number := Bytes.decimal start.line.toNat
  let stopCol := stopColumn f d.primary line
  let (pad, width) ← underline line ((start.col.toNat : Int) - 1) ((stopCol.toNat : Int) - 1)
  let blanks ← repeated 32 pad
  let tildes ← repeated 126 (width - 1)
  let paint := Palette.severity d.severity
  return o.ink.inline Palette.path (place (fs.showPath o.view f) start) ++ " "
    ++ o.ink.inline paint (d.severity.name ++ " " ++ d.code.id ++ ":") ++ " " ++ d.message ++ "\n"
    ++ o.ink.inline Palette.gutter (" " ++ number ++ " | ") ++ untab line ++ "\n"
    ++ o.ink.inline Palette.gutter (" " ++ blanksOf number.length ++ " | ") ++ blanks
    ++ o.ink.wrap paint ("^" ++ tildes) ++ "\n"

def renderOne (o : Options) (fs : FileSet) (d : Diagnostic) : Except SourceError Bytes := do
  let head ← renderHead o fs d
  let notes ← (if o.notes then d.notes else []).mapM (renderNote o fs)
  return head ++ notes.flatten

/-- All diagnostics of a bag in its order, and how many it refused. -/
def render (o : Options) (fs : FileSet) (bag : Bag) : Except SourceError Bytes := do
  let parts ← bag.items.toList.mapM (renderOne o fs)
  let more : Bytes := if bag.dropped = 0 then []
    else "... " ++ Bytes.decimal bag.dropped ++ " more diagnostic(s) not shown\n"
  return parts.flatten ++ more

end FrontEnd.Pretty
