import FrontEnd.Bytes.Utf8
import FrontEnd.Progress.Basic
import FrontEnd.Terminal.Block

/-!
A board that shows how far the work on a list of files has come.
-/

namespace FrontEnd.Progress

structure Item where
  path : Bytes
  /-- The word shown before the path. -/
  status : Bytes := "queued"
  stage : Option Stage := none
  /-- Set by the last step, or by a failure at any; it stays. -/
  finished : Bool := false
  deriving DecidableEq, Repr

structure Board where
  title : Bytes
  items : List Item
  width : Int := 80
  barWidth : Int := 76
  frame : Nat := 0
  done : Bool := false
  deriving DecidableEq, Repr

inductive Message where
  | event (e : Event)
  /-- No event will come any more. -/
  | done
  | tick
  | size (width : Int)
  | other
  deriving DecidableEq, Repr

/-- The word for a step being worked on. -/
def Stage.label? : Stage → Option Bytes
  | .load => some "loading"
  | .lex => some "scanning"
  | .ir => some "building ir"
  | .other _ => none

def label? (stage : Stage) : Status → Option Bytes
  | .queued => some "queued"
  | .done => some "done"
  | .error => some "error"
  | .working => stage.label?
  | .other _ => none

/-- Whether an event is the last of a file. -/
def Event.isLast (e : Event) : Bool :=
  e.status = .error || (e.status = .done && e.stage ≠ .load)

/-- A file's share of progress by the step it is in. -/
def Stage.share : Option Stage → Float
  | some .load => 0.1
  | some .lex => 0.5
  | some .ir => 0.9
  | _ => 0.0

namespace Item

def apply (i : Item) (e : Event) : Item :=
  let i := match label? e.stage e.status with
    | some status => { i with status, stage := some e.stage }
    | none => i
  if e.isLast then { i with finished := true } else i

def share (i : Item) : Float := if i.finished then 1.0 else Stage.share i.stage

end Item

namespace Board

def new (title : Bytes) (paths : List Bytes) : Board :=
  { title, items := paths.map fun path => { path } }

/-- The place of the last item with a path; it is the one that events are about. -/
def placeOf? (b : Board) (path : Bytes) : Option Nat :=
  ((b.items.zipIdx.filter (·.1.path = path)).getLast?).map Prod.snd

def apply (b : Board) (e : Event) : Board :=
  match b.placeOf? e.file with
  | some i => { b with items := b.items.modify i (·.apply e) }
  | none => b

def update (b : Board) : Message → Board
  | .event e => b.apply e
  | .done => { b with done := true }
  | .tick => if b.done then b else { b with frame := b.frame + 1 }
  | .size w => if 0 < w then { b with width := w, barWidth := w - 4 } else b
  | .other => b

/-- How many items are finished, and how many of those failed. -/
def finished (b : Board) : Nat × Nat :=
  let ended := b.items.filter Item.finished
  (ended.length, (ended.filter fun i => i.status = ("error" : Bytes)).length)

/-- The share of all work that is done. -/
def percent (b : Board) : Float :=
  if b.items.isEmpty then 0
  else (b.items.map Item.share).foldl (· + ·) 0 / Float.ofNat b.items.length

/-- The frames of the turning mark. -/
def frames : List Bytes := ["⣾ ", "⣽ ", "⣻ ", "⢿ ", "⡿ ", "⣟ ", "⣯ ", "⣷ "]

/-- A text cut to a number of columns, with dots where there is room for them. -/
def cut (s : Bytes) (width : Int) : Bytes :=
  if width ≤ 0 ∨ Unicode.width s ≤ width then s
  else if width ≤ 3 then Unicode.truncate s width []
  else Unicode.truncate s width "..."

inductive ViewError where
  /-- The bar's length is no signed word. -/
  | tooLong
  /-- The bar's addresses run out. -/
  | noRoom
  deriving DecidableEq, Repr

def ViewError.message : ViewError → Bytes
  | .tooLong => "strings: Repeat output length overflow"
  | .noRoom => "no room for the bar"

/-- The bar is empty while work goes on and full at the end. Its cells take three octets each. -/
def bar (b : Board) : Except ViewError Bytes :=
  let count := (b.barWidth - 5).toNat
  let cells (c : Bytes) : Bytes := (List.replicate count c).flatten
  if 0x7FFFFFFFFFFFFFFF < 3 * count then .error .tooLong
  else if 0x1000000000000 < 3 * count then .error .noRoom
  else .ok (if b.done then cells "█" ++ " 100%" else cells "░" ++ "   0%")

def header (b : Board) : Bytes :=
  let (done, failed) := b.finished
  let mark : Bytes := if b.done then "done: " else (frames[b.frame % 8]?).getD [] ++ " "
  let tail : Bytes := if 0 < failed then Bytes.ofString ", " ++ Bytes.decimal failed ++ " failed"
    else []
  mark ++ b.title ++ " " ++ Bytes.decimal done ++ "/" ++ Bytes.decimal b.items.length ++ tail

def view (b : Board) : Except ViewError Bytes :=
  let row (i : Item) : Bytes :=
    Bytes.ofString "  " ++ Utf8.padLeft 12 i.status ++ " " ++ cut i.path (max (b.width - 16) 20)
      ++ "\n"
  if b.items.isEmpty then .ok []
  else b.bar.map fun bar =>
    Terminal.block b.header ++ "\n\n" ++ b.items.flatMap row ++ "\n" ++ bar ++ "\n"

end Board

end FrontEnd.Progress
