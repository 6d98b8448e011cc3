import FrontEnd.Terminal.Control
import FrontEnd.Unicode.Cells

/-!
Blocks of text on a terminal: lines that fill the same number of cells.
-/

namespace FrontEnd.Terminal

/-- The cells of a text in the middle of a sequence, and `n` cells before it. -/
def cellsBehind (c : Control) (n : Nat) (s : Bytes) : Nat :=
  match s with
  | [] => n
  | b :: r =>
    if c.leads b then
      let (size, cells) := Unicode.firstCells (b :: r)
      cellsBehind .text (n + cells) (r.drop (size - 1))
    else cellsBehind (c.next b) (if c.shows b then n + 1 else n) r
termination_by s.length
decreasing_by all_goals simp only [List.length_drop, List.length_cons]; omega

/-- The cells that a text fills on one line. -/
def cells (s : Bytes) : Nat := cellsBehind .text 0 s

/-- Four blanks for every tab. -/
def untab (s : Bytes) : Bytes := s.flatMap fun b => if b = 9 then [32, 32, 32, 32] else [b]

/-- A text as a block: without tabs, and with blanks behind the lines that are not as wide as the
widest. -/
def block (s : Bytes) : Bytes :=
  let lines := (untab s).splitOn 10
  let widest := (lines.map cells).foldl max 0
  Bytes.join "\n" (lines.map fun l => l ++ List.replicate (widest - cells l) 32)

end FrontEnd.Terminal
