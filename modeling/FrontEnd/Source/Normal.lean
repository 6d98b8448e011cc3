import FrontEnd.Source.File
import FrontEnd.Unicode.Compose

/-!
The normal form in which text from disk is stored: a byte-order mark at the front is dropped,
then a carriage return before a line feed, and then the text is composed canonically. Each step
tells whether it changed anything.
-/

namespace FrontEnd

/-- Drops a byte-order mark at the front. -/
def dropMark (s : Bytes) : Bytes × Bool :=
  match s with
  | 0xEF :: 0xBB :: 0xBF :: r => (r, true)
  | s => (s, false)

/-- Replaces each carriage return and line feed by a line feed, onto the reversed `acc`. -/
def joinLineEndsOnto (acc : Bytes) : Bytes → Bytes
  | [] => acc.reverse
  | 13 :: 10 :: r => joinLineEndsOnto (10 :: acc) r
  | b :: r => joinLineEndsOnto (b :: acc) r

def joinLineEnds (s : Bytes) : Bytes × Bool :=
  let joined := joinLineEndsOnto [] s
  (joined, joined.length != s.length)

def composeText (s : Bytes) : Bytes × Bool :=
  let composed := Unicode.compose s
  if composed = s then (s, false) else (composed, true)

/-- The normal form of a content and the flags of the steps that changed it. -/
def normalize (s : Bytes) : Bytes × FileFlags :=
  let (s, mark) := dropMark s
  let (s, ends) := joinLineEnds s
  let (s, comp) := composeText s
  (s, (if mark then FileFlags.hadMark else 0) ||| (if ends then FileFlags.normalizedLineEnds else 0)
    ||| (if comp then FileFlags.composed else 0))

end FrontEnd
