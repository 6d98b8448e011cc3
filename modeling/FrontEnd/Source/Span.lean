import FrontEnd.Bytes.Basic

/-!
Spans: half-open ranges of octet offsets in one file of a set. Offsets are 32-bit words. A span
is only a pair of words: it may lie outside its file or be reversed, and whoever uses it asks.
-/

namespace FrontEnd

abbrev FileId := UInt32

structure Span where
  file : FileId
  start : UInt32
  stop : UInt32
  deriving DecidableEq, Repr, Hashable, Inhabited

namespace Span

def isEmpty (s : Span) : Bool := s.start == s.stop

/-- The distance from start to stop, modulo the size of a word. -/
def length (s : Span) : UInt32 := s.stop - s.start

/-- The span lies, in order, within a content of the given size. -/
def isWithin (s : Span) (size : UInt32) : Bool := s.start ≤ s.stop && s.stop ≤ size

/-- The other span follows in the same file without overlap. -/
def precedes (s next : Span) : Bool := s.file == next.file && s.stop ≤ next.start

/-- `file:start-stop` in decimal. -/
def render (s : Span) : Bytes :=
  Bytes.decimal s.file.toNat ++ ":" ++ Bytes.decimal s.start.toNat ++ "-"
    ++ Bytes.decimal s.stop.toNat

end Span

end FrontEnd
