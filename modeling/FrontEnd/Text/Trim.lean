import FrontEnd.Bytes.Utf8
import FrontEnd.Unicode.Printable

/-! White space at the ends of a text, and line ends within it. -/

namespace FrontEnd.Bytes

/-- White space, in the widest sense, removed from both ends. -/
def trimSpace (s : Bytes) : Bytes :=
  let blank : Utf8.Item → Bool
    | .char c => Unicode.isWhiteSpace c
    | .octet _ => false
  Utf8.ofItems ((((Utf8.items s).dropWhile blank).reverse.dropWhile blank).reverse)

/-- Each line end replaced by a blank; a carriage return before a line feed belongs to it. -/
def foldLineEnds : Bytes → Bytes
  | [] => []
  | 13 :: 10 :: r => 32 :: foldLineEnds r
  | b :: r => (if b = 10 ∨ b = 13 then 32 else b) :: foldLineEnds r

/-- The text on one line. -/
def foldLines (s : Bytes) : Bytes := s.foldLineEnds.trimSpace

end FrontEnd.Bytes
