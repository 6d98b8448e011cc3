import FrontEnd.Bytes.Utf8

/-!
Byte strings cut by first octets. The first octet of a piece says how many octets it should have;
the piece ends earlier where an octet does not continue it. So a piece is an encoded character or a
stretch of octets that looks like the beginning of one. A text may end inside a piece.
-/

namespace FrontEnd.Utf8

/-- The number of octets of the piece at the front; nothing when the text ends inside the piece. -/
def pieceSize? (s : Bytes) : Option Nat :=
  let continued (i : Nat) : Bool := (s.drop i).head?.any isContinuation
  let endsWithin (size : Nat) : Bool := (s.drop (size - 1)).isEmpty
  match s with
  | [] => none
  | a :: _ =>
    if a < 0xC2 ∨ a ≥ 0xF8 then some 1
    else if a < 0xE0 then
      if endsWithin 2 then none else some (if continued 1 then 2 else 1)
    else if a < 0xF0 then
      if endsWithin 3 then none
      else some (if !continued 1 then 1 else if !continued 2 then 2 else 3)
    else if endsWithin 4 then none
    else some (if !continued 1 then 1 else if !continued 2 then 2
      else if !continued 3 then 3 else 4)

structure Piece where
  octets : Bytes
  /-- The character that the octets encode, if they do. -/
  char : Option Char
  deriving DecidableEq, Repr

/-- The pieces of a text, `acc` reversed before them, and what is left inside the last. -/
def piecesOnto (acc : List Piece) (s : Bytes) : List Piece × Bytes :=
  match s with
  | [] => (acc.reverse, [])
  | b :: r => match pieceSize? (b :: r) with
    | none => (acc.reverse, b :: r)
    | some n =>
      let piece : Piece := ⟨b :: r.take (n - 1), (decode? (b :: r)).map Prod.fst⟩
      piecesOnto (piece :: acc) (r.drop (n - 1))
termination_by s.length
decreasing_by
  simp only [List.length_drop, List.length_cons]
  omega

def pieces (s : Bytes) : List Piece × Bytes := piecesOnto [] s

end FrontEnd.Utf8
