import FrontEnd.Unicode.Width

/-!
The cells that a cluster fills on a terminal. A cluster is as wide as its first character and what
follows it in the cluster; a flag, a syllable that starts with a leading consonant, and a pictograph
are as wide as their first character alone, but a pictograph may be told how to look.
-/

namespace FrontEnd.Unicode

/-- Characters that are shown as coloured pictures unless they are told not to. -/
def pictures : Ranges := #[
  (0x231A, 0x231B), (0x23E9, 0x23EC), (0x23F0, 0x23F0), (0x23F3, 0x23F3), (0x25FD, 0x25FE),
  (0x2614, 0x2615), (0x2648, 0x2653), (0x267F, 0x267F), (0x2693, 0x2693), (0x26A1, 0x26A1),
  (0x26AA, 0x26AB), (0x26BD, 0x26BE), (0x26C4, 0x26C5), (0x26CE, 0x26CE), (0x26D4, 0x26D4),
  (0x26EA, 0x26EA), (0x26F2, 0x26F3), (0x26F5, 0x26F5), (0x26FA, 0x26FA), (0x26FD, 0x26FD),
  (0x2705, 0x2705), (0x270A, 0x270B), (0x2728, 0x2728), (0x274C, 0x274C), (0x274E, 0x274E),
  (0x2753, 0x2755), (0x2757, 0x2757), (0x2795, 0x2797), (0x27B0, 0x27B0), (0x27BF, 0x27BF),
  (0x2B1B, 0x2B1C), (0x2B50, 0x2B50), (0x2B55, 0x2B55), (0x1F004, 0x1F004), (0x1F0CF, 0x1F0CF),
  (0x1F18E, 0x1F18E), (0x1F191, 0x1F19A), (0x1F201, 0x1F201), (0x1F21A, 0x1F21A),
  (0x1F22F, 0x1F22F), (0x1F232, 0x1F236), (0x1F238, 0x1F23A), (0x1F250, 0x1F251),
  (0x1F300, 0x1F320), (0x1F32D, 0x1F335), (0x1F337, 0x1F37C), (0x1F37E, 0x1F393),
  (0x1F3A0, 0x1F3CA), (0x1F3CF, 0x1F3D3), (0x1F3E0, 0x1F3F0), (0x1F3F4, 0x1F3F4),
  (0x1F3F8, 0x1F43E), (0x1F440, 0x1F440), (0x1F442, 0x1F4FC), (0x1F4FF, 0x1F53D),
  (0x1F54B, 0x1F54E), (0x1F550, 0x1F567), (0x1F57A, 0x1F57A), (0x1F595, 0x1F596),
  (0x1F5A4, 0x1F5A4), (0x1F5FB, 0x1F64F), (0x1F680, 0x1F6C5), (0x1F6CC, 0x1F6CC),
  (0x1F6D0, 0x1F6D2), (0x1F6D5, 0x1F6D7), (0x1F6DC, 0x1F6DF), (0x1F6EB, 0x1F6EC),
  (0x1F6F4, 0x1F6FC), (0x1F7E0, 0x1F7EB), (0x1F7F0, 0x1F7F0), (0x1F90C, 0x1F93A),
  (0x1F93C, 0x1F945), (0x1F947, 0x1F9FF), (0x1FA70, 0x1FA7C), (0x1FA80, 0x1FA88),
  (0x1FA90, 0x1FABD), (0x1FABF, 0x1FAC5), (0x1FACE, 0x1FADB), (0x1FAE0, 0x1FAE8),
  (0x1FAF0, 0x1FAF8)]

/-- Wide characters that terminals do not know as such. -/
def lateWidths : Ranges := #[(0x2FFC, 0x2FFF), (0x31EF, 0x31EF)]

/-- The cells of a character of the given class. -/
def charCells (c : Char) : ClusterClass → Nat
  | .control | .carriageReturn | .lineFeed | .extend | .joiner => 0
  | .regional => 2
  | .pictograph => if pictures.contains c.toNat then 2 else 1
  | _ => match c.toNat with
    | 0x2E3A => 3
    | 0x2E3B => 4
    | n => if doubleWidths.contains n && !lateWidths.contains n then 2 else 1

/-- The cells of a cluster with `cells` so far, whose first character has the class `first`, with
one more character. -/
def addCells (first : ClusterClass) (cells : Nat) (c : Char) (k : ClusterClass) : Nat :=
  match first with
  | .pictograph => match c.toNat with
    | 0xFE0E => 1
    | 0xFE0F => 2
    | _ => cells
  | .regional | .hangulL => cells
  | _ => cells + charCells c k

/-- The character at the front of a text and its octets; a stray octet is shown as one character. -/
def frontChar (s : Bytes) : Char × Nat := (Utf8.decode? s).getD (Char.ofNat 0xFFFD, 1)

/-- The octets and the cells of the cluster that has so many so far. -/
def cellsFrom (first : ClusterClass) (state : ClusterState) (size cells : Nat) (s : Bytes) :
    Nat × Nat :=
  match s with
  | [] => (size, cells)
  | b :: r =>
    let (c, n) := frontChar (b :: r)
    let k := clusterClass c
    if state.joins k then
      cellsFrom first (state.next k) (size + n) (addCells first cells c k) (r.drop (n - 1))
    else (size, cells)
termination_by s.length
decreasing_by
  simp only [List.length_drop, List.length_cons]
  omega

/-- The octets and the cells of the cluster at the front of a text. -/
def firstCells (s : Bytes) : Nat × Nat :=
  let (c, n) := frontChar s
  let k := clusterClass c
  cellsFrom k (.start k) n (charCells c k) (s.drop n)

end FrontEnd.Unicode
