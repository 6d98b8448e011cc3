import FrontEnd.Bytes.Basic

/-!
Searching a byte string. An answer is the offset of an occurrence, or `none`. Looking for a
needle takes one of four ways: an empty needle is found where the search starts, a single octet
by a plain walk, short haystacks and long needles by comparing at every position, and the rest
with a table of skip distances, where the last octet of the window says how far it may move.
-/

namespace FrontEnd.Bytes

/-- The first `c` at or after `start`; an empty remainder holds none. -/
def findByte (s : Bytes) (c : UInt8) (start : Int) : Option Nat :=
  if start < 0 then none
  else ((s.drop start.toNat).findIdx? (· == c)).map (start.toNat + ·)

/-- Compares the needle at every position; `i` is the offset of the haystack's first octet. -/
def findNaive (needle : Bytes) : Bytes → Nat → Option Nat
  | [], i => if needle.isEmpty then some i else none
  | b :: r, i => if needle.isPrefixOf (b :: r) then some i else findNaive needle r (i + 1)

/-- How far a window may move for each value of its last octet: always at least one. -/
structure SkipTable where
  distance : UInt8 → UInt8
  pos : ∀ b, 0 < (distance b).toNat

namespace SkipTable

def set (t : SkipTable) (c : UInt8) (d : UInt8) (h : 0 < d.toNat) : SkipTable where
  distance b := if b = c then d else t.distance b
  pos b := by
    by_cases hb : b = c
    · simpa [hb] using h
    · simpa [hb] using t.pos b

/-- Records, for each octet of `lead`, its distance to the octet that follows `lead`; a later
occurrence of the same octet overrides an earlier one. -/
def record : (lead : Bytes) → lead.length < 256 → SkipTable → SkipTable
  | [], _, t => t
  | c :: r, h, t =>
    have small : r.length + 1 < 256 := by simpa using h
    record r (by omega) (t.set c (UInt8.ofNat (r.length + 1))
      (by rw [UInt8.toNat_ofNat']; omega))

/-- The table of a needle of 1 to 255 octets: its last octet is not recorded, and an octet that
occurs nowhere else lets the window move past itself. -/
def ofNeedle (needle : Bytes) (h : 0 < needle.length ∧ needle.length < 256) : SkipTable :=
  record needle.dropLast (by rw [List.length_dropLast]; omega)
    { distance := fun _ => UInt8.ofNat needle.length
      pos := fun _ => by rw [UInt8.toNat_ofNat']; omega }

end SkipTable

/-- Moves a window of the needle's size over the haystack by the distances of the table. -/
def findSkip (t : SkipTable) (needle hay : Bytes) (i : Nat) : Option Nat :=
  if h : needle.length - 1 < hay.length then
    let move := (t.distance hay[needle.length - 1]).toNat
    if needle.isPrefixOf hay then some i else findSkip t needle (hay.drop move) (i + move)
  else none
termination_by hay.length
decreasing_by
  have := t.pos hay[needle.length - 1]
  simp only [List.length_drop]
  omega

/-- From this many octets on a haystack is searched with a skip table. -/
def skipLeastHaystack : Nat := 16

/-- The longest needle whose distances fit the table. -/
def skipLongestNeedle : Nat := 255

def find (s needle : Bytes) (start : Int) : Option Nat :=
  if start < 0 ∨ start > s.length then none
  else
    let at_ := start.toNat
    let hay := s.drop at_
    match needle with
    | [] => some at_
    | [c] => s.findByte c start
    | a :: b :: r =>
      if hay.length < skipLeastHaystack then findNaive (a :: b :: r) hay at_
      else if h : (a :: b :: r).length ≤ skipLongestNeedle then
        findSkip (SkipTable.ofNeedle (a :: b :: r)
          ⟨by simp, by simp only [skipLongestNeedle] at h; omega⟩) (a :: b :: r) hay at_
      else findNaive (a :: b :: r) hay at_

/-- Compares without regard to ASCII case at every position from offset `i` on, as long as there is
room for the needle. -/
def findLowerFrom (needle : Bytes) : Bytes → Nat → Option Nat
  | [], i => if needle.isEmpty then some i else none
  | b :: r, i =>
    if (b :: r).length < needle.length then none
    else if startsWithLower (b :: r) needle then some i
    else findLowerFrom needle r (i + 1)

def findLower (s needle : Bytes) (start : Int) : Option Nat :=
  if start < 0 ∨ start > s.length then none
  else findLowerFrom needle (s.drop start.toNat) start.toNat

/-- The last offset below `n` that satisfies `q`. -/
def lastBelow (q : Nat → Bool) : Nat → Option Nat
  | 0 => none
  | i + 1 => if q i then some i else lastBelow q i

def rfindByte (s : Bytes) (c : UInt8) : Option Nat := lastBelow (fun i => s[i]? == some c) s.length

def rfind (s needle : Bytes) : Option Nat :=
  lastBelow (fun i => needle.isPrefixOf (s.drop i)) (s.length + 1)

/-- `rfind` that does not tell ASCII upper from lower case; the last offset to try is the one that
leaves room for the needle. -/
def rfindLower (s needle : Bytes) : Option Nat :=
  lastBelow (fun i => equalsLower ((s.drop i).take needle.length) needle)
    (s.length + 1 - needle.length)

/-- The first octet at or after `start` that satisfies `p`; a negative start is the beginning. -/
def findFirstWhere (p : UInt8 → Bool) (s : Bytes) (start : Int) : Option Nat :=
  ((s.drop start.toNat).findIdx? p).map (start.toNat + ·)

def findFirstOf (s chars : Bytes) (start : Int) : Option Nat :=
  findFirstWhere (chars.contains ·) s start

def findFirstNotOf (s chars : Bytes) (start : Int) : Option Nat :=
  findFirstWhere (fun b => !chars.contains b) s start

def findLastOf (s chars : Bytes) : Option Nat :=
  lastBelow (fun i => s[i]?.any (chars.contains ·)) s.length

def findLastNotOf (s chars : Bytes) : Option Nat :=
  lastBelow (fun i => s[i]?.any fun b => !chars.contains b) s.length

def contains (s needle : Bytes) : Bool := (s.find needle 0).isSome

def containsLower (s needle : Bytes) : Bool := (s.findLower needle 0).isSome

/-- Non-overlapping occurrences from the left, `n` having been counted before. -/
def countFrom (needle : Bytes) (h : 0 < needle.length) (s : Bytes) (n : Nat) : Nat :=
  if hfits : needle.length ≤ s.length then
    if s.take needle.length = needle then countFrom needle h (s.drop needle.length) (n + 1)
    else countFrom needle h (s.drop 1) n
  else n
termination_by s.length
decreasing_by
  all_goals
    simp only [List.length_drop]
    omega

/-- The number of non-overlapping occurrences; an empty needle occurs nowhere. -/
def count (s needle : Bytes) : Nat :=
  if h : 0 < needle.length then countFrom needle h s 0 else 0

/-- The parts around `size` octets at the offset, or the whole text and nothing when there is
none. -/
def cutAround (s : Bytes) (size : Nat) : Option Nat → Bytes × Bytes
  | none => (s, [])
  | some i => (s.slice 0 i, s.slice (i + size : Nat) s.length)

/-- The parts around the first occurrence of `sep`. -/
def split (s sep : Bytes) : Bytes × Bytes := s.cutAround sep.length (s.find sep 0)

def splitByte (s : Bytes) (c : UInt8) : Bytes × Bytes := s.cutAround 1 (s.findByte c 0)

/-- The parts around the last occurrence of `c`. -/
def rsplitByte (s : Bytes) (c : UInt8) : Bytes × Bytes := s.cutAround 1 (s.rfindByte c)

/-- ASCII white space, trimmed when no characters are named. -/
def blanks : Bytes := [32, 9, 10, 11, 12, 13]

/-- The set to trim: the one given, or white space when it is empty. -/
def trimSet (chars : Bytes) : Bytes := if chars.isEmpty then blanks else chars

def trimLeft (s chars : Bytes) : Bytes :=
  match s.findFirstNotOf (trimSet chars) 0 with
  | none => []
  | some i => s.drop i

def trimRight (s chars : Bytes) : Bytes :=
  match s.findLastNotOf (trimSet chars) with
  | none => []
  | some i => s.take (i + 1)

def trim (s chars : Bytes) : Bytes := (s.trimLeft chars).trimRight chars

end FrontEnd.Bytes
