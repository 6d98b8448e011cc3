import FrontEnd.Unicode.CombiningClass
import FrontEnd.Unicode.Decomposition

/-!
What composition has to know of characters: the parts they are made of, the pairs that are joined,
which characters may join the one before them, and how many marks a character counts for when the
length of a run of marks is limited.
-/

namespace FrontEnd.Unicode

/-- The layout of the Hangul syllables: their first code point, and those of the leading
consonants, vowels and trailing consonants. -/
def hangulBase : Nat := 0xAC00
def leadBase : Nat := 0x1100
def vowelBase : Nat := 0x1161
def trailBase : Nat := 0x11A7
def leadCount : Nat := 19
def vowelCount : Nat := 21
def trailCount : Nat := 28

def isHangul (n : Nat) : Bool :=
  hangulBase ≤ n && n < hangulBase + leadCount * vowelCount * trailCount

/-- The parts of a character, taken apart at most `depth` times. -/
def decomposePoint : Nat → Nat → List Nat
  | 0, n => [n]
  | depth + 1, n =>
    match bisect decompositions
        (fun (k, _, _) => if n < k then .lt else if k < n then .gt else .eq)
        0 decompositions.size with
    | none => [n]
    | some (_, a, 0) => decomposePoint depth a
    | some (_, a, b) => decomposePoint depth a ++ decomposePoint depth b

/-- The full canonical decomposition; no character nests deeper than four times. -/
def decompose (c : Char) : List Char :=
  let n := c.toNat
  if n < 0xC0 then [c]
  else if isHangul n then
    let i := n - hangulBase
    let l := Char.ofNat (leadBase + i / (vowelCount * trailCount))
    let v := Char.ofNat (vowelBase + i % (vowelCount * trailCount) / trailCount)
    if i % trailCount = 0 then [l, v] else [l, v, Char.ofNat (trailBase + i % trailCount)]
  else (decomposePoint 4 n).map Char.ofNat

/-- Characters that may join the one before them. -/
def joiners : Ranges := #[
  (0x300, 0x304), (0x306, 0x30C), (0x30F, 0x30F), (0x311, 0x311), (0x313, 0x314), (0x31B, 0x31B),
  (0x323, 0x328), (0x32D, 0x32E), (0x330, 0x331), (0x338, 0x338), (0x342, 0x342), (0x345, 0x345),
  (0x653, 0x655), (0x93C, 0x93C), (0x9BE, 0x9BE), (0x9D7, 0x9D7), (0xB3E, 0xB3E), (0xB56, 0xB57),
  (0xBBE, 0xBBE), (0xBD7, 0xBD7), (0xC56, 0xC56), (0xCC2, 0xCC2), (0xCD5, 0xCD6), (0xD3E, 0xD3E),
  (0xD57, 0xD57), (0xDCA, 0xDCA), (0xDCF, 0xDCF), (0xDDF, 0xDDF), (0x102E, 0x102E),
  (0x1161, 0x1175), (0x11A8, 0x11C2), (0x1B35, 0x1B35), (0x3099, 0x309A), (0x110BA, 0x110BA),
  (0x11127, 0x11127), (0x1133E, 0x1133E), (0x11357, 0x11357), (0x114B0, 0x114B0),
  (0x114BA, 0x114BA), (0x114BD, 0x114BD), (0x115AF, 0x115AF), (0x11930, 0x11930)]

/-- Ranges of characters that count for more marks than their parts show, because a looser form of
them has marks: first, last, the marks it starts with, the marks it ends with. -/
def hiddenMarks : Array (Nat × Nat × Nat × Nat) := #[
  (0xA8, 0xA8, 0, 1), (0xAF, 0xAF, 0, 1), (0xB4, 0xB4, 0, 1), (0xB8, 0xB8, 0, 1),
  (0x1C4, 0x1C6, 0, 1), (0x2D8, 0x2DD, 0, 1), (0x37A, 0x37A, 0, 1), (0x384, 0x384, 0, 1),
  (0x385, 0x385, 0, 2), (0xF77, 0xF77, 0, 2), (0xF79, 0xF79, 0, 2), (0x1FBD, 0x1FBD, 0, 1),
  (0x1FBF, 0x1FC0, 0, 1), (0x1FC1, 0x1FC1, 0, 2), (0x1FCD, 0x1FCF, 0, 2), (0x1FDD, 0x1FDF, 0, 2),
  (0x1FED, 0x1FEE, 0, 2), (0x1FFD, 0x1FFE, 0, 1), (0x2017, 0x2017, 0, 1), (0x203E, 0x203E, 0, 1),
  (0x309B, 0x309C, 0, 1), (0x3133, 0x3133, 1, 1), (0x3135, 0x3136, 1, 1), (0x313A, 0x313F, 1, 1),
  (0x314F, 0x3163, 1, 1), (0x326E, 0x327E, 0, 1), (0x3304, 0x3304, 0, 1), (0x3307, 0x3307, 0, 1),
  (0x3310, 0x3310, 0, 1), (0x331E, 0x331E, 0, 1), (0x3321, 0x3321, 0, 1), (0x3332, 0x3332, 0, 1),
  (0x333B, 0x333B, 0, 1), (0x3340, 0x3340, 0, 1), (0x334B, 0x334B, 0, 1), (0x334E, 0x334E, 0, 1),
  (0xFBA4, 0xFBA5, 0, 1), (0xFBB0, 0xFBB1, 0, 1), (0xFC5B, 0xFC5D, 0, 1), (0xFC5E, 0xFC63, 0, 2),
  (0xFC90, 0xFC90, 0, 1), (0xFCD9, 0xFCD9, 0, 1), (0xFCF2, 0xFCF4, 0, 2), (0xFD3C, 0xFD3D, 0, 1),
  (0xFE49, 0xFE4C, 0, 1), (0xFE70, 0xFE72, 0, 1), (0xFE74, 0xFE74, 0, 1), (0xFE76, 0xFE7F, 0, 1),
  (0xFE81, 0xFE8C, 0, 1), (0xFEF5, 0xFEFA, 0, 1), (0xFF9E, 0xFF9F, 1, 1), (0xFFA3, 0xFFA3, 1, 1),
  (0xFFA5, 0xFFA6, 1, 1), (0xFFAA, 0xFFAF, 1, 1), (0xFFC2, 0xFFC7, 1, 1), (0xFFCA, 0xFFCF, 1, 1),
  (0xFFD2, 0xFFD7, 1, 1), (0xFFDA, 0xFFDC, 1, 1), (0xFFE3, 0xFFE3, 0, 1), (0x1F213, 0x1F213, 0, 1)]

def mayJoin (c : Char) : Bool := joiners.contains c.toNat

/-- A character that belongs to the one before it: a combining mark, or a character that may
join. -/
def isMark (c : Char) : Bool := combiningClass c ≠ 0 || mayJoin c

/-- The low half of a code point. Pairs are looked up by it alone. -/
def lowHalf (n : Nat) : Nat := n % 0x10000

/-- Pairs that composition joins, by the low halves of both: the first, the second, what they are
joined to. -/
def compositions : Array (Nat × Nat × Nat) :=
  (((decompositions.filter fun (c, _, b) => b != 0 && !uncomposed.contains c).toList.map
    fun (c, a, b) => (lowHalf a, lowHalf b, c)).mergeSort
    fun (a, b, _) (a', b', _) => a < a' || (a == a' && b ≤ b')).toArray

/-- The character that a pair is joined to, Hangul apart. -/
def composite? (a b : Char) : Option Char :=
  let x := lowHalf a.toNat
  let y := lowHalf b.toNat
  (bisect compositions (fun (a', b', _) =>
    if x < a' then .lt else if a' < x then .gt
    else if y < b' then .lt else if b' < y then .gt else .eq)
    0 compositions.size).map fun (_, _, c) => Char.ofNat c

/-- The syllable that Hangul letters, or a syllable and a trailing consonant, are joined to. -/
def syllable? (a b : Char) : Option Char :=
  let x := a.toNat
  let y := b.toNat
  if leadBase ≤ x ∧ x < leadBase + leadCount ∧ vowelBase ≤ y ∧ y < vowelBase + vowelCount then
    some (Char.ofNat (hangulBase + ((x - leadBase) * vowelCount + (y - vowelBase)) * trailCount))
  else if isHangul x ∧ (x - hangulBase) % trailCount = 0 ∧ trailBase < y
      ∧ y < trailBase + trailCount then
    some (Char.ofNat (x + (y - trailBase)))
  else none

/-- A character of the block of Hangul letters. -/
def isHangulLetter (c : Char) : Bool := 0x1100 ≤ c.toNat && c.toNat < 0x1200

/-- What is known of a character before it is taken apart. -/
structure Traits where
  /-- The class of its first part. -/
  lead : Nat := 0
  /-- The marks it starts with. A character that starts with none starts a segment. -/
  before : Nat := 0
  /-- The marks it ends with. -/
  behind : Nat := 0
  /-- It is part of composed text as it is, whatever stands before it. -/
  settled : Bool := true
  deriving DecidableEq, Repr

/-- A character that composition does not give back once it is taken apart. -/
def isUnmade (c : Char) : Bool :=
  let n := c.toNat
  match bisect decompositions
      (fun (k, _, _) => if n < k then .lt else if k < n then .gt else .eq)
      0 decompositions.size with
  | none => false
  | some (_, _, b) => b == 0 || uncomposed.contains n

def traits (c : Char) : Traits :=
  let n := c.toNat
  if n < 0x80 then {}
  else
    let parts := decompose c
    let (before, behind) := match bisect hiddenMarks
        (fun (lo, hi, _) => if n < lo then .lt else if hi < n then .gt else .eq)
        0 hiddenMarks.size with
      | some (_, _, before, behind) => (before, behind)
      | none => ((parts.takeWhile isMark).length, (parts.reverse.takeWhile isMark).length)
    { lead := ((parts.head?.map combiningClass).getD 0), before, behind,
      settled := !isUnmade c && !mayJoin c }

end FrontEnd.Unicode
