import FrontEnd.Bytes.Integer
import FrontEnd.Number.Binary64

/-!
Floating-point numbers in text. Reading takes decimal and hexadecimal forms, signed infinities
and an unsigned NaN, in either letter case, and rounds exactly; a number too large is refused.
Writing gives the fewest digits that read back, or a fixed number of places.
-/

namespace FrontEnd.FloatText

/-- What stands before the exponent: all digits as one integer, and how many follow the point. -/
structure Mantissa where
  value : Nat
  places : Nat
  seenDigit : Bool
  seenPoint : Bool

def Mantissa.push (m : Mantissa) (base d : Nat) : Mantissa :=
  { m with
    value := m.value * base + d
    places := if m.seenPoint then m.places + 1 else m.places
    seenDigit := true }

/-- Digits of the base, at most one point, and underscores anywhere. -/
def readMantissa (base : Nat) (m : Mantissa) : Bytes → Mantissa × Bytes
  | [] => (m, [])
  | b :: r =>
    if b = 95 then readMantissa base m r
    else if b = 46 then
      if m.seenPoint then (m, b :: r) else readMantissa base { m with seenPoint := true } r
    else match Bytes.digitOf? base b with
      | some d => readMantissa base (m.push base d) r
      | none => (m, b :: r)

/-- An exponent counts no further once it has five digits. -/
def readExponent (acc : Nat) : Bytes → Nat × Bytes
  | [] => (acc, [])
  | b :: r =>
    if b = 95 then readExponent acc r
    else if Bytes.isDecimalDigit b then
      readExponent (if acc < 10000 then acc * 10 + (b.toNat - 48) else acc) r
    else (acc, b :: r)

/-- The signed exponent after its letter; at least one digit follows the sign. -/
def readSignedExponent (s : Bytes) : Option (Int × Bytes) :=
  let digits (r : Bytes) : Option (Nat × Bytes) :=
    match r with
    | b :: _ => if Bytes.isDecimalDigit b then some (readExponent 0 r) else none
    | [] => none
  match s with
  | 43 :: r => (digits r).map fun (e, rest) => ((e : Int), rest)
  | 45 :: r => (digits r).map fun (e, rest) => (-(e : Int), rest)
  | r => (digits r).map fun (e, rest) => ((e : Int), rest)

/-- What stood before a place in a number: a digit (the sign of a base counts as one), an
underscore, or something else. -/
inductive Seen where
  | digit
  | underscore
  | other
  deriving DecidableEq

/-- Every underscore stands between two digits. -/
def separatesDigits (hexadecimal : Bool) : Seen → Bytes → Bool
  | seen, [] => seen != .underscore
  | seen, b :: r =>
    if (Bytes.digitOf? (if hexadecimal then 16 else 10) b).isSome then
      separatesDigits hexadecimal .digit r
    else if b = 95 then seen == .digit && separatesDigits hexadecimal .underscore r
    else seen != .underscore && separatesDigits hexadecimal .other r

/-- The rule for underscores in an unsigned number. -/
def underscoresOk (s : Bytes) : Bool :=
  match s with
  | 48 :: b :: r =>
    if Bytes.lowerByte b = 120 then separatesDigits true .digit r
    else if Bytes.lowerByte b = 98 ∨ Bytes.lowerByte b = 111 then separatesDigits false .digit r
    else separatesDigits false .other s
  | s => separatesDigits false .other s

/-- `value * 10 ^ e` as bits. Exponents far outside the range are decided without powers. -/
def decimalBits (value : Nat) (e : Int) : Option UInt64 :=
  let magnitude : Int := (Bytes.decimal value).length + e
  if value = 0 ∨ magnitude < -400 then some 0
  else if magnitude > 400 then none
  else match e with
    | .ofNat k => Binary64.nearest? (value * Nat.pow 10 k) 1
    | .negSucc k => Binary64.nearest? value (Nat.pow 10 (k + 1))

def binaryBits (value : Nat) (e : Int) : Option UInt64 :=
  match e with
  | .ofNat k => Binary64.nearest? (value * Nat.pow 2 k) 1
  | .negSucc k => Binary64.nearest? value (Nat.pow 2 (k + 1))

/-- A number after its sign, as bits. A hexadecimal number needs an exponent. -/
def unsignedBits (s : Bytes) : Option UInt64 :=
  let start : Mantissa := ⟨0, 0, false, false⟩
  let hexadecimal : Bool := match s with
    | 48 :: b :: _ :: _ => Bytes.lowerByte b = 120
    | _ => false
  let (m, rest) := if hexadecimal then readMantissa 16 start (s.drop 2) else readMantissa 10 start s
  let mark : UInt8 := if hexadecimal then 112 else 101
  let tail : Option (Int × Bytes) := match rest with
    | b :: r => if Bytes.lowerByte b = mark then readSignedExponent r
      else if hexadecimal then none else some (0, rest)
    | [] => if hexadecimal then none else some (0, [])
  match tail with
  | some (e, []) =>
    if !m.seenDigit || (s.elem 95 && !underscoresOk s) then none
    else if hexadecimal then binaryBits m.value (e - 4 * m.places)
    else decimalBits m.value (e - m.places)
  | _ => none

def signBit : UInt64 := 0x8000000000000000

/-- Reads a whole text; nothing when it is malformed or its value is too large. -/
def read (s : Bytes) : Option Float :=
  let infinity (r : Bytes) : Bool :=
    r.lower == Bytes.ofString "inf" || r.lower == Bytes.ofString "infinity"
  let magnitude (r : Bytes) : Option UInt64 :=
    if infinity r then some Binary64.infinityBits.toUInt64 else unsignedBits r
  match s with
  | 45 :: r => (magnitude r).map fun bits => Float.ofBits (bits ||| signBit)
  | 43 :: r => (magnitude r).map Float.ofBits
  | s =>
    if s.lower == Bytes.ofString "nan" then some (Float.ofBits 0x7ff8000000000001)
    else (magnitude s).map Float.ofBits

/-- Decimal digits `d₁d₂…` with the point after `point` of them. -/
structure Digits where
  digits : Bytes
  point : Int

/-- `10 ^ e` as a fraction. -/
def powerOfTen (e : Int) : Nat × Nat :=
  match e with
  | .ofNat k => (Nat.pow 10 k, 1)
  | .negSucc k => (1, Nat.pow 10 (k + 1))

/-- The integer part of `num / den / 10 ^ e`. -/
def quotientAt (num den : Nat) (e : Int) : Nat :=
  let (p, q) := powerOfTen e
  num * q / (den * p)

/-- A decimal `n * 10 ^ e` lies strictly between `lo` and `hi`, or on one of them when `ends`. -/
def between (lo hi : Nat × Nat) (ends : Bool) (n : Nat) (e : Int) : Bool :=
  let (p, q) := powerOfTen e
  let below := lo.1 * q < n * p * lo.2 || (ends && lo.1 * q == n * p * lo.2)
  let above := n * p * hi.2 < hi.1 * q || (ends && n * p * hi.2 == hi.1 * q)
  below && above

/-- Of the two neighbours of the value on the grid of `10 ^ e`, the nearer one in the interval
of decimals that read back as the value. -/
def gridHit (v lo hi : Nat × Nat) (ends : Bool) (e : Int) : Option Nat :=
  let n := quotientAt v.1 v.2 e
  let (p, q) := powerOfTen e
  let up := 2 * v.1 * q > (2 * n + 1) * p * v.2
  match between lo hi ends n e, between lo hi ends (n + 1) e with
  | true, true => some (if up then n + 1 else n)
  | true, false => some n
  | false, true => some (n + 1)
  | false, false => none

/-- The power of ten of the leading digit of a positive fraction. -/
def leadingPower (num den : Nat) : Int :=
  if den ≤ num then (Bytes.decimal (num / den)).length - 1
  else
    let k := (Bytes.decimal (den / num)).length
    if den ≤ num * Nat.pow 10 (k - 1) then -(k - 1 : Nat) else -(k : Nat)

/-- Tries grids of more and more digits. -/
def searchGrids (v lo hi : Nat × Nat) (ends : Bool) (top : Int) (tried : Nat) : Nat → Nat × Int
  | 0 => (quotientAt v.1 v.2 (top - tried), top - tried)
  | fuel + 1 =>
    let e := top - tried
    match gridHit v lo hi ends e with
    | some n => (n, e)
    | none => searchGrids v lo hi ends top (tried + 1) fuel

/-- Trailing zeros removed. -/
def stripZeros (s : Bytes) : Bytes := (s.reverse.dropWhile (· == 48)).reverse

/-- The fewest digits that read back as the positive number. -/
def shortest (m : Binary64.Magnitude) : Digits :=
  let v := m.ratio
  let unit := ({ m with mantissa := 1 } : Binary64.Magnitude).ratio
  let hi := (v.1 * unit.2 * 2 + unit.1 * v.2, v.2 * unit.2 * 2)
  let lo := if m.lowerGapHalved then (v.1 * unit.2 * 4 - unit.1 * v.2, v.2 * unit.2 * 4)
    else (v.1 * unit.2 * 2 - unit.1 * v.2, v.2 * unit.2 * 2)
  let (n, e) := searchGrids v lo hi (m.mantissa % 2 = 0) (leadingPower v.1 v.2) 0 17
  let ds := Bytes.decimal n
  ⟨stripZeros ds, ds.length + e⟩

/-- Without exponent: zeros fill up to the point on either side. -/
def positional (d : Digits) : Bytes :=
  if d.point ≤ 0 then
    Bytes.ofString "0." ++ List.replicate (-d.point).toNat 48 ++ d.digits
  else
    let whole := d.digits.take d.point.toNat
    let frac := d.digits.drop d.point.toNat
    whole ++ List.replicate (d.point.toNat - whole.length) 48
      ++ (if frac.isEmpty then [] else 46 :: frac)

/-- One digit before the point and a decimal exponent with a sign, without padding. -/
def scientific (d : Digits) : Bytes :=
  let frac := d.digits.drop 1
  let e := d.point - 1
  d.digits.take 1 ++ (if frac.isEmpty then [] else 46 :: frac) ++ [101]
    ++ (if e < 0 then [45] else [43]) ++ Bytes.decimal e.natAbs

/-- Shortest text of a finite number: positional from a millionth up to below 10 ^ 21. -/
def write (x : Float) : Bytes :=
  let bits := x.toBits
  let sign : Bytes := if bits ≥ signBit then [45] else []
  let m := Binary64.Magnitude.ofBits bits
  if m.mantissa = 0 then sign ++ [48]
  else
    let d := shortest m
    sign ++ (if d.point < -5 ∨ d.point > 21 then scientific d else positional d)

/-- A finite number with exactly `places` digits after the point, rounded from its exact value,
a tie to the even digit. -/
def writeFixed (places : Nat) (x : Float) : Bytes :=
  let bits := x.toBits
  let sign : Bytes := if bits ≥ signBit then [45] else []
  let (n, d) := (Binary64.Magnitude.ofBits bits).ratio
  let scaled := Bytes.decimal (Binary64.roundDiv (n * Nat.pow 10 places) d)
  let ds := List.replicate (places + 1 - scaled.length) 48 ++ scaled
  let whole := ds.take (ds.length - places)
  sign ++ whole ++ (if places = 0 then [] else 46 :: ds.drop (ds.length - places))

end FrontEnd.FloatText
