/-!
Binary floating-point numbers of 64 bits against exact fractions. A finite number is
`mantissa * 2 ^ exponent`; a fraction is rounded to the nearest such number, a tie to the even
mantissa, and the result is given as the bits of the number.
-/

namespace FrontEnd.Binary64

/-- The quotient rounded to the nearest integer, a tie to the even one. -/
def roundDiv (num den : Nat) : Nat :=
  let q := num / den
  let twice := 2 * (num % den)
  if den < twice ∨ (twice = den ∧ q % 2 = 1) then q + 1 else q

/-- The fraction divided by `2 ^ x`. -/
def scale (num den : Nat) (x : Int) : Nat × Nat :=
  match x with
  | .ofNat k => (num, den * Nat.pow 2 k)
  | .negSucc k => (num * Nat.pow 2 (k + 1), den)

/-- The least exponent of a finite number. -/
def leastExponent : Int := -1074

/-- The exponent at which a positive fraction has at most 53 bits before the point. -/
def exponentOf (num den : Nat) : Int :=
  let x : Int := (num.log2 : Int) - den.log2 - 53
  let (n, d) := scale num den x
  let x := if n / d < 0x20000000000000 then x else x + 1
  if x < leastExponent then leastExponent else x

/-- The place of the exponent field, above 52 bits of fraction. -/
def fractionSize : Nat := 0x10000000000000

/-- The bits of an infinite number, above those of all finite ones. -/
def infinityBits : Nat := 2047 * fractionSize

/-- The bits of the number nearest to a fraction, or nothing when it is too large. A mantissa
that rounds up to a power of two carries into the exponent field. -/
def nearest? (num den : Nat) : Option UInt64 :=
  if num = 0 then some 0
  else
    let x := exponentOf num den
    let (n, d) := scale num den x
    let bits := (x - leastExponent).toNat * fractionSize + roundDiv n d
    if bits < infinityBits then some bits.toUInt64 else none

/-- A finite number without its sign. -/
structure Magnitude where
  mantissa : Nat
  exponent : Int
  /-- The gap to the next smaller number is half of the gap to the next larger one. -/
  lowerGapHalved : Bool
  deriving Repr

def Magnitude.ofBits (bits : UInt64) : Magnitude :=
  let field : Nat := (bits.toNat / fractionSize) % 2048
  let frac : Nat := bits.toNat % fractionSize
  if field = 0 then ⟨frac, leastExponent, false⟩
  else ⟨frac + fractionSize, leastExponent + field - 1, frac = 0 && field > 1⟩

/-- The magnitude as a fraction. -/
def Magnitude.ratio (m : Magnitude) : Nat × Nat :=
  match m.exponent with
  | .ofNat k => (m.mantissa * Nat.pow 2 k, 1)
  | .negSucc k => (m.mantissa, Nat.pow 2 (k + 1))

end FrontEnd.Binary64
