import FrontEnd.Bytes.Basic

/-!
Integers read from the front of a byte string, and integer types. The radix is given or sensed from
what stands in front of the digits; the longest run of digits is read, and it counts only when its
value fits a word. Reading yields the value and what is left, or nothing at all.
-/

namespace FrontEnd.Bytes

def isDecimalDigit (b : UInt8) : Bool := 48 ≤ b && b ≤ 57

/-- The value of a digit or letter: `0`-`9`, then `a`-`z` and `A`-`Z` alike from ten on. -/
def digitValue? (b : UInt8) : Option Nat :=
  if 48 ≤ b ∧ b ≤ 57 then some (b.toNat - 48)
  else if 97 ≤ b ∧ b ≤ 122 then some (b.toNat - 97 + 10)
  else if 65 ≤ b ∧ b ≤ 90 then some (b.toNat - 65 + 10)
  else none

/-- The value of a digit of the given radix. -/
def digitOf? (radix : Nat) (b : UInt8) : Option Nat := (digitValue? b).filter (· < radix)

/-- The radix told by the beginning of the text, and the text after what tells it: `0x` and `0X`
are 16, `0b` and `0B` are 2, `0o` is 8, a zero before another digit is 8, anything else 10. -/
def senseRadix (s : Bytes) : Nat × Bytes :=
  match s with
  | 48 :: 120 :: r => (16, r)
  | 48 :: 88 :: r => (16, r)
  | 48 :: 98 :: r => (2, r)
  | 48 :: 66 :: r => (2, r)
  | 48 :: 111 :: r => (8, r)
  | 48 :: d :: r => if isDecimalDigit d then (8, d :: r) else (10, s)
  | _ => (10, s)

/-- Reads digits onto `acc` as far as they go; refuses a value of 2 ^ 64 or more. -/
def readDigits (radix : Nat) (acc : Nat) : Bytes → Option (Nat × Bytes)
  | [] => some (acc, [])
  | b :: r =>
    match digitOf? radix b with
    | none => some (acc, b :: r)
    | some d =>
      let acc := acc * radix + d
      if acc < 0x10000000000000000 then readDigits radix acc r else none

/-- Reads at least one digit of a radix from 2 to 36; radix 0 is sensed. -/
def readUnsigned (radix : Nat) (s : Bytes) : Option (Nat × Bytes) :=
  let (radix, s) := if radix = 0 then senseRadix s else (radix, s)
  if radix < 2 ∨ radix > 36 then none
  else match s with
    | [] => none
    | b :: r => if (digitOf? radix b).isSome then readDigits radix 0 (b :: r) else none

/-- A two's-complement or unsigned integer type of some number of bits. -/
structure IntType where
  signed : Bool
  width : Nat
  deriving DecidableEq, Repr

namespace IntType

/-- The type with a name such as `int8` or `uint`; types without a width in their names have 64
bits. -/
def ofName (name : Bytes) : IntType :=
  let digits := name.filter isDecimalDigit
  { signed := name.head? == some 105
    width := if digits = [] then 64 else digits.foldl (fun n b => n * 10 + (b.toNat - 48)) 0 }

/-- How many values there are. -/
def size (t : IntType) : Nat := Nat.pow 2 t.width

/-- How many values there are on either side of zero in a signed type. -/
def half (t : IntType) : Nat := Nat.pow 2 (t.width - 1)

/-- The representable values. -/
def contains (t : IntType) (v : Int) : Bool :=
  if t.signed then decide (-(t.half : Int) ≤ v) && decide (v < t.half)
  else decide (0 ≤ v) && decide (v < t.size)

/-- The representable value that agrees with `v` modulo the size of the type. -/
def wrap (t : IntType) (v : Int) : Int :=
  if t.signed then Int.bmod v t.size else v % t.size

/-- A number brought to the type: the value it wraps to, and whether that is the number itself. -/
def convert (t : IntType) (v : Int) : Int × Bool := (t.wrap v, t.contains v)

end IntType

end FrontEnd.Bytes
