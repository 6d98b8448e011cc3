import FrontEnd.Bytes.Integer

/-!
Numbers taken off the front of a text, in words of 64 bits. The value is built up digit by digit; a
digit that would take it beyond a word shows in the high word of the product or in the carry of the
sum. A signed number is a word with its own limit on either side of zero, and a number of a narrower
type is one of 64 bits that the conversion to the type keeps. A text is shortened only by a number
that counts.
-/

namespace FrontEnd.Bytes

/-- The high word of a product. -/
def mulHigh (a b : UInt64) : UInt64 := UInt64.ofNat (a.toNat * b.toNat / 0x10000000000000000)

/-- A sum that goes beyond a word comes out below what was added to. -/
def carries (a b : UInt64) : Bool := a + b < a

/-- The value with one more digit behind it, when that is a word. -/
def pushDigit? (radix value digit : UInt64) : Option UInt64 :=
  if mulHigh value radix ≠ 0 then none
  else if carries (value * radix) digit then none
  else some (value * radix + digit)

/-- Takes digits onto `value` as far as they go, `count` having been taken before. Gives the value,
the number of digits and what is left. -/
def takeDigits (radix value : UInt64) (count : Nat) : Bytes → Option (UInt64 × Nat × Bytes)
  | [] => some (value, count, [])
  | b :: r =>
    match digitValue? b with
    | none => some (value, count, b :: r)
    | some d =>
      if radix ≤ UInt64.ofNat d then some (value, count, b :: r)
      else match pushDigit? radix value (UInt64.ofNat d) with
        | none => none
        | some value => takeDigits radix value (count + 1) r

/-- What came of taking a number off a text, and the text afterwards. -/
structure Consumed (α : Type) where
  value : α
  ok : Bool
  rest : Bytes
  deriving DecidableEq, Repr

def Consumed.map {α β : Type} (f : α → β) (c : Consumed α) : Consumed β := ⟨f c.value, c.ok, c.rest⟩

/-- Takes at least one digit of a radix from 2 to 36 off a text; radix 0 is sensed. A failure counts
as 0 and leaves the text as it was, what tells the radix included. -/
def consumeUnsigned (radix : UInt64) (s : Bytes) : Consumed UInt64 :=
  let (radix, digits) : UInt64 × Bytes :=
    if radix = 0 then (UInt64.ofNat s.senseRadix.1, s.senseRadix.2) else (radix, s)
  if radix < 2 ∨ radix > 36 then ⟨0, false, s⟩
  else match takeDigits radix 0 0 digits with
    | none => ⟨0, false, s⟩
    | some (_, 0, _) => ⟨0, false, s⟩
    | some (value, _ + 1, rest) => ⟨value, true, rest⟩

/-- Takes a number with or without a minus sign off a text. The sign turns the word around, which
leaves the lowest number the word it is. -/
def consumeSigned (radix : UInt64) (s : Bytes) : Consumed Int64 :=
  match s with
  | 45 :: r =>
    let c := consumeUnsigned radix r
    if !c.ok || c.value > 0x8000000000000000 then ⟨0, false, s⟩
    else ⟨(-c.value).toInt64, true, c.rest⟩
  | s =>
    let c := consumeUnsigned radix s
    if !c.ok || c.value > 0x7FFFFFFFFFFFFFFF then ⟨0, false, s⟩
    else ⟨c.value.toInt64, true, c.rest⟩

/-- Takes a number of 64 bits off a text, by the signedness of the type. -/
def consumeWide (t : IntType) (radix : UInt64) (s : Bytes) : Consumed Int :=
  if t.signed then (consumeSigned radix s).map Int64.toInt
  else (consumeUnsigned radix s).map fun v => (v.toNat : Int)

/-- Takes a number of the type off a text. `convert` brings a number of 64 bits to the type and
tells whether it fits; one that does not leaves the text as it was. -/
def consumeInteger (t : IntType) (convert : Int → Int × Bool) (radix : UInt64) (s : Bytes) :
    Consumed Int :=
  let wide := consumeWide t radix s
  if wide.ok then
    match convert wide.value with
    | (v, true) => ⟨v, true, wide.rest⟩
    | (_, false) => ⟨0, false, s⟩
  else ⟨0, false, s⟩

/-- What is known after reading a whole text as a number: `value` also tells of a text that was
not accepted. -/
structure Reading where
  value : Int
  ok : Bool
  deriving DecidableEq, Repr

/-- A whole text as a number of 64 bits, by the signedness of the type. -/
def wholeWide (t : IntType) (radix : UInt64) (s : Bytes) : Reading :=
  let c := consumeWide t radix s
  ⟨c.value, c.ok && c.rest.isEmpty⟩

/-- A whole text as a value of the type: 0 when it is no number, the converted value when the number
does not fit. -/
def wholeInteger (t : IntType) (convert : Int → Int × Bool) (radix : UInt64)
    (s : Bytes) : Reading :=
  let wide := wholeWide t radix s
  if wide.ok then ⟨(convert wide.value).1, (convert wide.value).2⟩ else ⟨0, false⟩

end FrontEnd.Bytes
