import FrontEnd.Number.FloatText

/-!
Integers of 64 bits as people write them: an optional sign, a base sign (`0b`, `0o`, `0x`, or just
`0` for octal) and digits, between which underscores may stand.
-/

namespace FrontEnd.Integer64

/-- Why a text is no integer of 64 bits. -/
inductive Fault where
  | malformed
  | outOfRange
  deriving DecidableEq, Repr

/-- The base and what is left behind the base sign; two-letter signs need something behind them. -/
def senseBase (s : Bytes) : Nat × Bytes :=
  match s with
  | 48 :: b :: c :: r =>
    let mark := Bytes.lowerByte b
    if mark = 98 then (2, c :: r)
    else if mark = 111 then (8, c :: r)
    else if mark = 120 then (16, c :: r)
    else (8, b :: c :: r)
  | 48 :: r => (8, r)
  | s => (10, s)

/-- Digits read onto `acc`. The first place where something is wrong decides what is wrong. -/
def readDigits (base acc : Nat) : Bytes → Except Fault Nat
  | [] => .ok acc
  | b :: r =>
    if b = 95 then readDigits base acc r
    else match Bytes.digitOf? base b with
      | none => .error .malformed
      | some d =>
        let n := acc * base + d
        if n < 0x10000000000000000 then readDigits base n r else .error .outOfRange

def readUnsigned (s : Bytes) : Except Fault Nat :=
  if s = [] then .error .malformed
  else
    let (base, digits) := senseBase s
    match readDigits base 0 digits with
    | .error e => .error e
    | .ok n => if s.elem 95 && !FloatText.underscoresOk s then .error .malformed else .ok n

def read (s : Bytes) : Except Fault Int :=
  let signed (negative : Bool) (s : Bytes) : Except Fault Int :=
    match readUnsigned s with
    | .error e => .error e
    | .ok n =>
      if negative then if n ≤ 0x8000000000000000 then .ok (-n) else .error .outOfRange
      else if n < 0x8000000000000000 then .ok n else .error .outOfRange
  match s with
  | 45 :: r => signed true r
  | 43 :: r => signed false r
  | s => signed false s

end FrontEnd.Integer64
