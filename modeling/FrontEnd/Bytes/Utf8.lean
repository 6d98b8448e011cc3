import FrontEnd.Bytes.Basic

/-!
UTF-8 inside byte strings. A text is read as a sequence of items: characters that are encoded
properly, and single octets that start none. The octets of the items, put together, are the text.
-/

namespace FrontEnd.Utf8

def isContinuation (b : UInt8) : Bool := 0x80 ≤ b && b ≤ 0xBF

/-- The code point of a well-formed sequence of the given octets. -/
def point2 (a b : UInt8) : Nat := (a.toNat - 0xC0) * 64 + (b.toNat - 0x80)

def point3 (a b c : UInt8) : Nat :=
  (a.toNat - 0xE0) * 4096 + (b.toNat - 0x80) * 64 + (c.toNat - 0x80)

def point4 (a b c d : UInt8) : Nat :=
  (a.toNat - 0xF0) * 262144 + (b.toNat - 0x80) * 4096 + (c.toNat - 0x80) * 64 + (d.toNat - 0x80)

/-- What may follow the first octet of a sequence of three: no overlong form, no surrogate. -/
def secondOf3 (a b : UInt8) : Bool :=
  if a = 0xE0 then 0xA0 ≤ b && b ≤ 0xBF
  else if a = 0xED then 0x80 ≤ b && b ≤ 0x9F
  else isContinuation b

/-- What may follow the first octet of a sequence of four: no overlong form, nothing past the
last code point. -/
def secondOf4 (a b : UInt8) : Bool :=
  if a = 0xF0 then 0x90 ≤ b && b ≤ 0xBF
  else if a = 0xF4 then 0x80 ≤ b && b ≤ 0x8F
  else isContinuation b

/-- The character at the front and the number of its octets, when one is encoded there. -/
def decode? (s : Bytes) : Option (Char × Nat) :=
  match s with
  | [] => none
  | a :: r =>
    if a < 0x80 then some (Char.ofNat a.toNat, 1)
    else if 0xC2 ≤ a ∧ a ≤ 0xDF then
      match r with
      | b :: _ => if isContinuation b then some (Char.ofNat (point2 a b), 2) else none
      | _ => none
    else if 0xE0 ≤ a ∧ a ≤ 0xEF then
      match r with
      | b :: c :: _ =>
        if secondOf3 a b && isContinuation c then some (Char.ofNat (point3 a b c), 3) else none
      | _ => none
    else if 0xF0 ≤ a ∧ a ≤ 0xF4 then
      match r with
      | b :: c :: d :: _ =>
        if secondOf4 a b && isContinuation c && isContinuation d then
          some (Char.ofNat (point4 a b c d), 4)
        else none
      | _ => none
    else none

/-- The number of octets of the item at the front: those of a character, or a single one. -/
def itemSize (s : Bytes) : Nat :=
  match decode? s with
  | some (_, n) => n
  | none => 1

inductive Item where
  | char (c : Char)
  | octet (b : UInt8)
  deriving DecidableEq, Repr

def encode (c : Char) : Bytes := String.utf8EncodeChar c

def Item.bytes : Item → Bytes
  | .char c => encode c
  | .octet b => [b]

/-- The character that an item stands for where only characters can be shown. -/
def Item.shown : Item → Char
  | .char c => c
  | .octet _ => Char.ofNat 0xFFFD

/-- Puts the items of a text before the reversed `acc`. -/
def itemsOnto (acc : List Item) (s : Bytes) : List Item :=
  match s with
  | [] => acc.reverse
  | b :: r =>
    match decode? (b :: r) with
    | some (c, n) => itemsOnto (.char c :: acc) (r.drop (n - 1))
    | none => itemsOnto (.octet b :: acc) r
termination_by s.length
decreasing_by
  · simp only [List.length_drop, List.length_cons]
    omega
  · simp

def items (s : Bytes) : List Item := itemsOnto [] s

def ofItems (xs : List Item) : Bytes := xs.flatMap Item.bytes

def isValid (s : Bytes) : Bool := (items s).all fun
  | .char _ => true
  | .octet _ => false

/-- Blanks behind a text of fewer than `width` characters. -/
def padRight (width : Nat) (s : Bytes) : Bytes := s ++ List.replicate (width - (items s).length) 32

/-- Blanks before a text of fewer than `width` characters. -/
def padLeft (width : Nat) (s : Bytes) : Bytes := List.replicate (width - (items s).length) 32 ++ s

end FrontEnd.Utf8
