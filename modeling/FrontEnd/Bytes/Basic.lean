/-!
Byte strings. Source text reaches the front end as octets that need not form valid UTF-8, so a
view of text is a list of octets and every position is an octet offset. Positions coming from
outside are integers: a negative or too large one is clamped or refused, as each operation says.
-/

namespace FrontEnd

abbrev Bytes := List UInt8

namespace Bytes

/-- The UTF-8 octets of a text. -/
def ofString (s : String) : Bytes := s.toByteArray.data.toList

instance : Coe String Bytes := ⟨ofString⟩

/-- The octet of an ASCII character. -/
def octet (c : Char) : UInt8 := c.val.toUInt8

/-- Decimal digits, most significant first and without leading zeros. -/
def decimal (n : Nat) : Bytes :=
  if n < 10 then [48 + n.toUInt8] else decimal (n / 10) ++ [48 + (n % 10).toUInt8]

def decimalInt : Int → Bytes
  | .ofNat n => decimal n
  | .negSucc n => octet '-' :: decimal (n + 1)

/-- The lower-case hexadecimal digit of a value below 16. -/
def hexDigit (n : Nat) : UInt8 := if n < 10 then 48 + n.toUInt8 else 87 + n.toUInt8

/-- Two lower-case hexadecimal digits per octet. -/
def hex (s : Bytes) : Bytes :=
  s.flatMap fun b => [hexDigit (b.toNat / 16), hexDigit (b.toNat % 16)]

/-- The value of a lower-case hexadecimal digit. -/
def hexValue (b : UInt8) : UInt8 := if b < 58 then b - 48 else b - 87

/-- The octets that pairs of hexadecimal digits stand for. -/
def ofHex : Bytes → Bytes
  | a :: b :: r => (hexValue a * 16 + hexValue b) :: ofHex r
  | _ => []

/-- Exactly `width` lower-case hexadecimal digits, high digits beyond it dropped. -/
def hexPadded : Nat → Nat → Bytes
  | 0, _ => []
  | width + 1, n => hexPadded width (n / 16) ++ [hexDigit (n % 16)]

/-- The low `width` octets of a number, the most significant first. -/
def bigEndian : Nat → Nat → Bytes
  | 0, _ => []
  | width + 1, n => bigEndian width (n / 256) ++ [n.toUInt8]

/-- The number whose octets are given, the most significant first. -/
def ofBigEndian (s : Bytes) : Nat := s.foldl (fun n b => n * 256 + b.toNat) 0

/-- The pieces with `sep` between neighbours. -/
def join (sep : Bytes) : List Bytes → Bytes
  | [] => []
  | p :: ps => p ++ ps.flatMap (sep ++ ·)

/-- The text brought to at least `width` octets by blanks in front. -/
def padLeft (width : Nat) (s : Bytes) : Bytes := List.replicate (width - s.length) 32 ++ s

/-- The text brought to at least `width` octets by blanks behind. -/
def padRight (width : Nat) (s : Bytes) : Bytes := s ++ List.replicate (width - s.length) 32

inductive AccessError where
  | frontOfEmpty
  | backOfEmpty
  | indexOutOfRange
  | dropTooMany
  deriving DecidableEq, Repr

def AccessError.message : AccessError → Bytes
  | .frontOfEmpty => "strref: Front on empty ref"
  | .backOfEmpty => "strref: Back on empty ref"
  | .indexOutOfRange => "strref: index out of range"
  | .dropTooMany => "strref: dropping more elements than exist"

def front : Bytes → Except AccessError UInt8
  | [] => .error .frontOfEmpty
  | b :: _ => .ok b

def back (s : Bytes) : Except AccessError UInt8 :=
  match s.getLast? with
  | none => .error .backOfEmpty
  | some b => .ok b

def byteAt (s : Bytes) (i : Int) : Except AccessError UInt8 :=
  match i with
  | .ofNat n => match s[n]? with
    | some b => .ok b
    | none => .error .indexOutOfRange
  | .negSucc _ => .error .indexOutOfRange

/-- ASCII lower case of one octet; all other octets are kept. -/
def lowerByte (b : UInt8) : UInt8 := if 65 ≤ b ∧ b ≤ 90 then b + 32 else b

def upperByte (b : UInt8) : UInt8 := if 97 ≤ b ∧ b ≤ 122 then b - 32 else b

def lower (s : Bytes) : Bytes := s.map lowerByte

def upper (s : Bytes) : Bytes := s.map upperByte

/-- Lexicographic order by octet value; a proper beginning sorts first. -/
def compare : Bytes → Bytes → Ordering
  | [], [] => .eq
  | [], _ :: _ => .lt
  | _ :: _, [] => .gt
  | a :: r, b :: s => if a = b then compare r s else if a < b then .lt else .gt

/-- Compares octet by octet, without regard to ASCII case, two texts of one length. -/
def compareLowerAlong : Bytes → Bytes → Ordering
  | a :: r, b :: s =>
    if lowerByte a = lowerByte b then compareLowerAlong r s
    else if lowerByte a < lowerByte b then .lt else .gt
  | _, _ => .eq

/-- `compare` that does not tell ASCII upper from lower case: what the texts have in common
decides, and then their lengths. -/
def compareLower (r s : Bytes) : Ordering :=
  let n := min r.length s.length
  (compareLowerAlong (r.take n) (s.take n)).then (Ord.compare r.length s.length)

def equalsLower (r s : Bytes) : Bool := r.length == s.length && compareLower r s == .eq

def startsWith (r lead : Bytes) : Bool := lead.isPrefixOf r

def startsWithLower (r lead : Bytes) : Bool :=
  decide (lead.length ≤ r.length) && compareLowerAlong (r.take lead.length) lead == .eq

def endsWith (r tail : Bytes) : Bool := tail.isSuffixOf r

def endsWithLower (r tail : Bytes) : Bool :=
  decide (tail.length ≤ r.length) &&
    compareLowerAlong (r.drop (r.length - tail.length)) tail == .eq

/-- A position clamped to the end when it lies outside `0..size`. -/
def clamp (i : Int) (size : Nat) : Nat :=
  match i with
  | .ofNat n => if n ≤ size then n else size
  | .negSucc _ => size

/-- The `count` octets from `start` on; a bad start is the end, a bad count reaches to the end. -/
def substr (s : Bytes) (start count : Int) : Bytes :=
  let rest := s.drop (clamp start s.length)
  rest.take (clamp count rest.length)

/-- The octets from `start` up to `stop`; empty when `stop` lies before `start`. -/
def slice (s : Bytes) (start stop : Int) : Bytes :=
  let lo := clamp start s.length
  (s.drop lo).take (clamp stop s.length - lo)

def dropFront (s : Bytes) (n : Int) : Except AccessError Bytes :=
  if n < 0 ∨ n > s.length then .error .dropTooMany else .ok (s.drop n.toNat)

def dropBack (s : Bytes) (n : Int) : Except AccessError Bytes :=
  if n < 0 ∨ n > s.length then .error .dropTooMany else .ok (s.take (s.length - n.toNat))

/-- The first `n` octets, or all when there are no more; a negative `n` would drop too many. -/
def takeFront (s : Bytes) (n : Int) : Except AccessError Bytes :=
  if n ≥ s.length then .ok s else dropBack s (s.length - n)

def takeBack (s : Bytes) (n : Int) : Except AccessError Bytes :=
  if n ≥ s.length then .ok s else dropFront s (s.length - n)

/-- The rest after `lead`, when the text starts with it. -/
def stripFront? (s lead : Bytes) : Option Bytes :=
  if s.startsWith lead then some (s.drop lead.length) else none

def stripBack? (s tail : Bytes) : Option Bytes :=
  if s.endsWith tail then some (s.take (s.length - tail.length)) else none

end Bytes

end FrontEnd
