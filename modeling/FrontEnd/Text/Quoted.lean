import FrontEnd.Bytes.Utf8
import FrontEnd.Unicode.Printable

/-!
Quoted text, as shown in messages: printable characters stand for themselves between double
quotes, all others and octets that are no characters are escaped.
-/

namespace FrontEnd.Quoted

/-- The letter of a short escape. -/
def shortEscape? (c : Char) : Option Char :=
  match c.toNat with
  | 7 => some 'a'
  | 8 => some 'b'
  | 12 => some 'f'
  | 10 => some 'n'
  | 13 => some 'r'
  | 9 => some 't'
  | 11 => some 'v'
  | _ => none

def backslash : UInt8 := 92

def char (c : Char) : Bytes :=
  if c = '"' ∨ c = '\\' then [backslash, Bytes.octet c]
  else if Unicode.isPrintable c then Utf8.encode c
  else match shortEscape? c with
    | some l => [backslash, Bytes.octet l]
    | none =>
      let n := c.toNat
      if n < 32 ∨ n = 127 then [backslash, 120] ++ Bytes.hexPadded 2 n
      else if n < 0x10000 then [backslash, 117] ++ Bytes.hexPadded 4 n
      else [backslash, 85] ++ Bytes.hexPadded 8 n

def item : Utf8.Item → Bytes
  | .char c => char c
  | .octet b => [backslash, 120] ++ Bytes.hexPadded 2 b.toNat

def quote (s : Bytes) : Bytes := 34 :: (Utf8.items s).flatMap item ++ [34]

end FrontEnd.Quoted
