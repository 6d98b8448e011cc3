import FrontEnd.Bytes.Basic

/-!
Diagnostic codes and severities. A code is a number; those in use have a title and a message
template, in which `%0` to `%9` stand for arguments. Any other number reads as the unknown error.
-/

namespace FrontEnd

structure Code where
  number : UInt16
  deriving DecidableEq, Repr, Hashable

namespace Code

def unknown : Code := ⟨0⟩
/-- The input ends inside a literal. -/
def endInLiteral : Code := ⟨1⟩
def unterminatedString : Code := ⟨2⟩
def unterminatedChar : Code := ⟨3⟩
def unknownEscape : Code := ⟨4⟩
def emptyChar : Code := ⟨5⟩
def multiCharLiteral : Code := ⟨6⟩
def malformedChar : Code := ⟨7⟩
def badNumber : Code := ⟨8⟩
def numberOverflow : Code := ⟨9⟩
def loadFailed : Code := ⟨100⟩

/-- The title and the template of a code in use. -/
def info? (c : Code) : Option (Bytes × Bytes) :=
  match c.number.toNat with
  | 0 => some ("Unknown error", "unknown error")
  | 1 => some ("Extraneous end of file", "unexpected end of file inside a literal")
  | 2 => some ("Unterminated string", "unterminated string literal")
  | 3 => some ("Unterminated character", "unterminated character literal")
  | 4 => some ("Unknown escape", "unknown escape sequence '%0'")
  | 5 => some ("Empty character", "empty character constant")
  | 6 => some ("Multi-character literal", "multiple characters in character literal")
  | 7 => some ("Malformed character", "malformed character '%0'")
  | 8 => some ("Bad number", "malformed integer literal '%0'")
  | 9 => some ("Number overflow", "integer literal '%0' does not fit in %1 bits")
  | 100 => some ("Cannot load file", "cannot load '%0': %1")
  | _ => none

def title (c : Code) : Bytes := (c.info?.map Prod.fst).getD "Unknown error"

def template (c : Code) : Bytes := (c.info?.map Prod.snd).getD "unknown error"

/-- `ERR` and at least four digits. -/
def id (c : Code) : Bytes :=
  let ds := Bytes.decimal c.number.toNat
  "ERR" ++ (List.replicate (4 - ds.length) 48 : Bytes) ++ ds

/-- The code as listed: its id and title. -/
def render (c : Code) : Bytes := "[" ++ c.id ++ "]: " ++ c.title

end Code

/-- A larger level is more severe. -/
structure Severity where
  level : UInt8
  deriving DecidableEq, Repr

namespace Severity

def info : Severity := ⟨0⟩
def warning : Severity := ⟨1⟩
def error : Severity := ⟨2⟩

def name (s : Severity) : Bytes :=
  match s.level.toNat with
  | 0 => "INFO"
  | 1 => "WARNING"
  | 2 => "ERROR"
  | _ => "UNKNOWN"

def atLeast (s floor : Severity) : Bool := floor.level ≤ s.level

end Severity

end FrontEnd
