import FrontEnd.Bytes.Basic

/-!
Coloured text for terminals. A stretch of text is put between escape sequences; when colours are
off it stays as it is.
-/

namespace FrontEnd

/-- Numbers of attributes in an escape sequence. -/
abbrev Attributes := List Nat

namespace Attributes

def bold : Nat := 1
def faint : Nat := 2
def green : Nat := 32
def yellow : Nat := 33
def blue : Nat := 34
def cyan : Nat := 36
def brightRed : Nat := 91

/-- The sequence that turns attributes on. -/
def sequence (attrs : Attributes) : Bytes :=
  "\x1b[" ++ Bytes.join ";" (attrs.map Bytes.decimal) ++ "m"

/-- The attributes that undo others: bold and faint have one of their own. -/
def undo (attrs : Attributes) : Attributes :=
  attrs.map fun a => if a = bold ∨ a = faint then 22 else 0

end Attributes

/-- Whether text is coloured, and whether it goes to a terminal. -/
structure Ink where
  enabled : Bool
  terminal : Bool
  deriving DecidableEq, Repr

namespace Ink

/-- Coloured text in a line: all attributes are turned off behind it on a terminal only. -/
def inline (ink : Ink) (attrs : Attributes) (text : Bytes) : Bytes :=
  if ink.enabled then
    attrs.sequence ++ text ++ (if ink.terminal then Attributes.sequence [0] else [])
  else text

/-- Coloured text as a whole: each attribute is undone behind it. -/
def wrap (ink : Ink) (attrs : Attributes) (text : Bytes) : Bytes :=
  if ink.enabled then attrs.sequence ++ text ++ attrs.undo.sequence else text

end Ink

end FrontEnd
