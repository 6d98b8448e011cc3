import FrontEnd.Bytes.Utf8
import FrontEnd.Number.FloatText

/-!
JSON documents and their text. Fields are written in the order they are given. Text is escaped
so that it can stand inside markup: angle brackets, ampersands and line separators are escaped
as well, and an octet that is no character becomes the replacement character.
-/

namespace FrontEnd

inductive Json where
  | null
  | bool (b : Bool)
  | int (v : Int)
  | float (x : Float)
  | str (s : Bytes)
  | arr (items : List Json)
  | obj (fields : List (Bytes × Json))

namespace Json

def escapedPoint (n : Nat) : Bytes := [92, 117] ++ Bytes.hexPadded 4 n

def escapeChar (c : Char) : Bytes :=
  match c.toNat with
  | 34 => [92, 34]
  | 92 => [92, 92]
  | 8 => [92, 98]
  | 12 => [92, 102]
  | 10 => [92, 110]
  | 13 => [92, 114]
  | 9 => [92, 116]
  | n =>
    if n < 32 ∨ n = 60 ∨ n = 62 ∨ n = 38 ∨ n = 0x2028 ∨ n = 0x2029 then escapedPoint n
    else Utf8.encode c

def quoted (s : Bytes) : Bytes :=
  34 :: (Utf8.items s).flatMap (fun
    | .char c => escapeChar c
    | i => Utf8.encode i.shown) ++ [34]

/-- Items between brackets: `first` before them, `sep` between them and `last` behind them. -/
def bracket (left right first sep last : Bytes) : List Bytes → Bytes
  | [] => left ++ right
  | items => left ++ first ++ Bytes.join sep items ++ last ++ right

def word : Bool → Bytes
  | true => "true"
  | false => "false"

/-- Text on one line without blanks. -/
def compact : Json → Bytes
  | .null => "null"
  | .bool b => word b
  | .int v => Bytes.decimalInt v
  | .float x => FloatText.write x
  | .str s => quoted s
  | .arr items => bracket "[" "]" [] "," [] (items.map compact)
  | .obj fields => bracket "\x7b" "\x7d" [] "," []
      (fields.attach.map fun ⟨(k, v), _⟩ => quoted k ++ ":" ++ compact v)
termination_by j => sizeOf j
decreasing_by
  · simp_wf
    have := List.sizeOf_lt_of_mem ‹_ ∈ items›
    omega
  · rename_i h
    have := List.sizeOf_lt_of_mem h
    simp_wf
    simp only [Prod.mk.sizeOf_spec] at this
    omega

/-- A line break and two blanks for each level. -/
def newLine (level : Nat) : Bytes := 10 :: List.replicate (2 * level) 32

/-- Text with each item and field on a line of its own. -/
def indented (level : Nat) : Json → Bytes
  | .null => "null"
  | .bool b => word b
  | .int v => Bytes.decimalInt v
  | .float x => FloatText.write x
  | .str s => quoted s
  | .arr items => bracket "[" "]" (newLine (level + 1)) ("," ++ newLine (level + 1)) (newLine level)
      (items.map (indented (level + 1)))
  | .obj fields =>
    bracket "\x7b" "\x7d" (newLine (level + 1)) ("," ++ newLine (level + 1)) (newLine level)
      (fields.attach.map fun ⟨(k, v), _⟩ => quoted k ++ ": " ++ indented (level + 1) v)
termination_by j => sizeOf j
decreasing_by
  · simp_wf
    have := List.sizeOf_lt_of_mem ‹_ ∈ items›
    omega
  · rename_i h
    have := List.sizeOf_lt_of_mem h
    simp_wf
    simp only [Prod.mk.sizeOf_spec] at this
    omega

/-- A document as written to a stream: indented, with a line end behind it. -/
def document (j : Json) : Bytes := indented 0 j ++ [10]

def text (s : Bytes) : Json := .str s

def nat (n : Nat) : Json := .int n

/-- One field, ready to be followed by others. -/
def field (name : String) (v : Json) : List (Bytes × Json) := [(name, v)]

/-- A field that is left out when its value is empty text. -/
def textField? (name : String) (s : Bytes) : List (Bytes × Json) :=
  if s.isEmpty then [] else [(name, .str s)]

/-- A field that is left out when its value is zero. -/
def natField? (name : String) (n : Nat) : List (Bytes × Json) :=
  if n = 0 then [] else [(name, .int n)]

/-- A field that is left out when it has no items. -/
def listField? (name : String) (items : List Json) : List (Bytes × Json) :=
  if items.isEmpty then [] else [(name, .arr items)]

end Json

end FrontEnd
