import FrontEnd.Source.File

/-!
A cursor over the buffer of a file. The buffer is the content with the sentinel behind it, so
looking needs no test for the end; offsets are words.
-/

namespace FrontEnd

structure Cursor where
  file : FileId
  buffer : Array UInt8
  /-- The size of the content, where the sentinel stands. -/
  stop : UInt32
  off : UInt32 := 0
  deriving Repr

inductive CursorError where
  /-- The number of octets to go is no word. -/
  | outOfRange
  /-- A read outside the buffer. -/
  | outsideBuffer
  deriving DecidableEq, Repr

def CursorError.message : CursorError → Bytes
  | .outOfRange => "out of range"
  | .outsideBuffer => "index out of range"

namespace Cursor

def new (f : File) : Cursor := { file := f.id, buffer := f.buffer.toArray, stop := f.size }

def read (c : Cursor) (i : UInt32) : Except CursorError UInt8 :=
  match c.buffer[i.toNat]? with
  | some b => .ok b
  | none => .error .outsideBuffer

def atEnd (c : Cursor) : Bool := c.stop ≤ c.off

/-- The octet under the cursor. -/
def peek (c : Cursor) : Except CursorError UInt8 := c.read c.off

/-- The octet `n` places on, the sentinel when that is past the content. -/
def peekAt (c : Cursor) (n : UInt32) : Except CursorError UInt8 :=
  if n > c.stop - c.off then .ok sentinel else c.read (c.off + n)

/-- Steps over the octet under the cursor and gives it; stays at the sentinel. -/
def bump (c : Cursor) : Except CursorError (UInt8 × Cursor) :=
  c.peek.map fun b => (b, if c.off < c.stop then { c with off := c.off + 1 } else c)

/-- Steps over `n` octets, or to the end of the content. -/
def advance (c : Cursor) (n : Int) : Except CursorError Cursor :=
  if 0 ≤ n ∧ n < 0x100000000 then
    .ok { c with off := c.off + min n.toNat.toUInt32 (c.stop - c.off) }
  else .error .outOfRange

/-- Steps over `b` if it is the octet under the cursor. -/
def eat (c : Cursor) (b : UInt8) : Except CursorError (Bool × Cursor) :=
  if c.off < c.stop then
    c.peek.map fun x => if x = b then (true, { c with off := c.off + 1 }) else (false, c)
  else .ok (false, c)

/-- What is left of the content. -/
def rest (c : Cursor) : Except CursorError Bytes :=
  if c.off ≤ c.stop ∧ c.stop.toNat ≤ c.buffer.size then
    .ok (c.buffer.extract c.off.toNat c.stop.toNat).toList
  else .error .outsideBuffer

/-- A remembered offset. -/
abbrev Mark := UInt32

def mark (c : Cursor) : Mark := c.off

/-- The span from a mark to the cursor. -/
def spanFrom (c : Cursor) (m : Mark) : Span := ⟨c.file, m, c.off⟩

def reset (c : Cursor) (m : Mark) : Cursor := { c with off := m }

end Cursor

/-- What is done with a cursor in place. A failure does not undo what was done before it. -/
abbrev Moving := EStateM CursorError Cursor

namespace Moving

/-- Looks from where the cursor is, which may fail. -/
def look {α : Type} (sight : Cursor → Except CursorError α) : Moving α := do
  match sight (← get) with
  | .ok a => return a
  | .error e => throw e

def atEnd : Moving Bool := do return (← get).atEnd

def peek : Moving UInt8 := look Cursor.peek

def peekAt (n : UInt32) : Moving UInt8 := look (·.peekAt n)

/-- The octet is read before the cursor moves on. -/
def bump : Moving UInt8 := do
  let b ← peek
  let c ← get
  if c.off < c.stop then set { c with off := c.off + 1 }
  return b

/-- The number is checked before the cursor moves on. -/
def advance (n : Int) : Moving Unit := do
  if ¬(0 ≤ n ∧ n < 0x100000000) then throw .outOfRange
  modify fun c => { c with off := c.off + min n.toNat.toUInt32 (c.stop - c.off) }

def eat (b : UInt8) : Moving Bool := do
  let c ← get
  if c.off < c.stop then
    let x ← peek
    if x = b then
      set { c with off := c.off + 1 }
      return true
    else return false
  else return false

def rest : Moving Bytes := look Cursor.rest

def mark : Moving Cursor.Mark := do return (← get).mark

def spanFrom (m : Cursor.Mark) : Moving Span := do return (← get).spanFrom m

def reset (m : Cursor.Mark) : Moving Unit := modify (·.reset m)

end Moving

end FrontEnd
