import Std.Data.HashSet
import FrontEnd.Diagnostic.Basic

/-!
Bags of diagnostics. A bag holds up to its limit, a 16-bit word, and counts what it refused.
-/

namespace FrontEnd

structure Bag where
  limit : UInt16
  items : Array Diagnostic := #[]
  dropped : Nat := 0

inductive BagError where
  | limitOverflow
  deriving DecidableEq, Repr

def BagError.message : BagError → Bytes
  | .limitOverflow => "bag limit overflow: out of range"

namespace Bag

/-- An empty bag; a limit is between 0 and 65535. -/
def new (limit : Int) : Except BagError Bag :=
  if 0 ≤ limit ∧ limit < 65536 then .ok { limit := limit.toNat.toUInt16 }
  else .error .limitOverflow

def size (b : Bag) : Nat := b.items.size

/-- Stores a diagnostic unless the bag is full, and tells whether it did. -/
def add (b : Bag) (d : Diagnostic) : Bag × Bool :=
  if b.items.size = b.limit.toNat then ({ b with dropped := b.dropped + 1 }, false)
  else ({ b with items := b.items.push d }, true)

def hasAtLeast (b : Bag) (floor : Severity) : Bool := b.items.any (·.severity.atLeast floor)

def hasErrors (b : Bag) : Bool := b.hasAtLeast Severity.error

/-- A warning or anything worse. -/
def hasWarnings (b : Bag) : Bool := b.hasAtLeast Severity.warning

/-- The order of a sorted bag: by file, start and stop, the more severe first, then by code. -/
def compare (x y : Diagnostic) : Ordering :=
  (Ord.compare x.primary.file y.primary.file).then <|
  (Ord.compare x.primary.start y.primary.start).then <|
  (Ord.compare x.primary.stop y.primary.stop).then <|
  (Ord.compare y.severity.level x.severity.level).then <|
  Ord.compare x.code.number y.code.number

/-- Sorts; diagnostics that compare equal keep their order. -/
def sort (b : Bag) : Bag :=
  { b with items := (b.items.toList.mergeSort fun x y => (compare x y).isLE).toArray }

/-- What makes two diagnostics of a bag repeat each other: the code and the spelled span. -/
def key (d : Diagnostic) : Code × Bytes := (d.code, d.primary.render)

/-- The diagnostics whose key was not seen, onto the reversed `acc`. -/
def dedupFrom (seen : Std.HashSet (Code × Bytes)) (acc : List Diagnostic) :
    List Diagnostic → List Diagnostic
  | [] => acc.reverse
  | d :: ds =>
    if seen.contains (key d) then dedupFrom seen acc ds
    else dedupFrom (seen.insert (key d)) (d :: acc) ds

/-- Keeps the first diagnostic of each key. -/
def dedup (b : Bag) : Bag := { b with items := (dedupFrom ∅ [] b.items.toList).toArray }

end Bag

end FrontEnd
