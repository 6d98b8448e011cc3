import FrontEnd.Trace.Event

/-!
Rings keep the most recent events they admit, so that these can be looked at after a failure.
-/

namespace FrontEnd.Trace

/-- Once all places are taken, the next event goes where the oldest is. -/
structure Ring where
  capacity : Nat
  level : Level
  cells : Array Event := #[]
  /-- The place of the oldest event, once all places are taken. -/
  next : Nat := 0
  /-- How many events were ever kept, in 64 bits. -/
  total : UInt64 := 0
  deriving Repr

namespace Ring

def defaultCapacity : Nat := 4096

/-- No ring has more places: their addresses would run out. -/
def maxCapacity : Nat := 2706490160679

def new (capacity : Int) (level : Level) : Ring :=
  { capacity := if 0 < capacity then capacity.toNat else defaultCapacity, level }

/-- Keeps an event the level admits. -/
def push (r : Ring) (e : Event) : Ring :=
  if r.cells.size < r.capacity then
    { r with cells := r.cells.push e, total := r.total + 1 }
  else
    { r with
      cells := r.cells.setIfInBounds r.next e
      next := (r.next + 1) % r.cells.size
      total := r.total + 1 }

/-- The events kept, oldest first. -/
def events (r : Ring) : List Event := r.cells.toList.drop r.next ++ r.cells.toList.take r.next

/-- How many events gave way to others. -/
def dropped (r : Ring) : UInt64 := r.total - r.cells.size.toUInt64

end Ring

end FrontEnd.Trace
