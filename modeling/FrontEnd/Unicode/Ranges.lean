/-!
Classes of characters as tables. A table lists its entries in ascending order of code point, and
an entry is found by halving.
-/

namespace FrontEnd.Unicode

/-- The entry at which `side` finds itself, in a table ordered by it: `lt` looks before an entry,
`gt` behind it. Only the places from `lo` up to `hi` are searched. -/
def bisect {α : Type} (table : Array α) (side : α → Ordering) (lo hi : Nat) : Option α :=
  if lo < hi then
    let mid := (lo + hi) / 2
    match table[mid]? with
    | none => none
    | some entry => match side entry with
      | .eq => some entry
      | .lt => bisect table side lo mid
      | .gt => bisect table side (mid + 1) hi
  else none
termination_by hi - lo

/-- Closed ranges of code points, ascending and apart. -/
abbrev Ranges := Array (Nat × Nat)

def Ranges.contains (t : Ranges) (n : Nat) : Bool :=
  (bisect t (fun (lo, hi) => if n < lo then .lt else if hi < n then .gt else .eq) 0 t.size).isSome

end FrontEnd.Unicode
