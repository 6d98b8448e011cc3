import FrontEnd.Disk

/-!
What was done to a tree, as the steps that lead from its former state to the present one. A
directory comes before what is in it.
-/

namespace FrontEnd

inductive Change where
  | makeDir (path : Bytes)
  | write (path content : Bytes)
  | remove (path : Bytes)
  deriving DecidableEq, Repr

namespace Tree

/-- The steps that turn what was at the path `p`, if anything, into the tree that is there now. -/
def changes (p : Bytes) (old : Option Tree) : Tree → List Change
  | .file c => match old with
    | some (.file was) => if was = c then [] else [.write p c]
    | some (.dir _) => [.remove p, .write p c]
    | _ => [.write p c]
  | .device _ => []
  | .dir es =>
    let before := (old.map entries).getD []
    let start := match old with
      | some (.dir _) => []
      | some _ => [.remove p, .makeDir p]
      | none => [.makeDir p]
    let gone := before.filter fun e => (es.lookup e.1).isNone
    start ++ gone.map (fun e => .remove (Path.join [p, e.1])) ++
      es.attach.flatMap fun ⟨(name, t), _⟩ => changes (Path.join [p, name]) (before.lookup name) t
termination_by t => sizeOf t
decreasing_by
  rename_i h
  have := List.sizeOf_lt_of_mem h
  simp only [Prod.mk.sizeOf_spec] at this
  simp_wf
  omega

end Tree

/-- The steps from a former state of the disk to the present one. -/
def Disk.changes (old new : Disk) : List Change :=
  new.root.changes [Path.slash] (some old.root)

end FrontEnd
