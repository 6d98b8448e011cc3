import FrontEnd.Disk

/-!
Finding sources. A source is a file whose path ends in the extension; a directory stands for all
sources below it that can be reached without entering a hidden directory. The directory asked for
may itself be hidden.
-/

namespace FrontEnd.Discovery

def extension : Bytes := ".kj"

/-- A name that starts with a dot. -/
def isHidden (name : Bytes) : Bool := name.head? == some 46

/-- The sources in a tree that stands at the path `p`. -/
def sources (p : Bytes) : Tree → List Bytes
  | .file _ | .device _ => if p.endsWith extension then [p] else []
  | .dir es => es.attach.flatMap fun ⟨(name, t), _⟩ =>
    if t.isDir && isHidden name then [] else sources (Path.join [p, name]) t
termination_by t => sizeOf t
decreasing_by
  rename_i h _
  have := List.sizeOf_lt_of_mem h
  simp_wf
  simp only [Prod.mk.sizeOf_spec] at this
  omega

/-- The sources at a path in ascending order. -/
def list (d : Disk) (p : Bytes) : Except Disk.Error (List Bytes) :=
  match d.get p with
  | .error f => .error ⟨"lstat", p, f⟩
  | .ok t => .ok ((sources p t).mergeSort fun a b => Bytes.compare a b != .gt)

end FrontEnd.Discovery
