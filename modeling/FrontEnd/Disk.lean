import FrontEnd.Path

/-!
The file tree that programs read and write, as a value. A path is walked name by name from the
root or from the current directory, so `..` goes to the directory above the one reached, and a
walk through a missing or a plain file fails before the rest of the path is looked at.
-/

namespace FrontEnd

/-- A file that stores nothing. -/
inductive Device where
  /-- Takes everything, and has nothing to read. -/
  | null
  /-- Takes nothing, and can be read without end. -/
  | full
  deriving DecidableEq, Repr

inductive Tree where
  | file (content : Bytes)
  | device (d : Device)
  | dir (entries : List (Bytes × Tree))

namespace Tree

def isDir : Tree → Bool
  | .dir _ => true
  | _ => false

/-- The entries of a directory; a file has none. -/
def entries : Tree → List (Bytes × Tree)
  | .dir es => es
  | _ => []

/-- The tree below a list of names. -/
def find? : Tree → List Bytes → Option Tree
  | t, [] => some t
  | t, n :: ns => match t.entries.lookup n with
    | some c => c.find? ns
    | none => none

/-- The entries with `name` bound to `t`, in place when it is there already. -/
def setEntry (name : Bytes) (t : Tree) : List (Bytes × Tree) → List (Bytes × Tree)
  | [] => [(name, t)]
  | (n, c) :: es => if n = name then (n, t) :: es else (n, c) :: setEntry name t es

/-- Puts a tree below a list of names, making directories on the way. -/
def put : Tree → List Bytes → Tree → Tree
  | _, [], new => new
  | t, n :: ns, new =>
    .dir (setEntry n (put ((t.entries.lookup n).getD (.dir [])) ns new) t.entries)

/-- Removes what stands below a list of names, if anything. -/
def erase : Tree → List Bytes → Tree
  | t, [] => t
  | t, [n] => match t with
    | .dir es => .dir (es.filter (·.1 ≠ n))
    | t => t
  | t, n :: m :: ns => match t.entries.lookup n with
    | some c => .dir (setEntry n (c.erase (m :: ns)) t.entries)
    | none => t

/-- The paths, as seen from the path `p`, of all files and of all empty directories; those end in
a slash. -/
def leaves (p : Bytes) : Tree → List Bytes
  | .file _ | .device _ => [p]
  | .dir [] => [p ++ [Path.slash]]
  | .dir (e :: es) => (e :: es).attach.flatMap fun ⟨(name, t), _⟩ => leaves (Path.join [p, name]) t
termination_by t => sizeOf t
decreasing_by
  rename_i h
  have := List.sizeOf_lt_of_mem h
  simp_wf
  simp only [Prod.mk.sizeOf_spec] at this
  simp only [List.cons.sizeOf_spec] at this
  omega

end Tree

structure Disk where
  root : Tree
  /-- The current directory, as names from the root. -/
  cwd : List Bytes

namespace Disk

/-- Why the system refused an operation. -/
inductive Fault where
  | notExist
  | notDir
  | isDir
  | exists
  | invalid
  | nameTooLong
  | notEmpty
  | noSpace
  /-- The file was open, but is no more. -/
  | closed
  | noMemory
  deriving DecidableEq, Repr

def Fault.message : Fault → Bytes
  | .notExist => "no such file or directory"
  | .notDir => "not a directory"
  | .isDir => "is a directory"
  | .exists => "file exists"
  | .invalid => "invalid argument"
  | .nameTooLong => "file name too long"
  | .notEmpty => "directory not empty"
  | .noSpace => "no space left on device"
  | .closed => "file already closed"
  | .noMemory => "cannot allocate memory"

/-- A refused operation, with the path it was asked for. -/
structure Error where
  op : Bytes
  path : Bytes
  fault : Fault
  deriving DecidableEq, Repr

def Error.message (e : Error) : Bytes := e.op ++ " " ++ e.path ++ ": " ++ e.fault.message

/-- The longest name of a directory entry. -/
def longestName : Nat := 255

/-- The longest path. -/
def longestPath : Nat := 4095

/-- Follows the pieces of a path from the directory `here`, given as names reversed. A piece can
only be followed from a directory. -/
def walk (root : Tree) (here : List Bytes) : List Bytes → Except Fault (List Bytes)
  | [] => .ok here
  | p :: ps =>
    match root.find? here.reverse with
    | none => .error .notExist
    | some (.file _) | some (.device _) => .error .notDir
    | some (.dir es) =>
      if p = [] ∨ p = Path.dot then walk root here ps
      else if p = Path.dotDot then walk root here.tail ps
      else if p.length > longestName then .error .nameTooLong
      else if (es.lookup p).isSome then walk root (p :: here) ps
      else .error .notExist

/-- The names from the root to what a path denotes. -/
def resolve (d : Disk) (p : Bytes) : Except Fault (List Bytes) :=
  if p.elem 0 then .error .invalid
  else if p = [] then .error .notExist
  else if p.length > longestPath then .error .nameTooLong
  else (walk d.root (if Path.isAbsolute p then [] else d.cwd.reverse) (Path.pieces p)).map
    List.reverse

/-- The tree that a path denotes. -/
def get (d : Disk) (p : Bytes) : Except Fault Tree :=
  match d.resolve p with
  | .error f => .error f
  | .ok ns => match d.root.find? ns with
    | some t => .ok t
    | none => .error .notExist

def stat (d : Disk) (p : Bytes) : Except Error Tree := (d.get p).mapError (⟨"stat", p, ·⟩)

/-- All that is in a file. There is no memory for what has no end. -/
def read (d : Disk) (p : Bytes) : Except Error Bytes :=
  match d.get p with
  | .error f => .error ⟨"open", p, f⟩
  | .ok (.dir _) => .error ⟨"read", p, .isDir⟩
  | .ok (.device .null) => .ok []
  | .ok (.device .full) => .error ⟨"read", p, .noMemory⟩
  | .ok (.file c) => .ok c

/-- The place in a directory that a path leads to, whether or not there is anything. -/
structure Spot where
  /-- The directory, as names from the root. -/
  dir : List Bytes
  /-- The name in it; paths that end in `.` or `..`, and that of the root, give none. -/
  name : Option Bytes
  /-- Slashes follow the name. -/
  slashed : Bool
  deriving DecidableEq, Repr

/-- The place that a path leads to; the directory must be there. -/
def spot (d : Disk) (p : Bytes) : Except Fault Spot :=
  if p.elem 0 then .error .invalid
  else if p = [] then .error .notExist
  else if p.length > longestPath then .error .nameTooLong
  else match (Path.pieces p).reverse.dropWhile (· = []) with
    | [] => .ok ⟨[], none, true⟩
    | name :: up =>
      match walk d.root (if Path.isAbsolute p then [] else d.cwd.reverse) up.reverse with
      | .error f => .error f
      | .ok here => match d.root.find? here.reverse with
        | some (.dir _) =>
          let name := if name = Path.dot ∨ name = Path.dotDot then none else some name
          .ok ⟨here.reverse, name, p.getLast? = some Path.slash⟩
        | some _ => .error .notDir
        | none => .error .notExist

/-- What stands at a name in a directory. -/
def entry (d : Disk) (dir : List Bytes) (name : Bytes) : Except Fault (Option Tree) :=
  if name.length > longestName then .error .nameTooLong
  else .ok (d.root.find? (dir ++ [name]))

/-- Why a file cannot be created at a place; a directory is none, and a path with a slash at its end
means one. -/
def creationFault (d : Disk) (s : Spot) : Option Fault :=
  match s.name with
  | none => some .isDir
  | some name =>
    if s.slashed then some .isDir
    else match d.entry s.dir name with
      | .error f => some f
      | .ok (some (.dir _)) => some .isDir
      | .ok _ => none

/-- The names of the file that a path denotes, when there can be one. -/
def filePlace (d : Disk) (p : Bytes) : Except Error (List Bytes) :=
  match d.spot p with
  | .error f => .error ⟨"open", p, f⟩
  | .ok s => match d.creationFault s with
    | some f => .error ⟨"open", p, f⟩
    | none => .ok (s.dir ++ s.name.toList)

/-- Creates a file or replaces its content. -/
def writeFile (d : Disk) (p content : Bytes) : Except Error Disk :=
  match d.filePlace p with
  | .error e => .error e
  | .ok names => match d.root.find? names with
    | some (.device .null) => .ok d
    | some (.device .full) => if content = [] then .ok d else .error ⟨"write", p, .noSpace⟩
    | _ => .ok { d with root := d.root.put names (.file content) }

/-- Moves a new file to a path, in the place of the file that is there. -/
def replaceFile (d : Disk) (p content : Bytes) : Except Error Disk :=
  (d.filePlace p).map fun names => { d with root := d.root.put names (.file content) }

/-- The names of a path taken lexically from the root. -/
def namesOf (d : Disk) (p : Bytes) : List Bytes :=
  Path.elements (if Path.isAbsolute p then p else Path.spell true d.cwd ++ [Path.slash] ++ p)

/-- Makes one directory. A path that ends in a dot names one that may be there already. -/
def makeDir (d : Disk) (p : Bytes) : Option Error × Disk :=
  let refused (f : Fault) : Option Error × Disk :=
    match d.get p with
    | .ok (.dir _) => (none, d)
    | _ => (some ⟨"mkdir", p, f⟩, d)
  match d.spot p with
  | .error f => refused f
  | .ok ⟨_, none, _⟩ => refused .exists
  | .ok ⟨dir, some name, _⟩ => match d.entry dir name with
    | .error f => refused f
    | .ok (some _) => refused .exists
    | .ok none => (none, { d with root := d.root.put (dir ++ [name]) (.dir []) })

/-- A path without its last element and the slash before it. -/
def lead (p : Bytes) : Bytes :=
  (((p.reverse.dropWhile (· = Path.slash)).dropWhile (· ≠ Path.slash)).tail).reverse

theorem lead_length {p : Bytes} (h : lead p ≠ []) : (lead p).length < p.length := by
  have h₁ : 0 < (lead p).length := List.length_pos_iff.mpr h
  have h₂ := (List.dropWhile_sublist (· ≠ Path.slash)
    (l := p.reverse.dropWhile (· = Path.slash))).length_le
  have h₃ := (List.dropWhile_sublist (· = Path.slash) (l := p.reverse)).length_le
  unfold lead at h₁ ⊢
  rw [List.length_reverse, List.length_tail] at h₁ ⊢
  rw [List.length_reverse] at h₃
  omega

/-- Makes a directory and all above it. What was made stays when one of them fails. -/
def makeDirs (d : Disk) (p : Bytes) : Option Error × Disk :=
  match d.get p with
  | .ok (.dir _) => (none, d)
  | .ok (.file _) | .ok (.device _) => (some ⟨"mkdir", p, .notDir⟩, d)
  | .error _ =>
    let above := if h : lead p = [] then (none, d) else
      have := lead_length h
      makeDirs d (lead p)
    match above with
    | (some e, d) => (some e, d)
    | (none, d) => d.makeDir p
termination_by p.length

/-- Creates a file, and the directories above it where they are missing. -/
def plant (d : Disk) (p content : Bytes) : Disk :=
  { d with root := d.root.put (d.namesOf p) (.file content) }

/-- The directory of devices. -/
def devices : Tree := .dir [("null", .device .null), ("full", .device .full)]

/-- A disk with the current directory `cwd`, and in it the given directories and files. -/
def ofFiles (cwd : Bytes) (dirs : List Bytes) (files : List (Bytes × Bytes)) : Disk :=
  let blank : Disk := { root := .dir [("dev", devices)], cwd := Path.elements cwd }
  let made := (cwd :: dirs).foldl (fun d p => (d.makeDirs p).2) blank
  files.foldl (fun d (p, c) => d.plant p c) made

/-- Removes a file or a directory with all in it; a missing one is no failure. -/
def removeAll (d : Disk) (p : Bytes) : Disk :=
  match d.resolve p with
  | .ok ns => { d with root := d.root.erase ns }
  | .error _ => d

/-- The path of the current directory. -/
def cwdPath (d : Disk) : Bytes := Path.spell true d.cwd

/-- The files and the empty directories below the current directory, in ascending order. -/
def listing (d : Disk) : List Bytes :=
  (((d.root.find? d.cwd).getD (.dir [])).leaves []).mergeSort fun a b => Bytes.compare a b != .gt

end Disk

end FrontEnd
