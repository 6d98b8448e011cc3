import FrontEnd.Bytes.Basic

/-!
Paths as text, by their spelling alone. A path is read as its elements between slashes; the
clean spelling has no empty element, no `.` and no `..` that an element before it would cancel.
-/

namespace FrontEnd.Path

def slash : UInt8 := 47

/-- The pieces between slashes, `piece` being the one read so far, reversed. -/
def piecesFrom (piece : Bytes) : Bytes → List Bytes
  | [] => [piece.reverse]
  | b :: r => if b = slash then piece.reverse :: piecesFrom [] r else piecesFrom (b :: piece) r

/-- The pieces between slashes; there is one more than there are slashes. -/
def pieces (p : Bytes) : List Bytes := piecesFrom [] p

def isAbsolute (p : Bytes) : Bool := p.head? == some slash

def dot : Bytes := [46]

def dotDot : Bytes := [46, 46]

/-- One more piece at the end of clean elements, which are given reversed. At the root there is
nothing above to go to. -/
def step (rooted : Bool) (stack : List Bytes) (piece : Bytes) : List Bytes :=
  if piece = [] ∨ piece = dot then stack
  else if piece = dotDot then
    match stack with
    | [] => if rooted then [] else [dotDot]
    | top :: rest => if top = dotDot then dotDot :: stack else rest
  else piece :: stack

/-- The elements of the clean spelling. -/
def elements (p : Bytes) : List Bytes := ((pieces p).foldl (step (isAbsolute p)) []).reverse

/-- The spelling of elements, from the root or from here. -/
def spell (rooted : Bool) (es : List Bytes) : Bytes :=
  if rooted then slash :: Bytes.join [slash] es
  else if es.isEmpty then dot else Bytes.join [slash] es

/-- The shortest spelling of the same path. -/
def clean (p : Bytes) : Bytes := spell (isAbsolute p) (elements p)

/-- The last element, after any slashes at the end are removed. -/
def base (p : Bytes) : Bytes :=
  match p with
  | [] => dot
  | p => match (pieces p).reverse.find? (· ≠ []) with
    | some e => e
    | none => [slash]

/-- All but the last element, clean. -/
def dir (p : Bytes) : Bytes :=
  clean ((p.reverse.dropWhile (· ≠ slash)).reverse)

/-- The clean path of all non-empty parts in a row; nothing when there is no such part. -/
def join (parts : List Bytes) : Bytes :=
  match parts.filter (· ≠ []) with
  | [] => []
  | ps => clean (Bytes.join [slash] ps)

/-- The clean absolute path of `p` as seen from the directory `cwd`. -/
def absolute (cwd p : Bytes) : Bytes := if isAbsolute p then clean p else join [cwd, p]

/-- What is left of two lists behind their common beginning. -/
def afterCommon : List Bytes → List Bytes → List Bytes × List Bytes
  | a :: r, b :: s => if a = b then afterCommon r s else (a :: r, b :: s)
  | r, s => (r, s)

/-- The way from one absolute path to another: up to their common directory, then down. -/
def difference (source target : Bytes) : Bytes :=
  let (up, down) := afterCommon (elements source) (elements target)
  spell false (up.map (fun _ => dotDot) ++ down)

/-- The path as seen from the directory `dir`, or the clean absolute path when it is not below it.
An empty directory is the current one. -/
def relative (cwd p dir : Bytes) : Bytes :=
  let whole := absolute cwd p
  let way := difference (absolute cwd (if dir = [] then cwd else dir)) whole
  if way = dotDot ∨ (dotDot ++ [slash]).isPrefixOf way then whole else clean way

end FrontEnd.Path
