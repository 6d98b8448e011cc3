import FrontEnd.Bytes.Piece
import FrontEnd.Unicode.Parts

/-!
Canonical composition. A text is composed segment by segment: a character that starts with no mark
starts a segment, and all marks up to the next such character belong to it. The characters of a
segment are taken apart, their marks are put in order of their classes, and what can be joined is
joined again. A run of marks too long for a segment is broken by a grapheme joiner. Segments that
are composed already are passed over, and so is a text that ends inside a character from there on.
-/

namespace FrontEnd.Unicode

/-- A part of a segment. -/
structure Part where
  octets : Bytes
  /-- The character that the octets encode, if they do. -/
  char : Option Char
  /-- Its combining class. -/
  level : Nat := 0
  /-- It may join what stands before it. -/
  joins : Bool := false
  deriving DecidableEq, Repr

def Part.ofChar (c : Char) : Part := ⟨Utf8.encode c, some c, combiningClass c, mayJoin c⟩

/-- A part without a class that joins nothing. -/
def Part.plain (c : Char) : Part := ⟨Utf8.encode c, some c, 0, false⟩

/-- The parts of a piece. -/
def partsOf (p : Utf8.Piece) : List Part :=
  match p.char with
  | none => [⟨p.octets, none, 0, false⟩]
  | some c => if isHangul c.toNat then (decompose c).map .plain else (decompose c).map .ofChar

/-- Puts a part behind the parts of a segment, which are reversed; a mark goes before marks of a
higher class. -/
def insertPart (p : Part) : List Part → List Part
  | [] => [p]
  | q :: qs => if p.level ≠ 0 ∧ p.level < q.level then q :: insertPart p qs else p :: q :: qs

def insertPiece (segment : List Part) (p : Utf8.Piece) : List Part :=
  (partsOf p).foldl (fun s p => insertPart p s) segment

/-- A segment being joined: the parts before the base, the base, and the parts behind it that
joined nothing, both lists reversed. -/
structure Joining where
  before : List Part
  base : Part
  behind : List Part

namespace Joining

def last (j : Joining) : Part := j.behind.headD j.base

/-- The last part is the base if it has no class. -/
def rebase (j : Joining) : Joining :=
  match j.behind with
  | [] => j
  | p :: ps => if p.level = 0 then ⟨ps ++ j.base :: j.before, p, []⟩ else j

def keep (j : Joining) (p : Part) : Joining := { j with behind := p :: j.behind }

/-- A part of the same or a higher class stands between the base and a part behind it. -/
def blocks (j : Joining) (p : Part) : Bool := !j.behind.isEmpty && p.level ≤ j.last.level

/-- Joins a part to the base if a rule does so and nothing stands between; else keeps it. -/
def join (j : Joining) (rule : Char → Char → Option Char) (p : Part) : Joining :=
  let joined : Option Char :=
    if j.blocks p then none
    else match j.base.char, p.char with
      | some a, some b => rule a b
      | _, _ => none
  match joined with
  | some c => { j with base := .plain c }
  | none => j.keep p

/-- A part that joins nothing does not look for a base either. -/
def push (j : Joining) (p : Part) : Joining :=
  if p.joins then j.rebase.join composite? p else j.keep p

/-- From the first Hangul letter behind the base on, only syllables are joined. -/
def pushAll (j : Joining) : List Part → Joining
  | [] => j
  | p :: ps =>
    if p.char.any isHangulLetter then (p :: ps).foldl (fun j p => j.rebase.join syllable? p) j
    else (j.push p).pushAll ps

def octets (j : Joining) : Bytes :=
  (j.before.reverse ++ j.base :: j.behind.reverse).flatMap Part.octets

end Joining

/-- The composed form of a segment, whose parts are reversed. -/
def joinSegment (segment : List Part) : Bytes :=
  match segment.reverse with
  | [] => []
  | p :: ps => (Joining.pushAll ⟨[], p, []⟩ ps).octets

/-- The most marks in a row. -/
def longestMarkRun : Nat := 30

/-- What breaks a longer run. -/
def graphemeJoiner : Part := .plain (Char.ofNat 0x34F)

def traitsOf (p : Utf8.Piece) : Traits := (p.char.map traits).getD {}

/-- Gathers the pieces that belong to a segment; `run` counts the marks so far. Gives the segment,
the pieces left, and the count for the next segment. -/
def gather (run : Nat) (segment : List Part) : List Utf8.Piece → List Part × List Utf8.Piece × Nat
  | [] => (segment, [], run)
  | p :: ps =>
    let t := traitsOf p
    if longestMarkRun < run + t.before then (graphemeJoiner :: segment, p :: ps, 0)
    else if t.before = 0 then (segment, p :: ps, t.behind)
    else gather (run + t.before) (insertPiece segment p) ps

theorem gather_length (run : Nat) (segment : List Part) (ps : List Utf8.Piece) :
    (gather run segment ps).2.1.length ≤ ps.length := by
  induction ps generalizing run segment with
  | nil => simp [gather]
  | cons p ps ih =>
    simp only [gather]
    split
    · exact Nat.le_refl _
    · split
      · exact Nat.le_refl _
      · exact Nat.le_trans (ih ..) (Nat.le_succ _)

/-- The marks counted once a segment has its first piece. -/
def firstRun (run : Nat) (t : Traits) : Nat :=
  if t.before = 0 then t.behind
  else if longestMarkRun < run + t.before then t.before else run + t.before

/-- The pieces of the segments that are done, and those from the open segment on. -/
def backTo (done segment rest : List Utf8.Piece) : List Utf8.Piece × List Utf8.Piece :=
  (done.reverse, segment.reverse ++ rest)

/-- Passes segments that are composed already. `done` holds those, `segment` the pieces of the
segment being looked at, both reversed; `level` is the class of the last piece and `run` counts
marks. Gives the pieces passed and the rest. -/
def passSettled (done segment : List Utf8.Piece) (level run : Nat) :
    List Utf8.Piece → List Utf8.Piece × List Utf8.Piece
  | [] => ((segment ++ done).reverse, [])
  | p :: ps =>
    let t := traitsOf p
    if longestMarkRun < run + t.before then backTo done segment (p :: ps)
    else if t.before = 0 then
      if t.settled then passSettled (segment ++ done) [p] t.lead t.behind ps
      else ((segment ++ done).reverse, p :: ps)
    else if t.lead < level || !t.settled then backTo done segment (p :: ps)
    else passSettled done (p :: segment) t.lead (run + t.before) ps

theorem passSettled_length (done segment : List Utf8.Piece) (level run : Nat)
    (ps : List Utf8.Piece) :
    (passSettled done segment level run ps).2.length ≤ segment.length + ps.length := by
  induction ps generalizing done segment level run with
  | nil => simp [passSettled]
  | cons p ps ih =>
    simp only [passSettled]
    split
    · simp [backTo]
    · split
      · split
        · refine Nat.le_trans (ih ..) ?_
          simp only [List.length_cons, List.length_nil]
          omega
        · simp
      · split
        · simp [backTo]
        · refine Nat.le_trans (ih ..) ?_
          simp only [List.length_cons]
          omega

/-- Composes pieces, segment after segment, behind the reversed `acc`; `run` counts marks. -/
def composePieces (acc : List Bytes) (run : Nat) : List Utf8.Piece → List Bytes
  | [] => acc.reverse
  | p :: ps =>
    let gathered := gather (firstRun run (traitsOf p)) (insertPiece [] p) ps
    let passed := passSettled [] [] 0 0 gathered.2.1
    composePieces (passed.1.flatMap Utf8.Piece.octets :: joinSegment gathered.1 :: acc)
      gathered.2.2 passed.2
termination_by ps => ps.length
decreasing_by
  have h :=
    passSettled_length [] [] 0 0 (gather (firstRun run (traitsOf p)) (insertPiece [] p) ps).2.1
  have h' := gather_length (firstRun run (traitsOf p)) (insertPiece [] p) ps
  simp only [List.length_nil, Nat.zero_add] at h
  simp only [List.length_cons]
  omega

/-- The canonically composed form of a byte string. ASCII text is composed already. -/
def compose (s : Bytes) : Bytes :=
  if s.all (· < 0x80) then s
  else
    let (ps, unfinished) := Utf8.pieces s
    let (settled, rest) := passSettled [] [] 0 0 ps
    (composePieces [settled.flatMap Utf8.Piece.octets] 0 rest).flatten ++ unfinished

end FrontEnd.Unicode
