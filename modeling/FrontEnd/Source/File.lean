import FrontEnd.Digest.Sha256
import FrontEnd.Path
import FrontEnd.Source.Span

/-!
Source files. A file keeps its content, the offsets of its line ends (a line feed, or a carriage
return on its own) and the digest of the content. Positions and lines are counted from one and
follow from the line ends; a column counts octets.
-/

namespace FrontEnd

/-- How a file came to be, one bit per fact. -/
abbrev FileFlags := UInt8

namespace FileFlags

def virtual : FileFlags := 1
def hadMark : FileFlags := 2
def normalizedLineEnds : FileFlags := 4
def composed : FileFlags := 8

end FileFlags

inductive SourceError where
  | invalidFile (id : FileId)
  | offsetOutside (off : UInt32) (path : Bytes) (size : Nat)
  | reversed
  | negativeCount
  | tooManyFiles
  | tooLarge (path : Bytes)
  deriving DecidableEq, Repr

def SourceError.message : SourceError → Bytes
  | .invalidFile id => "source: invalid FileID " ++ Bytes.decimal id.toNat
  | .offsetOutside off path size =>
    "source: offset " ++ Bytes.decimal off.toNat ++ " is not contained within " ++ path
      ++ " (len " ++ Bytes.decimal size ++ ")"
  | .reversed => "slice bounds out of range"
  | .negativeCount => "strings: negative Repeat count"
  | .tooManyFiles => "len files overflow: out of range"
  | .tooLarge path => "file " ++ path ++ " too large: out of range"

def isLineEnd (b : UInt8) : Bool := b == 10 || b == 13

/-- Offsets of the line ends of a content that starts at offset `i`. -/
def lineEndsFrom (i : UInt32) : Bytes → List UInt32
  | [] => []
  | b :: r => if isLineEnd b then i :: lineEndsFrom (i + 1) r else lineEndsFrom (i + 1) r

/-- How many of the increasing `ends` stand before `off`, known to be from `lo` to `hi`: the one in
the middle tells which half it is in. -/
def placeAmong (ends : Array UInt32) (off : UInt32) (lo hi : Nat) (hlo : lo ≤ hi)
    (hhi : hi ≤ ends.size) : { n : Nat // n ≤ ends.size } :=
  if h : lo < hi then
    let mid := (lo + hi) / 2
    if ends[mid] < off then placeAmong ends off (mid + 1) hi (by omega) hhi
    else placeAmong ends off lo mid (by omega) (by omega)
  else ⟨lo, by omega⟩
termination_by hi - lo

/-- Where a line starts that has so many of the `ends` before it: behind the last of them. -/
def startBehind (ends : Array UInt32) : { n : Nat // n ≤ ends.size } → UInt32
  | ⟨0, _⟩ => 0
  | ⟨k + 1, _⟩ => ends[k] + 1

/-- The octet that closes every buffer. -/
def sentinel : UInt8 := 0

/-- A content whose offsets, that of the closing octet included, are words. -/
def FitsOffsets (content : Bytes) : Prop := content.length + 1 < 0x100000000

instance (content : Bytes) : Decidable (FitsOffsets content) :=
  inferInstanceAs (Decidable (_ < _))

structure File where
  id : FileId
  path : Bytes
  content : Bytes
  lineEnds : List UInt32
  digest : Bytes
  flags : FileFlags
  fits : FitsOffsets content
  indexed : lineEnds = lineEndsFrom 0 content

/-- A line and a column, both counted from one. -/
structure Position where
  line : UInt32
  col : UInt32
  deriving DecidableEq, Repr, Inhabited

/-- How a file's path is shown. -/
inductive PathStyle where
  | absolute
  | relative
  | baseName
  /-- The base name of a long absolute path, else the path itself. -/
  | auto
  | plain
  deriving DecidableEq, Repr

def PathStyle.ofName (s : Bytes) : PathStyle :=
  if s = "absolute" then .absolute
  else if s = "relative" then .relative
  else if s = "basename" then .baseName
  else if s = "auto" then .auto
  else .plain

namespace File

/-- The file of a content: what the other fields hold follows from it. -/
def make (id : FileId) (path content : Bytes) (flags : FileFlags) (fits : FitsOffsets content) :
    File where
  id := id
  path := Path.clean path
  content := content
  lineEnds := lineEndsFrom 0 content
  digest := Sha256.digest content
  flags := flags
  fits := fits
  indexed := rfl

/-- The content followed by the sentinel. -/
def buffer (f : File) : Bytes := f.content ++ [sentinel]

def size (f : File) : UInt32 := f.content.length.toUInt32

/-- Accepts the offsets of the content and the one behind it. -/
def checkOffset (f : File) (off : UInt32) : Except SourceError Unit :=
  if off > f.size then .error (.offsetOutside off f.path f.content.length) else .ok ()

/-- The content from one offset up to another. -/
def cut (f : File) (start stop : Nat) : Bytes := (f.content.drop start).take (stop - start)

/-- The text that a span covers. -/
def slice (f : File) (s : Span) : Except SourceError Bytes :=
  match f.checkOffset s.start, f.checkOffset s.stop with
  | .error e, _ => .error e
  | .ok _, .error e => .error e
  | .ok _, .ok _ =>
    if s.start ≤ s.stop then .ok (f.cut s.start.toNat s.stop.toNat) else .error .reversed

/-- The position of an offset: the line ends before it tell the line, the last of them where the
line starts. Past the content the column goes on, modulo the size of a word. -/
def locate (f : File) (off : UInt32) : Position :=
  let ends := f.lineEnds.toArray
  let passed := placeAmong ends off 0 ends.size (Nat.zero_le _) (Nat.le_refl _)
  ⟨(passed.val + 1).toUInt32, off - startBehind ends passed + 1⟩

/-- The position of an offset of the content or of the one behind it. -/
def positionOf (f : File) (off : UInt32) : Except SourceError Position :=
  (f.checkOffset off).map fun _ => f.locate off

/-- Where a line starts, by its number; nothing when there is no such line. -/
def lineStart? (f : File) (number : UInt32) : Option UInt32 :=
  if number = 0 then none
  else if number = 1 then some 0
  else f.lineEnds[(number - 2).toNat]?.map (· + 1)

/-- Where a line starts and where it ends. -/
def lineRange? (f : File) (number : UInt32) : Option (UInt32 × UInt32) :=
  (f.lineStart? number).bind fun start =>
    if start > f.size then none
    else some (start, min (f.lineEnds[(number - 1).toNat]?.getD f.size) f.size)

/-- A line by its number, without its end; empty when there is no such line. -/
def line (f : File) (number : UInt32) : Bytes :=
  match f.lineRange? number with
  | none => []
  | some (start, stop) => f.cut start.toNat stop.toNat

/-- The line that an offset is on. -/
def lineContaining (f : File) (off : UInt32) : Except SourceError Bytes :=
  (f.checkOffset off).map fun _ => f.line (f.locate off).line

/-- From this many octets on an absolute path is long. -/
def longPath : Nat := 40

/-- The path as shown in a style, seen from the directory `dir` when the style is relative. -/
def showPath (f : File) (style : PathStyle) (cwd dir : Bytes) : Bytes :=
  match style with
  | .absolute => Path.absolute cwd f.path
  | .relative => Path.relative cwd f.path dir
  | .baseName => Path.base f.path
  | .auto => if f.path.length < longPath ∨ !Path.isAbsolute f.path then f.path else Path.base f.path
  | .plain => f.path

end File

end FrontEnd
