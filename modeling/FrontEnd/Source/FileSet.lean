import Std.Data.HashMap
import FrontEnd.Disk
import FrontEnd.Source.Normal

/-!
Sets of source files. A file added gets the next free number as its id and keeps it; adding a
path again makes a new version and leaves the old one alone. The index knows the latest version
of each clean path.
-/

namespace FrontEnd

structure FileSet where
  files : Array File := #[]
  latest : Std.HashMap Bytes FileId := {}
  /-- The directory that relative paths are shown from; empty for the current one. -/
  baseDir : Bytes := []

/-- Why a file could not be loaded. -/
inductive LoadError where
  | missing (path : Bytes) (cause : Disk.Error)
  | refused (path : Bytes) (cause : Disk.Error)
  | directory (path : Bytes)
  | unreadable (path : Bytes) (cause : Disk.Error)
  | unstorable (cause : SourceError)
  deriving DecidableEq, Repr

/-- A failure that nothing is told of, because the program breaks off. -/
def LoadError.isFatal : LoadError → Bool
  | .unstorable _ => true
  | .unreadable _ cause => cause.fault = .noMemory
  | .missing .. | .refused .. | .directory _ => false

def LoadError.message : LoadError → Bytes
  | .missing path cause => "the path '" ++ path ++ "' is not a file or directory: " ++ cause.message
  | .refused path cause => "stat " ++ path ++ ": " ++ cause.message
  | .directory path => "the path '" ++ path ++ "' is a directory: path is a directory"
  | .unreadable path cause => "read " ++ path ++ ": " ++ cause.message
  | .unstorable cause => cause.message

namespace FileSet

def size (fs : FileSet) : Nat := fs.files.size

/-- Where relative paths are shown from. -/
def shownFrom (fs : FileSet) (cwd : Bytes) : Bytes := if fs.baseDir = [] then cwd else fs.baseDir

/-- Adds a file with the content as it is. -/
def add (fs : FileSet) (path content : Bytes) (flags : FileFlags) :
    Except SourceError (FileSet × FileId) :=
  if fs.files.size ≥ 0x100000000 then .error .tooManyFiles
  else if fits : FitsOffsets content then
    let id := fs.files.size.toUInt32
    let file := File.make id path content flags fits
    .ok ({ fs with files := fs.files.push file, latest := fs.latest.insert file.path id }, id)
  else .error (.tooLarge path)

/-- Adds a file that exists in memory only. -/
def addVirtual (fs : FileSet) (path content : Bytes) : Except SourceError (FileSet × FileId) :=
  fs.add path content FileFlags.virtual

/-- A set of files in memory, as far as they can be added. -/
def ofTexts (baseDir : Bytes) (texts : List (Bytes × Bytes)) : FileSet :=
  texts.foldl (fun fs (path, content) => match fs.addVirtual path content with
    | .ok (fs, _) => fs
    | .error _ => fs) { baseDir }

/-- Reads a file from disk and adds it in normal form. -/
def load (fs : FileSet) (disk : Disk) (path : Bytes) : Except LoadError (FileSet × FileId) :=
  match disk.stat path with
  | .error e => .error (if e.fault = .notExist then .missing path e else .refused path e)
  | .ok (.dir _) => .error (.directory path)
  | .ok _ => match disk.read path with
    | .error e => .error (.unreadable path e)
    | .ok raw =>
      let (content, flags) := normalize raw
      (fs.add path content flags).mapError .unstorable

def get (fs : FileSet) (id : FileId) : Except SourceError File :=
  match fs.files[id.toNat]? with
  | some f => .ok f
  | none => .error (.invalidFile id)

/-- The latest file with the given path, however it is spelled. -/
def getLatest? (fs : FileSet) (path : Bytes) : Option FileId := fs.latest[Path.clean path]?

/-- The positions of both ends of a span. -/
def resolve (fs : FileSet) (s : Span) : Except SourceError (Position × Position) :=
  (fs.get s.file).map fun f => (f.locate s.start, f.locate s.stop)

end FileSet

/-- What is done to a set of files in place. A failure does not undo what was done before it. -/
abbrev Filing := EStateM LoadError FileSet

namespace Filing

/-- Stores a file and then makes it the latest one of its path. -/
def add (path content : Bytes) (flags : FileFlags) : Filing FileId := do
  let count := (← get).files.size
  if count ≥ 0x100000000 then throw (.unstorable .tooManyFiles)
  if fits : FitsOffsets content then
    let file := File.make count.toUInt32 path content flags fits
    modify fun fs => { fs with files := fs.files.push file }
    modify fun fs => { fs with latest := fs.latest.insert file.path file.id }
    return file.id
  else throw (.unstorable (.tooLarge path))

def addVirtual (path content : Bytes) : Filing FileId := add path content FileFlags.virtual

def load (disk : Disk) (path : Bytes) : Filing FileId :=
  match disk.stat path with
  | .error e => throw (if e.fault = .notExist then .missing path e else .refused path e)
  | .ok (.dir _) => throw (.directory path)
  | .ok _ => match disk.read path with
    | .error e => throw (.unreadable path e)
    | .ok raw => add path (normalize raw).1 (normalize raw).2

end Filing

end FrontEnd
