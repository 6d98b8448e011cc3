import FrontEnd.Disk
import FrontEnd.Encoding.Toml.Reader
import FrontEnd.Text.Quoted

/-!
The configuration file: a TOML document that is looked for in the directory of the input and then
in every directory above. All keys are optional, and none but the known ones may be there.
-/

namespace FrontEnd.Command

/-- What a configuration file says; what it leaves out is zero, empty or off. -/
structure Config where
  maxDiagnostics : Int := 0
  color : Bytes := []
  paths : Bytes := []
  traceLevel : Bytes := []
  traceMode : Bytes := []
  traceOutput : Bytes := []
  cache : Bool := false
  cacheDir : Bytes := []
  deriving DecidableEq, Repr

inductive ConfigError where
  | unreachable (path : Bytes) (cause : Disk.Error)
  | malformed (path : Bytes)
  | unknownKeys (path : Bytes) (keys : List Toml.Key)
  deriving DecidableEq, Repr

def ConfigError.message : ConfigError → Bytes
  | .unreachable path cause =>
    Bytes.ofString "failed to stat " ++ Quoted.quote path ++ ": " ++ cause.message
  | .malformed path => path ++ ": failed to parse TOML: not a document of settings"
  | .unknownKeys path keys =>
    path ++ ": unknown keys: " ++ Bytes.join ", " (keys.map Toml.Key.spell)

namespace Config

def fileName : Bytes := "kaiju.toml"

/-- A name without regard to case, for names of ASCII letters: besides the capitals of ASCII two
characters are variants of such letters, the long s and the Kelvin sign. -/
def fold (name : Bytes) : Bytes :=
  (Utf8.items name).flatMap fun
    | .octet b => [b]
    | .char c => match c.toNat with
      | 0x17F => "s"
      | 0x212A => "k"
      | _ => (Utf8.encode c).lower

/-- What a key of a configuration file is for. -/
inductive Slot where
  | group
  | maxDiagnostics
  | color
  | paths
  | traceLevel
  | traceMode
  | traceOutput
  | cache
  | cacheDir
  deriving DecidableEq, Repr

/-- The known keys. -/
def slots : List (Toml.Key × Slot) := [
  (["diagnostics"], .group), (["trace"], .group), (["cache"], .group),
  (["diagnostics", "max"], .maxDiagnostics), (["diagnostics", "color"], .color),
  (["diagnostics", "paths"], .paths), (["trace", "level"], .traceLevel),
  (["trace", "mode"], .traceMode), (["trace", "output"], .traceOutput),
  (["cache", "enabled"], .cache), (["cache", "dir"], .cacheDir)]

def slot? (k : Toml.Key) : Option Slot := slots.lookup (k.map fold)

/-- Takes over one definition; nothing when its value is of the wrong kind. -/
def take? (c : Config) (definition : Toml.Key × Toml.Item) : Option Config :=
  match slot? definition.1, definition.2 with
  | none, _ => some c
  | some .group, .table => some c
  | some .maxDiagnostics, .value (.integer n) => some { c with maxDiagnostics := n }
  | some .color, .value (.text s) => some { c with color := s }
  | some .paths, .value (.text s) => some { c with paths := s }
  | some .traceLevel, .value (.text s) => some { c with traceLevel := s }
  | some .traceMode, .value (.text s) => some { c with traceMode := s }
  | some .traceOutput, .value (.text s) => some { c with traceOutput := s }
  | some .cache, .value (.boolean b) => some { c with cache := b }
  | some .cacheDir, .value (.text s) => some { c with cacheDir := s }
  | some _, _ => none

/-- The configuration that a document is. Unknown keys are told in the order they were written; a
key whose definition is gone is among them. -/
def ofDocument (path : Bytes) (d : Toml.Document) : Except ConfigError Config :=
  match d.items.entries.reverse.foldlM take? ({} : Config) with
  | none => .error (.malformed path)
  | some c => match d.keys.filter fun k => (slot? k).isNone || (d.items.get? k).isNone with
    | [] => .ok c
    | unknown => .error (.unknownKeys path unknown)

def load (d : Disk) (path : Bytes) : Except ConfigError Config :=
  match d.read path with
  | .error _ => .error (.malformed path)
  | .ok b => match Toml.read? b with
    | none => .error (.malformed path)
    | some doc => ofDocument path doc

/-- Where the search starts: at the directory of the input, or at the input if it is one. -/
def startDir (d : Disk) (input : Bytes) : Bytes :=
  if input = [] then Path.dot
  else match d.get input with
    | .ok (.dir _) => input
    | _ => Path.dir input

/-- Looks for the file in the directory with the given names, reversed, and in those above. -/
def findFrom (d : Disk) (names : List Bytes) : Except ConfigError (Option Bytes) :=
  let path := Path.join [Path.spell true names.reverse, fileName]
  match d.stat path with
  | .ok _ => .ok (some path)
  | .error e =>
    if e.fault ≠ .notExist then .error (.unreachable path e)
    else match names with
      | [] => .ok none
      | _ :: above => findFrom d above

/-- The configuration file for an input, if there is one. -/
def find (d : Disk) (input : Bytes) : Except ConfigError (Option Bytes) :=
  findFrom d (Path.elements (Path.absolute d.cwdPath (startDir d input))).reverse

end Config

end FrontEnd.Command
