import FrontEnd.Encoding.Json
import FrontEnd.Text.Quoted
import FrontEnd.Trace.Stamp
import FrontEnd.Unicode.Lower

/-!
Events of a trace. An event has a scope, coarse to fine, and a level admits all scopes down to a
floor. Numbers outside the named ranges can occur in events and settings, so scopes, levels and
kinds are numbers with names.
-/

namespace FrontEnd.Trace

structure EventKind where
  code : UInt8
  deriving DecidableEq, Repr

namespace EventKind

def beginSpan : EventKind := ⟨1⟩
def endSpan : EventKind := ⟨2⟩
def point : EventKind := ⟨3⟩

def name (k : EventKind) : Bytes :=
  if k = beginSpan then "begin"
  else if k = endSpan then "end"
  else if k = point then "point"
  else "unknown"

/-- The mark in front of an event's name. -/
def mark (k : EventKind) : Bytes :=
  if k = beginSpan then "→ "
  else if k = endSpan then "← "
  else if k = point then "• "
  else []

end EventKind

/-- A lower rank is coarser. -/
structure Scope where
  rank : UInt8
  deriving DecidableEq, Repr

namespace Scope

/-- A whole command. -/
def driver : Scope := ⟨1⟩
/-- A step of the work on one file. -/
def pass : Scope := ⟨2⟩
def file : Scope := ⟨3⟩
def token : Scope := ⟨4⟩

def name (s : Scope) : Bytes :=
  if s = driver then "driver"
  else if s = pass then "pass"
  else if s = file then "file"
  else if s = token then "token"
  else "unknown"

end Scope

structure Level where
  rank : UInt8
  deriving DecidableEq, Repr

namespace Level

def off : Level := ⟨0⟩
def error : Level := ⟨1⟩
def phase : Level := ⟨2⟩
def detail : Level := ⟨3⟩
def debug : Level := ⟨4⟩

def names : List Bytes := ["off", "error", "phase", "detail", "debug"]

def name (l : Level) : Bytes := (names[l.rank.toNat]?).getD "unknown"

def isOn (l : Level) : Bool := 0 < l.rank

/-- The finest scope a level admits; the first two admit none, and so does a level without a
name. -/
def floor (l : Level) : UInt8 :=
  if l = phase then Scope.pass.rank
  else if l = detail then Scope.file.rank
  else if l = debug then Scope.token.rank
  else 0

def admits (l : Level) (s : Scope) : Bool := s.rank ≠ 0 && s.rank ≤ l.floor

end Level

inductive Format where
  | text | ndjson
  deriving DecidableEq, Repr

/-- Where events go: at once to an output, into memory, or both. -/
structure Storage where
  bits : UInt8
  deriving DecidableEq, Repr

namespace Storage

def stream : Storage := ⟨1⟩
def ring : Storage := ⟨2⟩
def both : Storage := ⟨3⟩

def name (s : Storage) : Bytes :=
  if s = stream then "stream"
  else if s = ring then "ring"
  else if s = both then "both"
  else "unknown"

end Storage

/-- A setting that names no level, format or storage. -/
inductive SettingError where
  | level (given : Bytes)
  | format (given : Bytes)
  | storage (given : Bytes)
  deriving DecidableEq, Repr

def SettingError.message : SettingError → Bytes
  | .level s => Bytes.ofString "invalid trace level: " ++ Quoted.quote s
      ++ " (expected: off|error|phase|detail|debug)"
  | .format s => Bytes.ofString "invalid trace format: " ++ Quoted.quote s
      ++ " (expected: text|ndjson)"
  | .storage s => Bytes.ofString "invalid storage mode: " ++ Quoted.quote s
      ++ " (expected: stream|ring|both)"

def Level.ofSetting (s : Bytes) : Except SettingError Level :=
  match Level.names.idxOf? s.lowerText with
  | some i => .ok ⟨i.toUInt8⟩
  | none => .error (.level s)

def Format.ofSetting (s : Bytes) : Except SettingError Format :=
  let w := s.lowerText
  if w = [] ∨ w = "text" then .ok .text
  else if w = "ndjson" ∨ w = "json" then .ok .ndjson
  else .error (.format s)

def Storage.ofSetting (s : Bytes) : Except SettingError Storage :=
  let w := s.lowerText
  if w = "stream" then .ok .stream
  else if w = "ring" then .ok .ring
  else if w = "both" then .ok .both
  else .error (.storage s)

structure Event where
  time : Int := 0
  seq : UInt64 := 0
  kind : EventKind
  scope : Scope
  span : UInt64 := 0
  /-- Zero for a span under no other. -/
  parent : UInt64 := 0
  name : Bytes := []
  detail : Bytes := []
  /-- The length of a span, in nanoseconds, when it ends. -/
  elapsed : Int := 0
  notes : List (Bytes × Bytes) := []
  /-- The span whose notes it shows in place of its own, as they stand when it is looked at. -/
  notesOf : Option UInt64 := none
  deriving DecidableEq, Repr

/-- Nanoseconds as milliseconds, by way of seconds. -/
def milliseconds (ns : Int) : Float :=
  (Float.ofInt (ns.tdiv 1000000000) + Float.ofInt (ns.tmod 1000000000) / 1000000000.0) * 1000.0

namespace Event

def sortedNotes (e : Event) : List (Bytes × Bytes) :=
  e.notes.mergeSort fun a b => Bytes.compare a.1 b.1 != .gt

/-- A part of a line that is left out unless it has a reason. -/
def part (reason : Bool) (s : Bytes) : Bytes := if reason then s else []

def textLine (e : Event) : Bytes :=
  let time := FloatText.writeFixed 2 (milliseconds e.elapsed)
  let notes := Bytes.join ", " (e.sortedNotes.map fun (k, v) => k ++ "=" ++ v)
  Bytes.ofString "#" ++ Bytes.decimal e.seq.toNat ++ " [" ++ e.scope.name ++ "] "
    ++ part (0 < e.parent) "  " ++ e.kind.mark ++ e.name
    ++ part (!e.detail.isEmpty) (Bytes.ofString " (" ++ e.detail ++ ")")
    ++ part (e.kind = .endSpan) (Bytes.ofString " " ++ time ++ "ms")
    ++ part (!e.notes.isEmpty) (Bytes.ofString " \x7b" ++ notes ++ "\x7d")
    ++ "\n"

def toJson (e : Event) : Json :=
  let elapsed := milliseconds e.elapsed
  .obj (Json.field "time" (.str (stampText e.time))
    ++ Json.field "seq" (.nat e.seq.toNat)
    ++ Json.field "kind" (.str e.kind.name)
    ++ Json.field "scope" (.str e.scope.name)
    ++ Json.field "span_id" (.nat e.span.toNat)
    ++ Json.natField? "parent_id" e.parent.toNat
    ++ Json.field "name" (.str e.name)
    ++ Json.textField? "detail" e.detail
    ++ (if elapsed == 0 then [] else Json.field "elapsed_ms" (.float elapsed))
    ++ (if e.notes.isEmpty then [] else
        Json.field "extra" (.obj (e.sortedNotes.map fun (k, v) => (k, .str v)))))

/-- The line that stands for an event in an output. -/
def line (f : Format) (e : Event) : Bytes :=
  match f with
  | .text => e.textLine
  | .ndjson => e.toJson.compact ++ "\n"

end Event

end FrontEnd.Trace
