import FrontEnd.Disk
import FrontEnd.Table
import FrontEnd.Text.Transcript
import FrontEnd.Trace.Ring

/-!
The hub is where events go: it counts events and spans, and holds the rings and the outputs that
tracers name. Events are stamped with the hub's clock, which is moved from outside.
-/

namespace FrontEnd.Trace

/-- A file being written. Text waits until a whole block of it can be written or until it is
flushed. -/
structure OpenFile where
  path : Bytes
  waiting : Bytes := []
  /-- How many octets were written; the next go behind them, whatever else became of the file. -/
  place : Nat := 0
  isOpen : Bool := true
  /-- Why writing failed first; it is reported from then on. -/
  failure : Option Disk.Error := none
  deriving Repr

inductive Output where
  | memory (written : Transcript)
  /-- An output that takes nothing. -/
  | broken
  /-- The hub's console. -/
  | console
  | file (f : OpenFile)
  deriving Repr

structure Stream where
  level : Level
  format : Format
  output : Output
  deriving Repr

/-- A place where events are kept or written, in the hub. -/
inductive Sink where
  | ring (place : Nat)
  | stream (place : Nat)
  deriving DecidableEq, Repr

inductive Tracer where
  /-- Takes no event. -/
  | nop
  | single (s : Sink)
  /-- Hands every event to all sinks. -/
  | multi (level : Level) (sinks : List Sink)
  deriving DecidableEq, Repr

structure Hub where
  disk : Disk
  console : Transcript := {}
  time : Int := 0
  seq : UInt64 := 0
  span : UInt64 := 0
  rings : Array Ring := #[]
  streams : Array Stream := #[]
  /-- The notes of the spans that have any. -/
  notes : Table UInt64 (Table Bytes Bytes) := {}

namespace OpenFile

def blockSize : Nat := 4096

/-- Takes text; the first part is what is to be written to the file at once. -/
def take (f : OpenFile) (s : Bytes) : Bytes × OpenFile :=
  let room := blockSize - f.waiting.length
  if f.failure.isSome then ([], f)
  else if s.length ≤ room then ([], { f with waiting := f.waiting ++ s })
  else if f.waiting.isEmpty then (s, f)
  else
    let rest := s.drop room
    if blockSize < rest.length then (f.waiting ++ s, { f with waiting := [] })
    else (f.waiting ++ s.take room, { f with waiting := rest })

end OpenFile

namespace Sink

def level (h : Hub) : Sink → Level
  | .ring i => (h.rings[i]?.map Ring.level).getD .off
  | .stream i => (h.streams[i]?.map Stream.level).getD .off

end Sink

namespace Tracer

def level (h : Hub) : Tracer → Level
  | .nop => .off
  | .single s => s.level h
  | .multi l _ => l

/-- What sort of tracer it is. -/
def sort : Tracer → Bytes
  | .nop => "nop"
  | .single (.ring _) => "ring"
  | .single (.stream _) => "stream"
  | .multi .. => "multi"

def sinks : Tracer → List Sink
  | .nop => []
  | .single s => [s]
  | .multi _ ss => ss

def isEnabled (h : Hub) : Tracer → Bool
  | .nop => false
  | .single s => (s.level h).isOn
  | .multi l ss => l.isOn && !ss.isEmpty

def admits (h : Hub) (t : Tracer) (s : Scope) : Bool := t.isEnabled h && (t.level h).admits s

/-- Several tracers as one; those that are not enabled are left out. -/
def combine (h : Hub) (level : Level) (ts : List Tracer) : Tracer :=
  .multi level ((ts.filter (·.isEnabled h)).flatMap sinks)

/-- The ring a tracer keeps events in. -/
def ring? (h : Hub) (t : Tracer) : Option Ring :=
  t.sinks.findSome? fun
    | .ring i => h.rings[i]?
    | .stream _ => none

end Tracer

namespace Hub

def addRing (h : Hub) (r : Ring) : Tracer × Hub :=
  (.single (.ring h.rings.size), { h with rings := h.rings.push r })

def addStream (h : Hub) (s : Stream) : Tracer × Hub :=
  (.single (.stream h.streams.size), { h with streams := h.streams.push s })

def nextSeq (h : Hub) : UInt64 × Hub := (h.seq + 1, { h with seq := h.seq + 1 })

def nextSpan (h : Hub) : UInt64 × Hub := (h.span + 1, { h with span := h.span + 1 })

def notesOf (h : Hub) (span : UInt64) : List (Bytes × Bytes) :=
  ((h.notes.get? span).map Table.entries).getD []

/-- An event with the notes it shows at present. -/
def shown (h : Hub) (e : Event) : Event :=
  match e.notesOf with
  | some span => { e with notes := h.notesOf span }
  | none => e

/-- A content with some of it overwritten from a place on; zeros lead up to a place behind it. -/
def overwrite (content : Bytes) (place : Nat) (s : Bytes) : Bytes :=
  content.take place ++ List.replicate (place - content.length) 0 ++ s
    ++ content.drop (place + s.length)

/-- Writes to a file at a place, if it is still there. A device has no places. -/
def writeAt (d : Disk) (path : Bytes) (place : Nat) (s : Bytes) : Except Disk.Error Disk :=
  match d.get path with
  | .ok (.file old) => d.writeFile path (overwrite old place s)
  | .ok (.device _) => d.writeFile path s
  | .ok (.dir _) | .error _ => .ok d

/-- Text that cannot be written is lost, and the file fails. -/
def writeFile (h : Hub) (f : OpenFile) (s : Bytes) : OpenFile × Hub :=
  if s.isEmpty then (f, h)
  else if !f.isOpen then ({ f with failure := some ⟨"write", f.path, .closed⟩ }, h)
  else match writeAt h.disk f.path f.place s with
    | .ok disk => ({ f with place := f.place + s.length }, { h with disk })
    | .error e => ({ f with failure := some e }, h)

/-- Writes to an output; failures are not reported here. -/
def write (h : Hub) (o : Output) (s : Bytes) : Output × Hub :=
  match o with
  | .memory w => (.memory (w.write s), h)
  | .broken => (.broken, h)
  | .console => (.console, { h with console := h.console.write s })
  | .file f =>
    let (now, f) := f.take s
    let (f, h) := h.writeFile f now
    (.file f, h)

def setOutput (h : Hub) (i : Nat) (o : Output) : Hub :=
  { h with streams := h.streams.modify i ({ · with output := o }) }

/-- Gives an event to one sink, which numbers it if it admits it. -/
def give (h : Hub) (e : Event) (s : Sink) : Event × Hub :=
  if (s.level h).admits e.scope then
    let (seq, h) := h.nextSeq
    let e := { e with seq }
    match s with
    | .ring i => (e, { h with rings := h.rings.modify i (·.push e) })
    | .stream i => match h.streams[i]? with
      | none => (e, h)
      | some st =>
        let (o, h) := h.write st.output ((h.shown e).line st.format)
        (e, h.setOutput i o)
  else (e, h)

/-- Gives an event to all sinks of a tracer. -/
def emit (h : Hub) (t : Tracer) (e : Event) : Hub :=
  t.sinks.foldl (fun h s => (h.give e s).2) h

/-- Gives an event to a tracer and tells how its sender sees it afterwards: only a stream on its own
numbers the sender's event, others number copies of it. -/
def post (h : Hub) (t : Tracer) (e : Event) : Event × Hub :=
  match t with
  | .single (.stream i) => h.give e (.stream i)
  | t => (e, h.emit t e)

inductive FlushError where
  | broken
  | refused (e : Disk.Error)
  deriving DecidableEq, Repr

def FlushError.message : FlushError → Bytes
  | .broken => "flush failed"
  | .refused e => e.message

def flushSink (h : Hub) : Sink → Option FlushError × Hub
  | .ring _ => (none, h)
  | .stream i => match h.streams[i]?.map Stream.output with
    | some .broken => (some .broken, h)
    | some (.file f) =>
      match f.failure with
      | some e => (some (.refused e), h)
      | none =>
        let (f, h) := h.writeFile f f.waiting
        let h := h.setOutput i (.file { f with waiting := [] })
        (f.failure.map .refused, h)
    | _ => (none, h)

/-- Flushes, then closes a file that the hub opened. -/
def closeSink (h : Hub) (s : Sink) : Option FlushError × Hub :=
  match h.flushSink s with
  | (some e, h) => (some e, h)
  | (none, h) => match s with
    | .ring _ => (none, h)
    | .stream i => match h.streams[i]?.map Stream.output with
      | some (.file f) =>
        if f.isOpen then (none, h.setOutput i (.file { f with isOpen := false }))
        else (some (.refused ⟨"close", f.path, .closed⟩), h)
      | _ => (none, h)

/-- Goes through all sinks, whatever fails, and lists the failures. -/
def eachSink (h : Hub) (t : Tracer) (f : Hub → Sink → Option FlushError × Hub) :
    List FlushError × Hub :=
  t.sinks.foldl (fun (es, h) s => let (e, h) := f h s; (es ++ e.toList, h)) ([], h)

def flush (h : Hub) (t : Tracer) : List FlushError × Hub := h.eachSink t flushSink

def close (h : Hub) (t : Tracer) : List FlushError × Hub := h.eachSink t closeSink

/-- The events a tracer's ring keeps, oldest first. -/
def kept? (h : Hub) (t : Tracer) : Option (List Event) :=
  (t.ring? h).map fun r => r.events.map h.shown

/-- The lines of the events a tracer's ring keeps. -/
def dump (h : Hub) (t : Tracer) (f : Format) : Bytes :=
  ((h.kept? t).getD []).flatMap (Event.line f)

/-- What a tracer wrote to memory. -/
def written (h : Hub) (t : Tracer) : Bytes :=
  (t.sinks.findSome? fun
    | .ring _ => none
    | .stream i => match h.streams[i]?.map Stream.output with
      | some (.memory w) => some w.text
      | _ => none).getD []

/-- What a tracer is to be like. -/
structure Settings where
  level : Level
  /-- Zero stands for a stream. -/
  storage : Storage := ⟨0⟩
  format : Format := .text
  /-- Empty or a dash stands for the console. -/
  path : Bytes := []
  ringSize : Int := 0
  /-- Whether the stream is to be kept in memory instead. -/
  inMemory : Bool := false
  deriving Repr

inductive OpenError where
  | unknownStorage (s : Storage)
  | cannotOpen (e : Disk.Error)
  | ringTooLarge
  deriving DecidableEq, Repr

def OpenError.message : OpenError → Bytes
  | .unknownStorage s => Bytes.ofString "unknown storage mode: " ++ Bytes.decimal s.bits.toNat
  | .cannotOpen e => Bytes.ofString "failed to open trace output: " ++ e.message
  | .ringTooLarge => "ring too large"

/-- A ring of a size; the default size stands for one below one. -/
def openRing (h : Hub) (size : Int) (level : Level) : Except OpenError (Tracer × Hub) :=
  if Ring.maxCapacity < size then .error .ringTooLarge else .ok (h.addRing (.new size level))

/-- The stream that settings ask for; a file is created empty. -/
def openStream (h : Hub) (s : Settings) : Except OpenError (Tracer × Hub) :=
  let format := if s.path.endsWith ".ndjson" then .ndjson else s.format
  let add (o : Output) (h : Hub) := h.addStream ⟨s.level, format, o⟩
  if s.inMemory then .ok (add (.memory {}) h)
  else if s.path = [] ∨ s.path = "-" then .ok (add .console h)
  else match h.disk.writeFile s.path [] with
    | .error e => .error (.cannotOpen e)
    | .ok disk => .ok (add (.file { path := s.path }) { h with disk })

/-- The tracer that settings ask for. -/
def openTracer (h : Hub) (s : Settings) : Except OpenError (Tracer × Hub) :=
  if s.level = .off then .ok (.nop, h)
  else
    let storage := if s.storage = ⟨0⟩ then .stream else s.storage
    if storage = .stream then h.openStream s
    else if storage = .ring then h.openRing s.ringSize s.level
    else if storage = .both then do
      let (stream, h) ← h.openStream s
      let (ring, h) ← h.openRing s.ringSize s.level
      return (Tracer.combine h s.level [stream, ring], h)
    else .error (.unknownStorage storage)

end Hub

end FrontEnd.Trace
