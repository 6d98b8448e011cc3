import FrontEnd.Trace.Span

/-!
A timer keeps the phases of a piece of work, in the order they were begun, and shows each as a
span of its own.
-/

namespace FrontEnd.Trace

structure Phase where
  name : Bytes
  started : Int
  /-- In nanoseconds; zero until the phase ends. -/
  duration : Int := 0
  note : Bytes := []
  span : Option Span
  deriving Repr

structure Timer where
  context : Context := {}
  phases : Array Phase := #[]
  deriving Repr

namespace Timer

/-- Begins a phase and tells its number. -/
def begin (t : Timer) (h : Hub) (name : Bytes) : Nat × Timer × Hub :=
  let (span, h') := h.beginSpan t.context.tracer .pass name t.context.current
  (t.phases.size, { t with phases := t.phases.push { name, started := h.time, span } }, h')

/-- Ends the phase with the given number; other numbers are ignored. -/
def finish (t : Timer) (h : Hub) (i : Int) (note : Bytes) : Timer × Hub :=
  if i < 0 then (t, h)
  else match t.phases[i.toNat]? with
    | none => (t, h)
    | some p =>
      let p := { p with duration := h.time - p.started, note }
      ({ t with phases := t.phases.setIfInBounds i.toNat p }, (h.endSpan p.span note).2)

def phaseMillis (ns : Int) : Float := Float.ofInt ns / 1000000.0

/-- The duration of all phases, in 64 bits. -/
def total (t : Timer) : Int :=
  (t.phases.foldl (fun (d : Int) p => d + Phase.duration p) 0).bmod 0x10000000000000000

def totalMillis (t : Timer) : Float := phaseMillis t.total

/-- A column of a table: the name, then the time. -/
def row (name : Bytes) (ms : Float) : Bytes :=
  Bytes.ofString "  " ++ Utf8.padRight 20 name ++ " "
    ++ (FloatText.writeFixed 2 ms).padLeft 7 ++ " ms"

/-- All phases and the time they took together. -/
def summary (t : Timer) : Bytes :=
  let line (p : Phase) : Bytes :=
    row p.name (phaseMillis p.duration)
      ++ (if p.note.isEmpty then [] else Bytes.ofString "  // " ++ p.note) ++ "\n"
  Bytes.ofString "timings:\n" ++ t.phases.toList.flatMap line ++ row "total" t.totalMillis ++ "\n"

end Timer

end FrontEnd.Trace
