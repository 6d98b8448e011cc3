import FrontEnd.Trace.Hub

/-!
Spans of work, and the context in which work is done: the tracer in use and the span work is
under. A span that the tracer does not admit is idle: it has no number, shows in no trace and is
skipped when spans nest.
-/

namespace FrontEnd.Trace

structure Span where
  tracer : Tracer
  /-- The event that opened it. -/
  opening : Event
  deriving Repr

structure Context where
  tracer : Tracer := .nop
  /-- The innermost span that shows, or zero. -/
  current : UInt64 := 0
  deriving Repr

/-- The number of a span, zero for an idle one. -/
def Span.id (s : Option Span) : UInt64 := (s.map (·.opening.span)).getD 0

namespace Hub

/-- Opens a span; nothing is opened when the tracer does not admit the scope. -/
def beginSpan (h : Hub) (t : Tracer) (scope : Scope) (name : Bytes) (parent : UInt64) :
    Option Span × Hub :=
  if t.admits h scope then
    let (span, h) := h.nextSpan
    let opening : Event := { time := h.time, kind := .beginSpan, scope, span, parent, name }
    (some ⟨t, opening⟩, h.emit t opening)
  else (none, h)

/-- Ends a span, which tells how long it took. -/
def endSpan (h : Hub) (s : Option Span) (detail : Bytes) : Int × Hub :=
  match s with
  | none => (0, h)
  | some s =>
    let elapsed := h.time - s.opening.time
    let notesOf := if (h.notes.get? s.opening.span).isSome then some s.opening.span else none
    (elapsed, h.emit s.tracer
      { s.opening with kind := .endSpan, time := h.time, detail, elapsed, notesOf })

/-- Notes something on a span, to be shown when it ends. -/
def note (h : Hub) (s : Option Span) (key value : Bytes) : Hub :=
  match s with
  | none => h
  | some s =>
    let mine := (h.notes.get? s.opening.span).getD {}
    { h with notes := h.notes.insert s.opening.span (mine.insert key value) }

/-- A single event that is not a span. -/
def point (h : Hub) (t : Tracer) (scope : Scope) (name detail : Bytes) (parent : UInt64) : Hub :=
  if t.admits h scope then
    let (span, h) := h.nextSpan
    h.emit t { time := h.time, kind := .point, scope, span, parent, name, detail }
  else h

/-- Opens a span under the current one. In the context returned it is the current one, unless it
is idle. -/
def start (h : Hub) (s : Context) (scope : Scope) (name : Bytes) :
    (Context × Option Span) × Hub :=
  let (span, h) := h.beginSpan s.tracer scope name s.current
  ((if Span.id span = 0 then s else { s with current := Span.id span }, span), h)

end Hub

end FrontEnd.Trace
