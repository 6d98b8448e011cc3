import FrontEnd.Diagnostic.Bag

/-!
Reporting. A reporter is what happens to a sink when a diagnostic arrives. A builder has at most
one diagnostic in flight: it is created, notes are added, and flushing expands its message and
hands it to the reporter.
-/

namespace FrontEnd

/-- What a sink of type `σ` becomes with one more diagnostic. -/
abbrev Reporter (σ : Type) := σ → Diagnostic → σ

namespace Reporter

variable {σ : Type}

def discard : Reporter σ := fun s _ => s

def bag : Reporter Bag := fun b d => (b.add d).1

/-- Each of the reporters in turn. -/
def all (rs : List (Reporter σ)) : Reporter σ := fun s d => rs.foldl (fun s r => r s d) s

end Reporter

/-- The keys of the diagnostics that a filter has seen. -/
abbrev SeenKeys := Std.HashSet (Code × Bytes × Bytes)

namespace SeenKeys

/-- What makes two diagnostics repeat each other for a filter: code, spelled span and message. -/
def key (d : Diagnostic) : Code × Bytes × Bytes := (d.code, d.primary.render, d.message)

/-- Passes on the first diagnostic of each key only. -/
def filter {σ : Type} (next : Reporter σ) : Reporter (SeenKeys × σ) := fun (seen, s) d =>
  if seen.contains (key d) then (seen, s) else (seen.insert (key d), next s d)

end SeenKeys

inductive BuilderError where
  | stillInFlight (new pending : Code)
  | nothingInFlight
  | template (cause : Template.Error)
  deriving DecidableEq, Repr

def BuilderError.message : BuilderError → Bytes
  | .stillInFlight new pending =>
    "diag: " ++ new.id ++ " created while " ++ pending.id ++ " is still in flight"
  | .nothingInFlight => "diag: no diagnostic in flight"
  | .template cause => cause.message

structure Builder (σ : Type) where
  report : Reporter σ
  sink : σ
  /-- The diagnostic in flight, its message still open. -/
  pending : Option Diagnostic := none
  flushed : Nat := 0

namespace Builder

variable {σ : Type}

def isInFlight (b : Builder σ) : Bool := b.pending.isSome

def createWith (b : Builder σ) (severity : Severity) (code : Code) (primary : Span)
    (args : List Arg) : Except BuilderError (Builder σ) :=
  match b.pending with
  | some d => .error (.stillInFlight code d.code)
  | none => .ok { b with pending := some { severity, code, message := [], primary, args } }

def create (b : Builder σ) (code : Code) (primary : Span) (args : List Arg) :
    Except BuilderError (Builder σ) :=
  b.createWith Severity.error code primary args

def note (b : Builder σ) (span : Span) (message : Bytes) : Except BuilderError (Builder σ) :=
  match b.pending with
  | none => .error .nothingInFlight
  | some d => .ok { b with pending := some { d with notes := d.notes ++ [⟨span, message⟩] } }

/-- Expands the message and reports; a template that does not expand leaves all as it was. -/
def flush (b : Builder σ) : Except BuilderError (Builder σ × Diagnostic) :=
  match b.pending with
  | none => .error .nothingInFlight
  | some d => match Template.expand d.code.template d.args with
    | .error e => .error (.template e)
    | .ok message =>
      let d := { d with message }
      .ok ({ b with pending := none, flushed := b.flushed + 1, sink := b.report b.sink d }, d)

/-- Creates and flushes at once. -/
def emit (b : Builder σ) (code : Code) (primary : Span) (args : List Arg) :
    Except BuilderError (Builder σ) :=
  match b.create code primary args with
  | .error e => .error e
  | .ok b => b.flush.map Prod.fst

end Builder

/-- What is done with a builder in place. A failure does not undo what was done before it. -/
abbrev Reporting (σ : Type) := EStateM BuilderError (Builder σ)

namespace Reporting

variable {σ : Type}

def createWith (severity : Severity) (code : Code) (primary : Span) (args : List Arg) :
    Reporting σ Unit := do
  if let some d := (← get).pending then throw (.stillInFlight code d.code)
  modify fun b => { b with pending := some { severity, code, message := [], primary, args } }

def create (code : Code) (primary : Span) (args : List Arg) : Reporting σ Unit :=
  createWith Severity.error code primary args

def note (span : Span) (message : Bytes) : Reporting σ Unit := do
  let some d := (← get).pending | throw .nothingInFlight
  modify fun b => { b with pending := some { d with notes := d.notes ++ [⟨span, message⟩] } }

/-- The message is expanded while the diagnostic is still in flight; the reporter hears of it when
the builder is done with it. -/
def flush : Reporting σ Diagnostic := do
  let some d := (← get).pending | throw .nothingInFlight
  match Template.expand d.code.template d.args with
  | .error e => throw (.template e)
  | .ok message =>
    let d := { d with message }
    modify fun b => { b with pending := none }
    modify fun b => { b with flushed := b.flushed + 1 }
    modify fun b => { b with sink := b.report b.sink d }
    return d

end Reporting

end FrontEnd
