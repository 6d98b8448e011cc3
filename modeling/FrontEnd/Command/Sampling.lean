import FrontEnd.Command.Tokenizing
import FrontEnd.Ir.Listing
import FrontEnd.Ir.Sample
import FrontEnd.Ir.Snapshot

/-!
The command that prints the sample module. With a file the module is bound to it, and the file is
tokenized first.
-/

namespace FrontEnd.Command

inductive ModuleFormat where
  | text
  | json
  | msgpack
  deriving DecidableEq, Repr

def ModuleFormat.ofName (s : Bytes) : Except Refusal ModuleFormat :=
  let w := s.lowerText
  if w = "text" then .ok .text
  else if w = "json" then .ok .json
  else if w = "msgpack" then .ok .msgpack
  else .error (.format w)

/-- The sample module, bound to a path or to none, in a format. -/
def sampleText? (format : ModuleFormat) (c : Ir.Context) : Option Bytes :=
  match format with
  | .text => c.listing? 0
  | .json => (c.snapshot? 0).map Ir.Snapshot.json
  | .msgpack => (c.snapshot? 0).map Ir.Snapshot.pack

namespace Session

/-- Builds the sample module as a phase of its own. -/
def buildSample (s : Session) (path : Option Bytes) : Action (Ir.Context × Trace.Timer) :=
  modifyGet fun sh =>
    let (phase, timer, hub) := ({ context := s.context } : Trace.Timer).begin sh.hub "ir"
    let c := Ir.Build.sampleContext path
    let note := Bytes.decimal (c.module 0).values.length ++ " values"
    let (timer, hub) := timer.finish hub phase note
    ((c, timer), { sh with hub })

/-- The sample for a file, or for none when the path is empty; and whether the file has mistakes. -/
def sampleFor (s : Session) (path : Bytes) : Action (Ir.Context × Trace.Timer × Bool) := do
  if path = [] then
    let (c, timer) ← s.buildSample none
    return (c, timer, false)
  else
    let cache ← s.openCache
    let r ← orStop (← Action.work (·.tokenize s.context (s.options cache) path))
    s.tellDiagnostics .pretty r
    let (c, timer) ← s.buildSample (some r.file.path)
    s.tellTimings r.file.path r.timer
    return (c, timer, r.bag.hasErrors)

end Session

/-- Prints the sample module. -/
def runSample (a : Arguments) : Action Unit := do
  let format ← Action.orRefuse (ModuleFormat.ofName ((a.text? "format").getD "text")) id
  let input := a.words.headD []
  let s ← Session.start a input
  s.finish do
    let (c, timer, mistakes) ← s.sampleFor input
    s.tellTimings "ir" timer
    match sampleText? format c with
    | some text => Action.print text
    | none => throw (.fault "a type that contains itself")
    if mistakes then throw .mistakes

end FrontEnd.Command
