import FrontEnd.Command.Session
import FrontEnd.Progress.Board
import FrontEnd.Report.Document
import FrontEnd.Report.Pretty
import FrontEnd.Report.Short
import FrontEnd.Report.Tokens

/-!
The command that tokenizes files. Diagnostics go to the console and tokens to the output. A single
file is worked on by itself; several files, and those of directories, are a batch.
-/

namespace FrontEnd.Command

inductive TokenFormat where
  | pretty
  | json
  | msgpack
  deriving DecidableEq, Repr

inductive DiagnosticsFormat where
  | pretty
  | short
  | json
  deriving DecidableEq, Repr

def TokenFormat.ofName (s : Bytes) : Except Refusal TokenFormat :=
  let w := s.lowerText
  if w = "pretty" then .ok .pretty
  else if w = "json" then .ok .json
  else if w = "msgpack" then .ok .msgpack
  else .error (.format w)

def DiagnosticsFormat.ofName (s : Bytes) : Except Refusal DiagnosticsFormat :=
  if s = "pretty" then .ok .pretty
  else if s = "short" then .ok .short
  else if s = "json" then .ok .json
  else .error (.diagnosticsFormat s)

/-- How tokenizing is asked for. -/
structure TokenizeFlags where
  format : TokenFormat
  diagnostics : DiagnosticsFormat
  live : Progress.LiveView
  jobs : Int
  deriving Repr

def TokenizeFlags.ofArguments (a : Arguments) : Except Refusal TokenizeFlags := do
  let format ← TokenFormat.ofName ((a.text? "format").getD "pretty")
  let diagnostics ← DiagnosticsFormat.ofName ((a.text? "diagnostics").getD "pretty")
  let live ← (Progress.LiveView.ofSetting ((a.text? "ui").getD "off")).mapError Refusal.liveView
  return ⟨format, diagnostics, live, (a.integer? "jobs").getD 0⟩

namespace Session

/-- Shows the diagnostics of a file in order, if there are any. -/
def tellDiagnostics (s : Session) (format : DiagnosticsFormat) (r : Tokenized) : Action Unit := do
  if r.bag.size ≠ 0 then
    let sh ← get
    let bag := r.bag.sort
    let view := s.view sh
    match format with
    | .json =>
      let report ← Action.orFault (Report.build ⟨view, true, true, 0⟩ r.files bag)
        SourceError.message
      Action.say report.json.document
    | .short =>
      Action.say (← Action.orFault (Short.render view false (some r.files) bag) SourceError.message)
    | .pretty =>
      Action.say (← Action.orFault (Pretty.render ⟨s.ink sh, view, true⟩ r.files bag)
        SourceError.message)

/-- The tokens of a file in a format. -/
def tokensText (format : TokenFormat) (r : Tokenized) : Except SourceError Bytes :=
  match format with
  | .pretty => Token.pretty r.files r.tokens
  | .json => (Token.records (some r.files) r.tokens).map Token.jsonListing
  | .msgpack => (Token.records (some r.files) r.tokens).map Token.packListing

/-- A file's tokens, or why the command stops. -/
def orStop (r : Except TokenizeError Tokenized) : Action Tokenized :=
  match r with
  | .ok r => pure r
  | .error e => throw (if e.isFatal then .fault e.message else .refused (.tokenize e))

/-- The options that the settings make for every file. -/
def options (s : Session) (cache : Option TokenCache) : TokenizeOptions Unit :=
  { limit := s.settings.maxDiagnostics, cache }

/-- Tokenizes a single file. Short diagnostics are shown while it is scanned. -/
def tokenizeOne (s : Session) (f : TokenizeFlags) (path : Bytes) : Action Unit := do
  let cache ← s.openCache
  let sh ← get
  let stream : FileSet → Reporter (Trace.Hub × Unit) := fun files (h, _) d =>
    ({ h with console := h.console.write (streamLine (s.ink sh) (s.view sh) files d) }, ())
  let opts := if f.diagnostics = .short then { s.options cache with report := stream }
    else s.options cache
  let r ← orStop (← Action.work (·.tokenize s.context opts path))
  if f.diagnostics ≠ .short then s.tellDiagnostics f.diagnostics r
  Action.print (← Action.orFault (tokensText f.format r) SourceError.message)
  s.tellTimings r.file.path r.timer
  if r.bag.hasErrors then throw .mistakes

/-- Directories give way to the sources below them. -/
def expand (d : Disk) : List Bytes → Except Refusal (List Bytes)
  | [] => .ok []
  | p :: ps => do
    let here ← match d.get p with
      | .ok (.dir _) => (Discovery.list d p).mapError (.list p)
      | _ => .ok [p]
    return here ++ (← expand d ps)

/-- The tokens of one file in a batch, as they are listed together. -/
structure Listed where
  path : Bytes
  tokens : List TokenRecord

/-- The tokens of a batch as one document; a batch without any is no list at all. -/
def batchText (format : TokenFormat) (files : List Listed) : Bytes :=
  match format with
  | .msgpack =>
    let file (l : Listed) : Pack := .map (Pack.field "path" (.str l.path)
      ++ Pack.field "tokens" (.arr (l.tokens.map TokenRecord.pack)))
    (if files.isEmpty then Pack.nil else .arr (files.map file)).encode
  | _ =>
    let file (l : Listed) : Json := .obj (Json.field "path" (.str l.path)
      ++ Json.field "tokens" (.arr (l.tokens.map TokenRecord.json)))
    (if files.isEmpty then Json.null else .arr (files.map file)).document

/-- What was shown of a batch so far: whether anything was wrong, and the tokens still to be listed,
the last in front. -/
structure BatchState where
  failed : Bool := false
  listed : List Listed := []

/-- Shows what became of one file of a batch. -/
def tellEntry (s : Session) (f : TokenizeFlags) (b : BatchState) (e : BatchEntry) :
    Action BatchState := do
  match e.outcome with
  | .error cause =>
    Action.say (Bytes.ofString "kaiju: " ++ e.path ++ ": " ++ cause.message ++ "\n")
    return { b with failed := true }
  | .ok r =>
    s.tellDiagnostics f.diagnostics r
    let b := { b with failed := b.failed || r.bag.hasErrors }
    s.tellTimings r.file.path r.timer
    if f.format = .pretty then
      Action.print (Bytes.ofString "==> " ++ r.file.path ++ " <==\n")
      Action.print (← Action.orFault (Token.pretty r.files r.tokens) SourceError.message)
      return b
    else
      let tokens ← Action.orFault (Token.records (some r.files) r.tokens) SourceError.message
      return { b with listed := ⟨r.file.path, tokens⟩ :: b.listed }

/-- Leaves the last view of the progress of a batch on the console, if it is shown live. -/
def tellProgress (live : Bool) (paths : List Bytes) (told : Array Progress.Event) :
    Action Unit := do
  if live then
    let board := told.foldl (fun b e => b.update (.event e)) (Progress.Board.new "tokenize" paths)
    Action.say (← Action.orFault (board.update .done).view Progress.Board.ViewError.message)

/-- Tokenizes files and directories as one batch. Where a file breaks the work off nothing is shown
of the others. -/
def tokenizeMany (s : Session) (f : TokenizeFlags) (inputs : List Bytes) : Action Unit := do
  let paths ← Action.orRefuse (expand (← get).hub.disk inputs) id
  if paths.isEmpty then throw (.refused .noSources)
  let cache ← s.openCache
  let sh ← get
  let live := f.live.shows paths.length s.settings.tracesToConsole sh.consoleTerminal
  let (outcome, progress) ← Action.work fun w =>
    let (o, w) := w.tokenizeAll s.context (s.options cache) f.jobs sh.processors paths
    ((o, w.progress), w)
  match outcome with
  | .broken cause => throw (.death cause.message)
  | .cancelled =>
    tellProgress live paths progress
    throw (.refused (.tokenize .cancelled))
  | .done entries =>
    tellProgress live paths progress
    let b ← entries.foldlM (s.tellEntry f) {}
    if f.format ≠ .pretty then Action.print (batchText f.format b.listed.reverse)
    if b.failed then throw .mistakes

end Session

/-- Tokenizes what the words name. -/
def runTokenize (a : Arguments) : Action Unit := do
  let f ← Action.orRefuse (TokenizeFlags.ofArguments a) id
  let s ← Session.start a (a.words.headD [])
  s.finish do
    match a.words with
    | [p] => match (← get).hub.disk.get p with
      | .ok (.dir _) => s.tokenizeMany f [p]
      | _ => s.tokenizeOne f p
    | ps => s.tokenizeMany f ps

end FrontEnd.Command
