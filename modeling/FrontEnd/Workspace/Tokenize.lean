import FrontEnd.Progress.Basic
import FrontEnd.Scan.Lexer
import FrontEnd.Source.FileSet
import FrontEnd.Trace.Timer
import FrontEnd.Workspace.Cache

/-!
Tokenizing a file from disk: it is loaded, its tokens are taken from the cache or scanned, and a
file without any mistake is stored in the cache. The work is told as progress, traced and timed.
Only a file that cannot be loaded is a failure; what is wrong with its text is in the bag. A file
that there is no room for breaks the work off.
-/

namespace FrontEnd

/-- What work on files changes: the hub with its disk, a sink of the caller's, and the progress
told so far. -/
structure Work (σ : Type) where
  hub : Trace.Hub
  sink : σ
  progress : Array Progress.Event := #[]

structure TokenizeOptions (σ : Type) where
  /-- How many diagnostics are kept; a hundred unless it is positive. -/
  limit : Int := 0
  /-- Told of every diagnostic, also of those that are not kept. -/
  report : FileSet → Reporter (Trace.Hub × σ) := fun _ => Reporter.discard
  baseDir : Bytes := []
  /-- A set that the file is to be added to. -/
  shared : Option FileSet := none
  cache : Option TokenCache := none
  /-- Whether the caller has lost interest. -/
  cancelled : Bool := false

/-- Why there is no result. -/
inductive TokenizeError where
  | load (cause : LoadError)
  /-- Loading broke off. -/
  | broken (cause : LoadError)
  | cancelled
  | limit (cause : BagError)
  | report (cause : BuilderError)
  deriving DecidableEq, Repr

namespace TokenizeError

def message : TokenizeError → Bytes
  | .load cause => Bytes.ofString "load: " ++ cause.message
  | .broken cause => cause.message
  | .cancelled => "context canceled"
  | .limit cause => cause.message
  | .report cause => cause.message

/-- A failure that no caller is prepared for. -/
def isFatal : TokenizeError → Bool
  | .load _ | .cancelled => false
  | .broken _ | .limit _ | .report _ => true

end TokenizeError

structure Tokenized where
  files : FileSet
  file : File
  tokens : List Token
  bag : Bag
  timer : Trace.Timer
  /-- Whether the tokens are from the cache. -/
  cached : Bool

/-- A file that has been loaded, with what the work on it needs to come to its end. -/
structure Loaded where
  /-- The context under the span of the file. -/
  context : Trace.Context
  span : Option Trace.Span
  files : FileSet
  file : File
  /-- Where the diagnostics go. -/
  bag : Bag
  timer : Trace.Timer
  /-- The number of the phase of scanning. -/
  phase : Nat

namespace Work

variable {σ : Type}

def tell (w : Work σ) (e : Progress.Event) : Work σ := { w with progress := w.progress.push e }

/-- Shows a failure of the cache, which is no failure of the run. -/
def cacheFailed (w : Work σ) (c : Trace.Context) (e : CacheError) : Work σ :=
  { w with hub := w.hub.point c.tracer .file "cache_error" e.message c.current }

/-- Scans a file. Every token shows as a point where the tracer's level admits it. -/
def scan (w : Work σ) (c : Trace.Context) (opts : TokenizeOptions σ) (files : FileSet) (f : File)
    (bag : Bag) : Except BuilderError (List Token × Bag × Work σ) :=
  let report : Reporter (Bag × Trace.Hub × σ) :=
    fun (b, s) d => ((b.add d).1, opts.report files s d)
  let tell (t : Token) : Bag × Trace.Hub × σ → Bag × Trace.Hub × σ := fun (b, h, s) =>
    (b, h.point c.tracer .token t.kind.name t.span.render c.current, s)
  let silent (_ : Token) (s : Bag × Trace.Hub × σ) := s
  let sink := (bag, w.hub, w.sink)
  let lexer := Lexer.new f (some { report, sink })
  let each := if (c.tracer.level w.hub).admits .token then tell else silent
  (lexer.allTelling each).map fun (ts, lx) =>
    let (bag, hub, s) := (lx.builder.map (·.sink)).getD sink
    (ts, bag, { w with hub, sink := s })

/-- The tokens that the cache has for a file. -/
def fromCache (w : Work σ) (c : Trace.Context) (cache : Option TokenCache) (f : File) :
    Option (List Token) × Work σ :=
  match cache with
  | none => (none, w)
  | some cache => match cache.get w.hub.disk f with
    | .ok ts => (ts, w)
    | .error e => (none, w.cacheFailed c e)

/-- Stores the tokens of a file without mistakes. -/
def toCache (w : Work σ) (c : Trace.Context) (cache : Option TokenCache) (f : File) (bag : Bag)
    (ts : List Token) : Work σ :=
  match cache with
  | none => w
  | some cache =>
    if bag.size = 0 then match cache.put w.hub.disk f.digest ts with
      | .ok disk => { w with hub := { w.hub with disk } }
      | .error e => w.cacheFailed c e
    else w

/-- The tokens of a file, from the cache or else scanned; and whether they are from the cache. -/
def tokensOf (w : Work σ) (c : Trace.Context) (opts : TokenizeOptions σ) (files : FileSet)
    (f : File) (bag : Bag) : Except BuilderError ((List Token × Bool × Bag) × Work σ) :=
  match w.fromCache c opts.cache f with
  | (some ts, w) => .ok ((ts, true, bag), w)
  | (none, w) => (w.scan c opts files f bag).map fun (ts, bag, w) =>
    ((ts, false, bag), w.toCache c opts.cache f bag ts)

def kept (limit : Int) : Int := if limit ≤ 0 then 100 else limit

/-- Loads a file as a phase of its own. Where loading breaks off, the phase is never ended and
nothing more is told. -/
def loadFile (w : Work σ) (c : Trace.Context) (opts : TokenizeOptions σ) (path : Bytes) :
    Except TokenizeError (Trace.Timer × FileSet × File) × Work σ :=
  let w := w.tell { file := path, stage := .load, status := .working }
  let (phase, timer, hub) := ({ context := c } : Trace.Timer).begin w.hub "load"
  let loaded := (opts.shared.getD { baseDir := opts.baseDir }).load hub.disk path
  let (timer, after) := timer.finish hub phase path
  match loaded with
  | .error e =>
    if e.isFatal then (.error (.broken e), { w with hub })
    else (.error (.load e), { w with hub := after }.tell
      { file := path, stage := .load, status := .error, failure := some e.message })
  | .ok (files, id) => match files.get id with
    | .error e => (.error (.broken (.unstorable e)), { w with hub := after })
    | .ok f => (.ok (timer, files, f), { w with hub := after })

/-- Begins the phase of scanning, with a bag for what is found. -/
def beginScan (w : Work σ) (opts : TokenizeOptions σ) (path : Bytes) (timer : Trace.Timer) :
    Except TokenizeError (Bag × Nat × Trace.Timer) × Work σ :=
  if opts.cancelled then (.error .cancelled, w)
  else match Bag.new (kept opts.limit) with
    | .error e => (.error (.limit e), w)
    | .ok bag =>
      let w := w.tell { file := path, stage := .lex, status := .working }
      let (phase, timer, hub) := timer.begin w.hub "lex"
      (.ok (bag, phase, timer), { w with hub })

def endSpan (w : Work σ) (span : Option Trace.Span) : Work σ :=
  { w with hub := (w.hub.endSpan span []).2 }

/-- Opens the span of a file, loads the file and begins its scan. The span ends with a failure. -/
def openFile (w : Work σ) (c : Trace.Context) (opts : TokenizeOptions σ) (path : Bytes) :
    Except TokenizeError Loaded × Work σ :=
  let ((c, span), hub) := w.hub.start c .file path
  match { w with hub }.loadFile c opts path with
  | (.error e, w) => (.error e, w.endSpan span)
  | (.ok (timer, files, file), w) => match w.beginScan opts path timer with
    | (.error e, w) => (.error e, w.endSpan span)
    | (.ok (bag, phase, timer), w) =>
      (.ok { context := c, span, files, file, bag, timer, phase }, w)

/-- Ends the scan of a file and its span, when tokens and diagnostics are known. -/
def closeFile (w : Work σ) (path : Bytes) (l : Loaded) (tokens : List Token) (cached : Bool)
    (bag : Bag) : Tokenized × Work σ :=
  let origin : Bytes := if cached then " (cached)" else []
  let note := Bytes.decimal tokens.length ++ " tokens" ++ origin
  let (timer, hub) := l.timer.finish w.hub l.phase note
  let status := if bag.hasErrors then .error else .done
  let w := { w with hub }.tell { file := path, stage := .lex, status }
  ({ files := l.files, file := l.file, tokens, bag, timer, cached }, w.endSpan l.span)

/-- Loads a file and gives its tokens up to the end. -/
def tokenize (w : Work σ) (c : Trace.Context) (opts : TokenizeOptions σ) (path : Bytes) :
    Except TokenizeError Tokenized × Work σ :=
  match w.openFile c opts path with
  | (.error e, w) => (.error e, w)
  | (.ok l, w) => match w.tokensOf l.context opts l.files l.file l.bag with
    | .error e => (.error (.report e), w.endSpan l.span)
    | .ok ((tokens, cached, bag), w) =>
      let (r, w) := w.closeFile path l tokens cached bag
      (.ok r, w)

end Work

end FrontEnd
