import FrontEnd.Workspace.Discovery
import FrontEnd.Workspace.Tokenize

/-!
Tokenizing several files. Each has a file set and a bag of its own, so the outcome for one does
not depend on the others; the outcomes keep the order of the paths.
-/

namespace FrontEnd

/-- What became of one path of a batch. -/
structure BatchEntry where
  path : Bytes
  outcome : Except TokenizeError Tokenized

namespace BatchEntry

/-- The tokens of a file that was loaded. -/
def tokens (e : BatchEntry) : List Token :=
  match e.outcome with
  | .ok r => r.tokens
  | .error _ => []

end BatchEntry

/-- How a batch ended. -/
inductive BatchOutcome where
  | done (entries : List BatchEntry)
  /-- Called off before any file was begun. -/
  | cancelled
  /-- A file broke the work off. -/
  | broken (cause : TokenizeError)

/-- The failure that an outcome is, if no caller is prepared for it. -/
def fatal? {α : Type} : Except TokenizeError α → Option TokenizeError
  | .ok _ => none
  | .error e => if e.isFatal then some e else none

namespace Work

variable {σ : Type}

/-- The files in turn, `acc` reversed before them. A failure that is fatal is the end. -/
def tokenizeEach (c : Trace.Context) (opts : TokenizeOptions σ) (acc : List BatchEntry)
    (w : Work σ) : List Bytes → BatchOutcome × Work σ
  | [] => (.done acc.reverse, w)
  | p :: ps =>
    let (outcome, w) := w.tokenize c opts p
    match fatal? outcome with
    | some e => (.broken e, w)
    | none => tokenizeEach c opts (⟨p, outcome⟩ :: acc) w ps

/-- All paths of a batch under one span, which notes how many there are and how many workers; there
are `processors` of them unless `jobs` is positive. Work that breaks off leaves the span open. -/
def tokenizeAll (w : Work σ) (c : Trace.Context) (opts : TokenizeOptions σ) (jobs processors : Int)
    (paths : List Bytes) : BatchOutcome × Work σ :=
  if paths.isEmpty then (.done [], w)
  else
    let w := paths.foldl (fun w p => w.tell { file := p, stage := .load, status := .queued }) w
    let ((c, span), hub) := w.hub.start c .driver "tokenize_files"
    let hub := hub.note span "files" (Bytes.decimal paths.length)
    let hub := hub.note span "jobs" (Bytes.decimalInt (if jobs ≤ 0 then processors else jobs))
    let w := { w with hub }
    if opts.cancelled then (.cancelled, w.endSpan span)
    else match tokenizeEach c { opts with shared := none } [] w paths with
      | (.broken e, w) => (.broken e, w)
      | (r, w) => (r, w.endSpan span)

/-- All sources below a directory; paths are shown from there unless another base is given. -/
def tokenizeDir (w : Work σ) (c : Trace.Context) (opts : TokenizeOptions σ) (jobs processors : Int)
    (dir : Bytes) : Except Disk.Error (BatchOutcome × Work σ) :=
  (Discovery.list w.hub.disk dir).map fun paths =>
    let baseDir := if opts.baseDir = [] then dir else opts.baseDir
    w.tokenizeAll c { opts with baseDir } jobs processors paths

end Work

end FrontEnd
