import FrontEnd.Command.Settings
import FrontEnd.Command.Verb
import FrontEnd.Progress.LiveView
import FrontEnd.Version
import FrontEnd.Workspace.Batch

/-!
What a command runs in: the hub with the disk and the console for messages, the output, and what
is known of the surroundings. A command may stop early, and what it did until then stays done.
-/

namespace FrontEnd.Command

structure Shell where
  hub : Trace.Hub
  output : Transcript := {}
  env : List (Bytes × Bytes) := []
  /-- Whether output and console are terminals. -/
  outputTerminal : Bool := false
  consoleTerminal : Bool := false
  /-- Whether text may be tinted without being asked for. -/
  tints : Bool := false
  processors : Int := 1
  version : Version := {}

namespace Shell

/-- A variable of the environment; one that is not set is empty. -/
def var (s : Shell) (name : Bytes) : Bytes := (s.env.lookup name).getD []

def print (s : Shell) (text : Bytes) : Shell := { s with output := s.output.write text }

def say (s : Shell) (text : Bytes) : Shell :=
  { s with hub := { s.hub with console := s.hub.console.write text } }

end Shell

/-- Why a command does not do its work. -/
inductive Refusal where
  | flag (cause : FlagError)
  | words (cause : WordsError)
  | format (name : Bytes)
  | versionFormat (name : Bytes)
  | diagnosticsFormat (name : Bytes)
  | liveView (cause : Progress.LiveViewError)
  | settings (cause : SettingsError)
  | tracer (cause : Trace.Hub.OpenError)
  | profile (name : Bytes) (cause : Disk.Error)
  | cache (cause : CacheError)
  | list (path : Bytes) (cause : Disk.Error)
  | noSources
  | tokenize (cause : TokenizeError)
  deriving DecidableEq, Repr

def Refusal.message : Refusal → Bytes
  | .flag cause => cause.message
  | .words cause => cause.message
  | .format name => Bytes.ofString "unknown format: " ++ name
  | .versionFormat name =>
    Bytes.ofString "unsupported format " ++ Quoted.quote name ++ " (must be pretty or json)"
  | .diagnosticsFormat name => Bytes.ofString "unknown diagnostics format: " ++ name
  | .liveView cause => cause.message
  | .settings cause => cause.message
  | .tracer cause => Bytes.ofString "failed to create tracer: " ++ cause.message
  | .profile name cause =>
    Bytes.ofString "failed to start profiling: " ++ name ++ ": " ++ cause.message
  | .cache cause => Bytes.ofString "open token cache: " ++ cause.message
  | .list path cause => Bytes.ofString "list " ++ path ++ ": " ++ cause.message
  | .noSources => Bytes.ofString "no " ++ Discovery.extension ++ " files found"
  | .tokenize cause => cause.message

/-- How a command stops early. -/
inductive Stop where
  | refused (r : Refusal)
  /-- Mistakes in the input were shown. -/
  | mistakes
  /-- A fault in the program itself. -/
  | fault (message : Bytes)
  /-- A fault of a worker, which takes the whole program with it. -/
  | death (message : Bytes)
  deriving DecidableEq, Repr

abbrev Action := EStateM Stop Shell

namespace Action

def print (text : Bytes) : Action Unit := modify (·.print text)

def say (text : Bytes) : Action Unit := modify (·.say text)

/-- What was computed, or a refusal for its failure. -/
def orRefuse {ε α : Type} (r : Except ε α) (why : ε → Refusal) : Action α :=
  match r with
  | .ok a => pure a
  | .error e => throw (.refused (why e))

/-- What was computed from the program's own data; a failure is a fault of the program. -/
def orFault {ε α : Type} (r : Except ε α) (message : ε → Bytes) : Action α :=
  match r with
  | .ok a => pure a
  | .error e => throw (.fault (message e))

/-- Works on files with the hub of the shell. -/
def work {α : Type} (f : Work Unit → α × Work Unit) : Action α :=
  modifyGet fun s =>
    let (a, w) := f { hub := s.hub, sink := () }
    (a, { s with hub := w.hub })

end Action

end FrontEnd.Command
