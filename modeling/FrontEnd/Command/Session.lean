import FrontEnd.Command.Shell
import FrontEnd.Text.Ink

/-!
Sessions. A command that works on files does so in a session: settings are made, the tracer and the
profiles are opened, and however the work ends they are closed again.
-/

namespace FrontEnd.Command

structure Session where
  settings : Settings
  tracer : Trace.Tracer
  /-- Where the profile of memory goes when the session is closed; empty for nowhere. -/
  memoryProfile : Bytes
  deriving Repr

namespace Session

def context (s : Session) : Trace.Context := { tracer := s.tracer }

/-- Tells a failure of closing. -/
def complain (lead : String) (messages : List Bytes) : Action Unit :=
  if messages = [] then pure ()
  else Action.say (Bytes.ofString lead ++ Bytes.join "\n" messages ++ "\n")

/-- Writes the profile of memory, if there is to be one. What is in it is not modelled. -/
def stopProfiles (s : Session) : Action Unit := do
  if s.memoryProfile ≠ [] then
    let sh ← get
    match sh.hub.disk.writeFile s.memoryProfile [] with
    | .ok disk => set { sh with hub := { sh.hub with disk } }
    | .error e => complain "prof: heap profile: " [e.message]

/-- Closes a session: profiles first, then the tracer. -/
def close (s : Session) : Action Unit := do
  s.stopProfiles
  let flushed ← modifyGet fun sh =>
    let (es, hub) := sh.hub.flush s.tracer
    (es, { sh with hub })
  complain "trace: flush error: " (flushed.map (·.message))
  let closed ← modifyGet fun sh =>
    let (es, hub) := sh.hub.close s.tracer
    (es, { sh with hub })
  complain "trace: close error: " (closed.map (·.message))

/-- Creates the file of a profile. -/
def startProfile (name path : Bytes) : Action Unit := do
  if path ≠ [] then
    let sh ← get
    let disk ← Action.orRefuse (sh.hub.disk.writeFile path []) (.profile name)
    set { sh with hub := { sh.hub with disk } }

/-- Creates the files of the profiles that run from now on. -/
def startProfiles (a : Arguments) : Action Unit := do
  startProfile "cpu profile" ((a.text? "cpu-profile").getD [])
  startProfile "runtime trace" ((a.text? "runtime-trace").getD [])

/-- Opens a session for an input. -/
def start (a : Arguments) (input : Bytes) : Action Session := do
  let sh ← get
  let settings ← Action.orRefuse (Settings.resolve sh.hub.disk a input) .settings
  let (tracer, hub) ← Action.orRefuse (sh.hub.openTracer {
    level := settings.traceLevel, storage := settings.traceMode, path := settings.traceOutput })
    .tracer
  set { sh with hub }
  let s : Session := ⟨settings, tracer, []⟩
  fun sh => match startProfiles a sh with
    | .ok _ sh => .ok { s with memoryProfile := (a.text? "mem-profile").getD [] } sh
    | .error e sh => match s.close sh with
      | .ok _ sh => .error e sh
      | .error _ sh => .error e sh

/-- What is said about a fault of the program: the fault, and the last events if they were kept. -/
def crashReport (s : Session) (hub : Trace.Hub) (message : Bytes) : Bytes :=
  let events : Bytes := match s.tracer.ring? hub with
    | some _ => Bytes.ofString "-- last trace events --\n" ++ hub.dump s.tracer .text
    | none => []
  Bytes.ofString "kaiju: internal error: " ++ message ++ "\n" ++ events

/-- Does the work of a session and closes it. After a fault nothing is said about closing, and when
the whole program is gone nothing is closed. -/
def finish (s : Session) (work : Action Unit) : Action Unit := fun sh =>
  let closed (sh : Shell) : Shell := match s.close sh with
    | .ok _ sh => sh
    | .error _ sh => sh
  match work sh with
  | .ok a sh => .ok a (closed sh)
  | .error (.fault m) sh =>
    let sh := sh.say (s.crashReport sh.hub m)
    let after := closed sh
    .error (.fault m) { after with hub := { after.hub with console := sh.hub.console } }
  | .error (.death m) sh => .error (.death m) sh
  | .error e sh => .error e (closed sh)

/-- Whether text for a terminal, or for something else, is coloured. -/
def colors (s : Session) (sh : Shell) (terminal : Bool) : Bool :=
  match s.settings.color with
  | .on => true
  | .off => false
  | .auto => terminal && sh.var "NO_COLOR" == []

/-- The ink for messages. -/
def ink (s : Session) (sh : Shell) : Ink := ⟨s.colors sh sh.consoleTerminal, sh.tints⟩

def view (s : Session) (sh : Shell) : PathView := ⟨s.settings.paths, sh.hub.disk.cwdPath⟩

/-- The cache that the settings ask for. -/
def openCache (s : Session) : Action (Option TokenCache) := do
  if s.settings.cache then
    let sh ← get
    let (cache, disk) :=
      if s.settings.cacheDir ≠ [] then TokenCache.openAt sh.hub.disk s.settings.cacheDir
      else TokenCache.openFor sh.hub.disk (sh.var "XDG_CACHE_HOME") (sh.var "HOME") "kaiju"
    set { sh with hub := { sh.hub with disk } }
    return some (← Action.orRefuse cache .cache)
  else return none

/-- Tells how long the phases of some work took, if that is asked for. -/
def tellTimings (s : Session) (name : Bytes) (t : Trace.Timer) : Action Unit := do
  if s.settings.timings then
    let sh ← get
    let millis (x : Float) : Bytes := FloatText.writeFixed 3 x ++ " ms"
    let faint (text : Bytes) : Action Unit := Action.say ((s.ink sh).inline [Attributes.faint] text)
    for p in t.phases do
      faint (name ++ ": " ++ p.name ++ " " ++ millis (Trace.Timer.phaseMillis p.duration) ++ " ("
        ++ p.note ++ ")\n")
    faint (name ++ ": total " ++ millis t.totalMillis ++ "\n")

end Session

end FrontEnd.Command
