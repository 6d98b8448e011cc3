import FrontEnd.Command.Config
import FrontEnd.Command.Flag
import FrontEnd.Report.View
import FrontEnd.Trace.Event

/-!
The settings of a run. Defaults give way to the configuration file, and that to flags.
-/

namespace FrontEnd.Command

inductive ColorChoice where
  | auto
  | on
  | off
  deriving DecidableEq, Repr

def ColorChoice.ofName? (s : Bytes) : Option ColorChoice :=
  if s = "auto" then some .auto
  else if s = "on" then some .on
  else if s = "off" then some .off
  else none

structure Settings where
  color : ColorChoice
  paths : PathStyle
  /-- How many diagnostics are kept of a file. -/
  maxDiagnostics : Int
  timings : Bool
  traceLevel : Trace.Level
  traceMode : Trace.Storage
  traceOutput : Bytes
  cache : Bool
  cacheDir : Bytes
  deriving Repr

inductive SettingsError where
  | config (cause : ConfigError)
  /-- A word of the configuration file. -/
  | configWord (path : Bytes) (cause : Trace.SettingError)
  | traceLevel (cause : Trace.SettingError)
  | traceMode (cause : Trace.SettingError)
  | color (value : Bytes)
  | maxDiagnostics (value : Int)
  deriving DecidableEq, Repr

def SettingsError.message : SettingsError → Bytes
  | .config cause => cause.message
  | .configWord path cause => path ++ ": " ++ cause.message
  | .traceLevel cause => Bytes.ofString "invalid trace level: " ++ cause.message
  | .traceMode cause => Bytes.ofString "invalid trace mode: " ++ cause.message
  | .color value =>
    Bytes.ofString "invalid --color value " ++ Quoted.quote value ++ " (expected auto|on|off)"
  | .maxDiagnostics value =>
    Bytes.ofString "max-diagnostics must be positive, got " ++ Bytes.decimalInt value

namespace Settings

/-- A word that may be left out. -/
def word {α : Type} (s : Bytes) (initial : α) (read : Bytes → Except Trace.SettingError α) :
    Except Trace.SettingError α :=
  if s = [] then .ok initial else read s

/-- The settings before flags are looked at; the colour is still a word. -/
def ofConfig (c : Config) : Except Trace.SettingError (Bytes × Settings) :=
  match word c.traceLevel .off Trace.Level.ofSetting with
  | .error e => .error e
  | .ok traceLevel => match word c.traceMode .stream Trace.Storage.ofSetting with
    | .error e => .error e
    | .ok traceMode => .ok (if c.color = [] then "auto" else c.color.lowerText, {
        color := .auto
        paths := if c.paths = [] then .auto else PathStyle.ofSetting c.paths
        maxDiagnostics := if c.maxDiagnostics = 0 then 100 else c.maxDiagnostics
        timings := false
        traceLevel
        traceMode
        traceOutput := c.traceOutput
        cache := c.cache
        cacheDir := c.cacheDir })

/-- The settings that the configuration file for an input makes. A directory in it that is not
absolute is seen from the file. -/
def ofDisk (d : Disk) (input : Bytes) : Except SettingsError (Bytes × Settings) :=
  match Config.find d input with
  | .error e => .error (.config e)
  | .ok none => (ofConfig {}).mapError .traceLevel
  | .ok (some path) => match Config.load d path with
    | .error e => .error (.config e)
    | .ok c =>
      let cacheDir := if c.cacheDir = [] ∨ Path.isAbsolute c.cacheDir then c.cacheDir
        else Path.join [Path.dir path, c.cacheDir]
      (ofConfig { c with cacheDir }).mapError (.configWord path)

/-- A setting that a flag may change. -/
def flagged {α : Type} (given : Option Bytes) (initial : α)
    (read : Bytes → Except Trace.SettingError α) : Except Trace.SettingError α :=
  match given with
  | none => .ok initial
  | some s => read s

/-- The settings for an input. A trace that is asked for without a level shows phases. -/
def resolve (d : Disk) (a : Arguments) (input : Bytes) : Except SettingsError Settings := do
  let (color, s) ← ofDisk d input
  let traceLevel ← (flagged (a.text? "trace-level") s.traceLevel Trace.Level.ofSetting).mapError
    .traceLevel
  let traceMode ← (flagged (a.text? "trace-mode") s.traceMode Trace.Storage.ofSetting).mapError
    .traceMode
  let color := (a.text? "color").getD color
  let maxDiagnostics := (a.integer? "max-diagnostics").getD s.maxDiagnostics
  match ColorChoice.ofName? color with
  | none => .error (.color color)
  | some color =>
    if maxDiagnostics ≤ 0 then .error (.maxDiagnostics maxDiagnostics)
    else .ok {
      color
      paths := ((a.text? "paths").map PathStyle.ofSetting).getD s.paths
      maxDiagnostics
      timings := a.isOn "timings"
      traceLevel := if (a.text? "trace").isSome ∧ traceLevel = .off then .phase else traceLevel
      traceMode
      traceOutput := (a.text? "trace").getD s.traceOutput
      cache := (a.switch? "cache").getD s.cache
      cacheDir := s.cacheDir }

/-- Whether the trace is written to the console. -/
def tracesToConsole (s : Settings) : Bool :=
  s.traceLevel != .off && s.traceMode != .ring && (s.traceOutput == [] || s.traceOutput == "-")

end Settings

end FrontEnd.Command
