import FrontEnd.Command.Run
import FrontEnd.Disk.Change

/-!
The program on the command line. What a run may look at is taken over from the system, the run is
computed, and what it changed and said is carried out.
-/

namespace FrontEnd.Command

/-- The text of some bytes; bytes that are no text are given up. -/
def textOf (s : Bytes) : String := (String.fromUTF8? ⟨s.toArray⟩).getD ""

/-- The paths that an argument may name: itself, and the value of a flag. -/
def namedBy (arg : Bytes) : List Bytes :=
  arg :: ((arg.dropWhile (· ≠ Bytes.octet '=')).tail?).toList

/-- The places where the configuration file for a path may be. -/
def configPlaces (d : Disk) (path : Bytes) : List Bytes :=
  let names := d.namesOf path
  (List.range (names.length + 1)).map fun k =>
    Path.join [Path.spell true (names.take k), Config.fileName]

/-- The places that the configuration file for a path speaks of. -/
def configured (d : Disk) (path : Bytes) : List Bytes :=
  match Settings.ofDisk d path with
  | .ok (_, s) => [s.traceOutput, s.cacheDir].filter (· ≠ [])
  | .error _ => []

/-- What stands at a path, as far as it can be read. Links are not followed to directories. -/
partial def readTree (path : String) : IO (Option Tree) := do
  let .ok entries ← ((← IO.currentDir) / path).readDir.toBaseIO | readPlain path
  let mut found : List (Bytes × Tree) := []
  for e in entries do
    let isLink : Bool := match ← e.path.symlinkMetadata.toBaseIO with
      | .ok m => m.type == .symlink
      | .error _ => false
    let t ← if isLink then readPlain e.path.toString else readTree e.path.toString
    found := (t.map ((e.fileName : Bytes), ·)).toList ++ found
  return some (.dir found)
where
  readPlain (path : String) : IO (Option Tree) := do
    match ← (IO.FS.readBinFile path).toBaseIO with
    | .ok content => return some (.file content.toList)
    | .error _ => return none

/-- Takes over what stands at a path, and the directories on the way to it. -/
def takeOver (d : Disk) (path : Bytes) : IO Disk := do
  if let .ok (.device _) := d.get path then return d
  let names := d.namesOf path
  let mut d := d
  for k in List.range names.length do
    let way := names.take k
    if (d.root.find? way).isNone then
      let place := textOf (Path.spell true way)
      if ← ((← IO.currentDir) / place).isDir then
        d := { d with root := d.root.put way (.dir []) }
      else
        let t ← readTree place
        return { d with root := (t.map (d.root.put way)).getD d.root }
  match ← readTree (textOf (Path.spell true names)) with
  | some t => return { d with root := d.root.put names t }
  | none => return d

def carryOut : Change → IO Unit
  | .makeDir p => IO.FS.createDirAll (textOf p)
  | .write p content => IO.FS.writeBinFile (textOf p) ⟨content.toArray⟩
  | .remove p => do
    match ← (IO.FS.removeFile (textOf p)).toBaseIO with
    | .ok _ => return
    | .error _ => IO.FS.removeDirAll (textOf p)

/-- The surroundings of a run with the given arguments. -/
def surroundings (args : List Bytes) : IO Shell := do
  let stdout ← IO.getStdout
  let stderr ← IO.getStderr
  let env ← ["XDG_CACHE_HOME", "HOME", "NO_COLOR", "TERM"].filterMapM fun (name : String) => do
    return (← IO.getEnv name).map fun v => ((name : Bytes), (v : Bytes))
  let mut d := Disk.ofFiles ((← IO.currentDir).toString : String) [] []
  let named := (Path.dot :: args).flatMap namedBy
  for p in named.tail do d ← takeOver d p
  for p in named.flatMap (configPlaces d) do
    if (d.get p).isOk then continue
    d ← takeOver d p
  for p in named.flatMap (configured d) do d ← takeOver d p
  let var (name : Bytes) : Bytes := (env.lookup name).getD []
  if let .ok p := TokenCache.userDir (var "XDG_CACHE_HOME") (var "HOME") "kaiju" then
    d ← takeOver d p
  let plain := var "NO_COLOR" ≠ [] || var "TERM" = "dumb"
  return {
    hub := { disk := d }, env
    tints := !plain && (← stdout.isTty)
    outputTerminal := ← stdout.isTty
    consoleTerminal := ← stderr.isTty }

end FrontEnd.Command

open FrontEnd Command in
def main (args : List String) : IO UInt32 := do
  let args := args.map Bytes.ofString
  let sh ← surroundings args
  let (ending, after) := run sh args
  for change in sh.hub.disk.changes after.hub.disk do carryOut change
  let stdout ← IO.getStdout
  let stderr ← IO.getStderr
  stdout.write ⟨after.output.text.toArray⟩
  stderr.write ⟨after.hub.console.text.toArray⟩
  match ending with
  | .status code => return code.toUInt32
  | .crashed _ => return 2
