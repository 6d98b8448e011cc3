import FrontEnd.Command.Sampling

/-!
The program as a whole: a command line is read, the command it names is run, and how that ended is
told by the exit status. Messages name the program.
-/

namespace FrontEnd.Command

/-- Tells the version. -/
def runVersion (a : Arguments) : Action Unit := do
  let sh ← get
  let format := (a.text? "format").getD "pretty"
  let word := format.lowerText
  if word = "json" then Action.print sh.version.json
  else if word = "pretty" then
    let color := (a.text? "color").getD "auto"
    let inColor := color = "on" ∨ (color = "auto" ∧ sh.outputTerminal)
    Action.print (sh.version.line ⟨sh.tints, sh.tints⟩ inColor ++ "\n")
  else throw (.refused (.versionFormat format))

/-- Tells how a command is used. -/
def Verb.printUsage (v : Verb) : Action Unit :=
  Action.print (Bytes.ofString "Usage:\n  " ++ v.usage ++ "\n")

/-- Runs a command with the arguments that are left for it. -/
def Verb.run (v : Verb) (args : List Bytes) : Action Unit := do
  let a ← Action.orRefuse (readArguments v.flags {} args) .flag
  if a.isOn "help" then v.printUsage
  else if a.isOn "version" then Action.print ((← get).version.number ++ "\n")
  else
    Action.orRefuse (v.checkWords a.words) .words
    match v with
    | .plain | .tokenize => runTokenize a
    | .ir => runSample a
    | .version => runVersion a
    | .help => (Verb.find a.words).1.printUsage
    | .completion => v.printUsage
    | .script _ => pure ()

/-- How a run of the program ended. -/
inductive Ending where
  | status (code : Nat)
  /-- The program broke off. -/
  | crashed (message : Bytes)
  deriving DecidableEq, Repr

/-- Runs the program. -/
def run (sh : Shell) (args : List Bytes) : Ending × Shell :=
  let (v, rest) := Verb.find args
  match v.run rest sh with
  | .ok _ sh => (.status 0, sh)
  | .error (.refused r) sh => (.status 1, sh.say (Bytes.ofString "kaiju: " ++ r.message ++ "\n"))
  | .error .mistakes sh => (.status 1, sh)
  | .error (.fault m) sh | .error (.death m) sh => (.crashed m, sh)

end FrontEnd.Command
