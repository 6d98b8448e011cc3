import FrontEnd.Command.Flag

/-!
The commands of the program and the flags of each. The first word that is not the value of a flag
names the command; without a name the words are files to be tokenized.
-/

namespace FrontEnd.Command

inductive Verb where
  /-- No command is named. -/
  | plain
  | tokenize
  | ir
  | version
  | help
  /-- About scripts that complete command lines. -/
  | completion
  /-- The script for a shell. -/
  | script (shell : Bytes)
  deriving DecidableEq, Repr

/-- Flags that all commands have. -/
def sharedFlags : List Flag := [
  ⟨"color", .text, none⟩, ⟨"paths", .text, none⟩, ⟨"timings", .switch, none⟩,
  ⟨"max-diagnostics", .integer, none⟩, ⟨"trace", .text, none⟩, ⟨"trace-level", .text, none⟩,
  ⟨"trace-mode", .text, none⟩, ⟨"cache", .switch, none⟩, ⟨"cpu-profile", .text, none⟩,
  ⟨"mem-profile", .text, none⟩, ⟨"runtime-trace", .text, none⟩]

namespace Verb

/-- The flags of a command itself. -/
def ownFlags : Verb → List Flag
  | .plain | .tokenize => [⟨"format", .text, none⟩, ⟨"diagnostics", .text, none⟩,
      ⟨"ui", .text, none⟩, ⟨"jobs", .integer, none⟩]
  | .ir | .version => [⟨"format", .text, none⟩]
  | .help | .completion => []
  | .script _ => [⟨"no-descriptions", .switch, none⟩]

/-- All flags that are read with a command. -/
def flags (v : Verb) : List Flag :=
  sharedFlags ++ v.ownFlags ++ [⟨"help", .switch, some 104⟩]
    ++ (if v = .plain then [⟨"version", .switch, some 118⟩] else [])

def named? (word : Bytes) : Option Verb :=
  if word = "tokenize" then some .tokenize
  else if word = "ir" then some .ir
  else if word = "version" then some .version
  else if word = "help" then some .help
  else if word = "completion" then some .completion
  else none

/-- The shells that there are scripts for. -/
def shells : List Bytes := ["bash", "zsh", "fish", "powershell"]

/-- Whether an argument leaves its value to the next one, while the command is looked for. A flag
that is not known is taken to do so. -/
def takesNext (known : List Flag) (s : Bytes) : Bool :=
  if s.elem equalsSign then false
  else if s.startsWith "--" then
    !(known.any fun f => f.name == s.drop 2 && f.kind == .switch)
  else s.head? == some dash && s.length == 2

/-- The first word that is not the value of a flag. A flag whose value would be the last argument
ends the search. -/
def firstWord? (known : List Flag) : List Bytes → Option Bytes
  | [] => none
  | s :: rest =>
    if s = "--" then none
    else if takesNext known s then match rest with
      | _ :: v :: r => firstWord? known (v :: r)
      | _ => none
    else if s ≠ [] ∧ s.head? ≠ some dash then some s
    else firstWord? known rest

/-- The arguments without the first that is the given word and not the value of a flag. -/
def without (known : List Flag) (word : Bytes) : List Bytes → List Bytes
  | [] => []
  | s :: rest =>
    if s = "--" then s :: rest
    else if takesNext known s then match rest with
      | v :: r => s :: v :: without known word r
      | [] => [s]
    else if s.head? ≠ some dash ∧ s = word then rest
    else s :: without known word rest

/-- The command that the first word names, and the arguments without it. -/
def next? (known : List Flag) (name? : Bytes → Option Verb) (args : List Bytes) :
    Option (Verb × List Bytes) := do
  let word ← firstWord? known args
  return (← name? word, without known word args)

/-- The command of a command line, and the arguments that are left for it. -/
def find (args : List Bytes) : Verb × List Bytes :=
  match next? (sharedFlags ++ Verb.plain.ownFlags) named? args with
  | none => (.plain, args)
  | some (.completion, args) =>
    let shell? (word : Bytes) : Option Verb :=
      if shells.any (· = word) then some (.script word) else none
    (next? sharedFlags shell? args).getD (.completion, args)
  | some found => found

/-- How a command is named in messages. -/
def path : Verb → Bytes
  | .plain => "kaiju"
  | .tokenize => "kaiju tokenize"
  | .ir => "kaiju ir"
  | .version => "kaiju version"
  | .help => "kaiju help"
  | .completion => "kaiju completion"
  | .script shell => Bytes.ofString "kaiju completion " ++ shell

/-- How a command is used. -/
def usage : Verb → Bytes
  | .plain => "kaiju FILE [flags]"
  | .tokenize => "kaiju tokenize [flags] FILE|DIR..."
  | .ir => "kaiju ir [flags] [FILE]"
  | .version => "kaiju version [flags]"
  | .help => "kaiju help [command] [flags]"
  | .completion => "kaiju completion [command]"
  | .script shell => Bytes.ofString "kaiju completion " ++ shell ++ " [flags]"

end Verb

/-- Why the words do not fit a command. -/
inductive WordsError where
  | noInput (v : Verb)
  | tooMany (n : Nat)
  | unexpected (word : Bytes) (v : Verb)
  deriving DecidableEq, Repr

def WordsError.message : WordsError → Bytes
  | .noInput v => Bytes.ofString "missing input file\nusage: " ++ v.usage
  | .tooMany n => Bytes.ofString "accepts at most 1 arg(s), received " ++ Bytes.decimal n
  | .unexpected word v =>
    Bytes.ofString "unknown command " ++ Quoted.quote word ++ " for " ++ Quoted.quote v.path

/-- The words that a command admits. -/
def Verb.checkWords (v : Verb) (words : List Bytes) : Except WordsError Unit :=
  match v with
  | .plain | .tokenize => if words = [] then .error (.noInput v) else .ok ()
  | .ir => if words.length ≤ 1 then .ok () else .error (.tooMany words.length)
  | .help | .completion => .ok ()
  | .version | .script _ => match words with
    | [] => .ok ()
    | w :: _ => .error (.unexpected w v)

end FrontEnd.Command
