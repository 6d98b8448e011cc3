import FrontEnd.Number.Integer64
import FrontEnd.Text.Quoted

/-!
Flags of a command line. A flag has a long name and perhaps a letter; its value follows an equals
sign or is the next argument, and a switch needs none. Flags and words may be mixed, and two dashes
on their own end the flags.
-/

namespace FrontEnd.Command

inductive FlagKind where
  | text
  | integer
  | switch
  deriving DecidableEq, Repr

structure Flag where
  name : Bytes
  kind : FlagKind
  /-- A letter for short; only switches have one. -/
  letter : Option UInt8 := none
  deriving DecidableEq, Repr

inductive FlagValue where
  | text (s : Bytes)
  | integer (n : Int)
  | switch (b : Bool)
  deriving DecidableEq, Repr

/-- Why a value is none of its flag. -/
inductive ValueFault where
  | integer (f : Integer64.Fault)
  | switch
  deriving DecidableEq, Repr

def ValueFault.message (value : Bytes) : ValueFault → Bytes
  | .integer f => Bytes.ofString "strconv.ParseInt: parsing " ++ Quoted.quote value ++ (match f with
    | .malformed => ": invalid syntax"
    | .outOfRange => ": value out of range")
  | .switch =>
    Bytes.ofString "strconv.ParseBool: parsing " ++ Quoted.quote value ++ ": invalid syntax"

/-- The words for both positions of a switch. -/
def switchWords : List (Bytes × Bool) :=
  [("1", true), ("t", true), ("T", true), ("true", true), ("TRUE", true), ("True", true),
    ("0", false), ("f", false), ("F", false), ("false", false), ("FALSE", false), ("False", false)]

def FlagKind.read (k : FlagKind) (s : Bytes) : Except ValueFault FlagValue :=
  match k with
  | .text => .ok (.text s)
  | .integer => match Integer64.read s with
    | .ok n => .ok (.integer n)
    | .error f => .error (.integer f)
  | .switch => match switchWords.lookup s with
    | some b => .ok (.switch b)
    | none => .error .switch

inductive FlagError where
  | badForm (arg : Bytes)
  | unknown (name : Bytes)
  /-- A letter that is none of a flag, at the front of letters. -/
  | unknownLetter (letter : UInt8) (letters : Bytes)
  | noValue (name : Bytes)
  | badValue (flag : Flag) (value : Bytes) (fault : ValueFault)
  deriving DecidableEq, Repr

/-- A character between single quotes. -/
def quoteChar (c : Char) : Bytes :=
  let body : Bytes := if c = '\'' then "\\'" else if c = '"' then "\"" else Quoted.char c
  39 :: body ++ [39]

/-- The character that stands for an octet: the first octet of its code point's encoding, taken as
a code point. -/
def letterShown (b : UInt8) : Char :=
  Char.ofNat (((Utf8.encode (Char.ofNat b.toNat)).headD 0).toNat)

def FlagError.message : FlagError → Bytes
  | .badForm arg => Bytes.ofString "bad flag syntax: " ++ arg
  | .unknown name => Bytes.ofString "unknown flag: --" ++ name
  | .unknownLetter b letters =>
    Bytes.ofString "unknown shorthand flag: " ++ quoteChar (letterShown b) ++ " in -" ++ letters
  | .noValue name => Bytes.ofString "flag needs an argument: --" ++ name
  | .badValue flag value fault =>
    let name : Bytes := match flag.letter with
      | some b => Bytes.ofString "-" ++ [b] ++ ", --" ++ flag.name
      | none => Bytes.ofString "--" ++ flag.name
    Bytes.ofString "invalid argument " ++ Quoted.quote value ++ " for " ++ Quoted.quote name
      ++ " flag: " ++ fault.message value

/-- What a command line says: the values given to flags, the last in front, and the words. -/
structure Arguments where
  given : List (Bytes × FlagValue) := []
  words : List Bytes := []
  deriving DecidableEq, Repr

namespace Arguments

def text? (a : Arguments) (name : Bytes) : Option Bytes :=
  match a.given.lookup name with
  | some (.text s) => some s
  | _ => none

def integer? (a : Arguments) (name : Bytes) : Option Int :=
  match a.given.lookup name with
  | some (.integer n) => some n
  | _ => none

def switch? (a : Arguments) (name : Bytes) : Option Bool :=
  match a.given.lookup name with
  | some (.switch b) => some b
  | _ => none

/-- Whether a switch is on. -/
def isOn (a : Arguments) (name : Bytes) : Bool := (a.switch? name).getD false

def give (a : Arguments) (f : Flag) (value : Bytes) : Except FlagError Arguments :=
  match f.kind.read value with
  | .ok v => .ok { a with given := (f.name, v) :: a.given }
  | .error e => .error (.badValue f value e)

end Arguments

def dash : UInt8 := 45

def equalsSign : UInt8 := 61

/-- What flags of a test run start with. They are meant for others, and are passed over. -/
def testMark : Bytes := "test."

/-- Letters of switches in one argument, from behind the dash. A value follows an equals sign. -/
def readLetters (flags : List Flag) (a : Arguments) : Bytes → Except FlagError Arguments
  | [] => .ok a
  | b :: r =>
    if testMark.isPrefixOf (b :: r) then .ok a
    else match flags.find? (·.letter = some b) with
      | none => .error (.unknownLetter b (b :: r))
      | some f => match r with
        | 61 :: c :: v => a.give f (c :: v)
        | r => match a.give f "true" with
          | .error e => .error e
          | .ok a => readLetters flags a r

/-- A long flag, taken apart: its name, and the value behind an equals sign. -/
def splitFlag (body : Bytes) : Bytes × Option Bytes :=
  let name := body.takeWhile (· ≠ equalsSign)
  match body.drop name.length with
  | _ :: value => (name, some value)
  | [] => (name, none)

/-- An argument that is no flag. -/
def isWord (s : Bytes) : Bool := s.head? != some dash || s.length == 1

/-- Reads arguments onto what was read before. -/
def readArguments (flags : List Flag) (a : Arguments) : List Bytes → Except FlagError Arguments
  | [] => .ok { a with words := a.words.reverse }
  | s :: rest =>
    if isWord s then readArguments flags { a with words := s :: a.words } rest
    else if s[1]? ≠ some dash then match readLetters flags a s.tail with
      | .error e => .error e
      | .ok a => readArguments flags a rest
    else
      let body := s.drop 2
      if body = [] then .ok { a with words := a.words.reverse ++ rest }
      else if body.head? = some dash ∨ body.head? = some equalsSign then .error (.badForm s)
      else
        let (name, value) := splitFlag body
        match flags.find? (·.name = name) with
        | none => .error (.unknown name)
        | some f =>
          let value := match value with
            | none => if f.kind = .switch then some "true" else none
            | some v => some v
          match value, rest with
          | some v, rest => match a.give f v with
            | .error e => .error e
            | .ok a => readArguments flags a rest
          | none, [] => .error (.noValue name)
          | none, v :: rest => match a.give f v with
            | .error e => .error e
            | .ok a => readArguments flags a rest

end FrontEnd.Command
