import FrontEnd.Bytes.Consume
import FrontEnd.Bytes.Utf8
import FrontEnd.Diagnostic.Basic
import FrontEnd.Source.File
import FrontEnd.Token.Kind
import FrontEnd.Unicode.Letter

/-!
Lexemes: the token at the front of a text that starts with no blank, how many octets it takes,
and what is wrong with it. A lexeme never reaches over a line end, and the text ends at its first
zero octet as it does at its end. Findings are placed from the lexeme's first octet on.
-/

namespace FrontEnd

/-- Something wrong with a lexeme: the octets concerned, counted from its start. -/
structure Finding where
  code : Code
  start : Nat
  size : Nat
  args : List Arg := []
  deriving DecidableEq, Repr

structure Lexeme where
  kind : Kind
  size : Nat
  text : Bytes
  findings : List Finding := []
  deriving DecidableEq, Repr

namespace Lexeme

/-- Blanks between tokens; a line end is none. -/
def isBlank (b : UInt8) : Bool := b == 32 || b == 9 || b == 11 || b == 12

def isIdentStart (b : UInt8) : Bool := b == 95 || (65 ≤ b && b ≤ 90) || (97 ≤ b && b ≤ 122)

def isIdentByte (b : UInt8) : Bool := isIdentStart b || Bytes.isDecimalDigit b

/-- What a literal cannot contain: a zero octet or a line end. -/
def isBoundary (b : UInt8) : Bool := b == 0 || isLineEnd b

/-- The octets that a backslash may precede. -/
def isSimpleEscape (b : UInt8) : Bool :=
  [39, 34, 63, 92, 97, 98, 102, 110, 114, 116, 118].contains b

/-- The lexeme of the first `size` octets. -/
def ofSize (kind : Kind) (size : Nat) (s : Bytes) : Lexeme := { kind, size, text := s.take size }

/-- A finding on all of a lexeme. -/
def whole (code : Code) (size : Nat) (args : List Arg := []) : Finding := ⟨code, 0, size, args⟩

/-- The character, or the octet that starts none, at the front is no token. -/
def malformed (s : Bytes) : Lexeme :=
  let size := Utf8.itemSize s
  let arg := match s.take size with
    | [b] => Arg.char b
    | text => Arg.text text
  { ofSize .invalid size s with findings := [whole Code.malformedChar size [arg]] }

/-- The octets of an identifier's remainder, `n` having been read. -/
def identSize (n : Nat) (s : Bytes) : Nat :=
  match s with
  | [] => n
  | b :: r =>
    if b < 0x80 then if isIdentByte b then identSize (n + 1) r else n
    else match Utf8.decode? (b :: r) with
      | some (c, k) =>
        if Unicode.isLetter c || Unicode.isDecimalDigit c then identSize (n + k) (r.drop (k - 1))
        else n
      | none => n
termination_by s.length
decreasing_by
  · simp
  · simp only [List.length_drop, List.length_cons]
    omega

/-- A word: a keyword or an identifier. -/
def word (size : Nat) (s : Bytes) : Lexeme :=
  ofSize ((Kind.keyword? (s.take size)).getD .ident) size s

/-- A word whose first character is ASCII. -/
def asciiWord (s : Bytes) : Lexeme := word (identSize 0 s) s

/-- A word whose first character is not ASCII, if it is a letter. -/
def letterWord (s : Bytes) : Lexeme :=
  match Utf8.decode? s with
  | some (c, k) =>
    if Unicode.isLetter c then word (identSize k (s.drop k)) s else malformed s
  | none => malformed s

/-- A digit of the radix, letters counting from ten on in either case. -/
def isDigitOf (radix : Nat) (b : UInt8) : Bool :=
  if 48 ≤ b ∧ b ≤ 57 then b.toNat - 48 < radix
  else if 97 ≤ b ∧ b ≤ 122 then b.toNat - 97 + 10 < radix
  else if 65 ≤ b ∧ b ≤ 90 then b.toNat - 65 + 10 < radix
  else false

/-- Digits of the radix and nothing else, at least one. -/
def areDigitsOf (radix : Nat) (s : Bytes) : Bool := !s.isEmpty && s.all (isDigitOf radix)

/-- What is wrong with the spelling of an integer: nothing, when what follows a sign of the radix
can be taken off it as a number and leaves nothing. What cannot be taken off and still has only
digits is too large. -/
def numberFinding? (text : Bytes) : Option Finding :=
  let (radix, body) := text.senseRadix
  let taken := body.consumeUnsigned (UInt64.ofNat radix)
  if taken.ok && taken.rest.isEmpty then none
  else if !taken.ok && areDigitsOf radix body then
    some (whole Code.numberOverflow text.length [.text text, .uint 64])
  else some (whole Code.badNumber text.length [.text text])

/-- A digit and all letters, digits and underscores after it. -/
def number (s : Bytes) : Lexeme :=
  let text := s.takeWhile isIdentByte
  { kind := .intLit, size := text.length, text, findings := (numberFinding? text).toList }

/-- How the inside of a literal came to its end. -/
inductive Ending where
  | closed
  /-- A line end or a zero octet follows. -/
  | boundary
  | endOfInput
  deriving DecidableEq, Repr

/-- The inside of a string literal: its octets, what is wrong in it, and its ending. -/
structure Body where
  size : Nat
  findings : List Finding
  ending : Ending
  deriving DecidableEq, Repr

/-- A backslash before `c`, at octet `start` of the lexeme. -/
def escapeFinding? (start : Nat) (c : UInt8) : Option Finding :=
  if isSimpleEscape c then none else some ⟨Code.unknownEscape, start, 2, [.text [92, c]]⟩

/-- Reads the inside of a string of which `n` octets are read; `found` is reversed. A backslash
takes the next octet with it, unless that ends the literal. -/
def stringBody (n : Nat) (found : List Finding) : Bytes → Body
  | [] => ⟨n, found.reverse, .endOfInput⟩
  | b :: r =>
    if b = 34 then ⟨n, found.reverse, .closed⟩
    else if isBoundary b then ⟨n, found.reverse, .boundary⟩
    else if b = 92 then
      match r with
      | [] => ⟨n + 1, found.reverse, .endOfInput⟩
      | c :: r' =>
        if isBoundary c then ⟨n + 1, found.reverse, .boundary⟩
        else stringBody (n + 2) ((escapeFinding? (n + 1) c).toList ++ found) r'
    else stringBody (n + 1) found r

/-- A string literal; one that is not closed ends before the line end or with the input. -/
def string (s : Bytes) : Lexeme :=
  let body := stringBody 0 [] (s.drop 1)
  let text := (s.drop 1).take body.size
  let size := body.size + 1
  match body.ending with
  | .closed => { kind := .stringLit, size := size + 1, text, findings := body.findings }
  | .boundary =>
    { kind := .stringLit, size, text
      findings := body.findings ++ [whole Code.unterminatedString size] }
  | .endOfInput =>
    { kind := .stringLit, size, text, findings := body.findings ++ [whole Code.endInLiteral size] }

/-- The octets of the one character of a character literal, and what is wrong with it. -/
def charBody (s : Bytes) : Nat × List Finding :=
  match s with
  | 92 :: c :: _ => if isBoundary c then (1, []) else (2, (escapeFinding? 1 c).toList)
  | [92] => (1, [])
  | s => (Utf8.itemSize s, [])

/-- A character literal. After a second character all up to a quote or the line end is part
of it. -/
def char (s : Bytes) : Lexeme :=
  match s.drop 1 with
  | [] => { kind := .charLit, size := 1, text := [], findings := [whole Code.unterminatedChar 1] }
  | b :: r =>
    if b = 39 then { kind := .charLit, size := 2, text := [], findings := [whole Code.emptyChar 2] }
    else if isBoundary b then
      { kind := .charLit, size := 1, text := [], findings := [whole Code.unterminatedChar 1] }
    else
      let (n, found) := charBody (b :: r)
      let text := (b :: r).take n
      let rest := (b :: r).drop n
      let extra := (rest.takeWhile fun c => c != 39 && !isBoundary c).length
      if (rest.drop extra).head? = some 39 then
        let size := n + extra + 2
        let found := if extra = 0 then found else found ++ [whole Code.multiCharLiteral size]
        { kind := .charLit, size, text, findings := found }
      else
        let size := n + extra + 1
        { kind := .charLit, size, text, findings := found ++ [whole Code.unterminatedChar size] }

/-- Punctuation, a minus and a greater-than sign being one mark, or a stray character. -/
def punctuation (s : Bytes) : Lexeme :=
  match s with
  | 45 :: 62 :: _ => ofSize .arrow 2 s
  | b :: _ => match Kind.punctuation? b with
    | some k => ofSize k 1 s
    | none => malformed s
  | [] => malformed s

/-- The lexeme at the front of a text without leading blanks; none at its end. -/
def front? (s : Bytes) : Option Lexeme :=
  match s with
  | [] => none
  | b :: _ =>
    if b = 0 then none
    else if isLineEnd b || b == 59 then some (ofSize .newLine 1 s)
    else if b = 34 then some (string s)
    else if b = 39 then some (char s)
    else if isIdentStart b then some (asciiWord s)
    else if 0x80 ≤ b then some (letterWord s)
    else if Bytes.isDecimalDigit b then some (number s)
    else some (punctuation s)

end Lexeme

end FrontEnd
