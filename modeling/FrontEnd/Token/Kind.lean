import FrontEnd.Bytes.Basic

/-!
Kinds of tokens. Each has a code, under which it is stored, and a name, under which it is shown.
-/

namespace FrontEnd

inductive Kind where
  /-- A character that starts no token. -/
  | invalid
  | eof
  /-- The end of a statement: a line end or a semicolon. -/
  | newLine
  | ident
  | kwFn
  | kwLet
  | kwReturn
  | intLit
  | stringLit
  | charLit
  | tilde
  | at
  | hash
  | dollar
  | period
  | comma
  | colon
  | plus
  | minus
  | star
  | slash
  | percent
  | assign
  | arrow
  | leftParen
  | rightParen
  | leftBrace
  | rightBrace
  /-- A stored code that names no kind. -/
  | unnamed (code : UInt8)
  deriving DecidableEq, Repr, Inhabited

namespace Kind

/-- All kinds with a name, in the order of their codes. -/
def named : List (Kind × String) := [
  (.invalid, "Invalid"), (.eof, "EOF"), (.newLine, "NewLine"), (.ident, "Ident"),
  (.kwFn, "KwFn"), (.kwLet, "KwLet"), (.kwReturn, "KwReturn"), (.intLit, "IntLit"),
  (.stringLit, "StringLit"), (.charLit, "CharLit"), (.tilde, "Tilde"), (.at, "At"),
  (.hash, "Hash"), (.dollar, "Dollar"), (.period, "Period"), (.comma, "Comma"),
  (.colon, "Colon"), (.plus, "Plus"), (.minus, "Minus"), (.star, "Star"), (.slash, "Slash"),
  (.percent, "Percent"), (.assign, "Assign"), (.arrow, "Arrow"), (.leftParen, "LParen"),
  (.rightParen, "RParen"), (.leftBrace, "LBrace"), (.rightBrace, "RBrace")]

def ofCode (n : UInt8) : Kind :=
  match named[n.toNat]? with
  | some (k, _) => k
  | none => .unnamed n

def code (k : Kind) : UInt8 :=
  match k with
  | .unnamed n => n
  | k => (named.findIdx (·.1 == k)).toUInt8

def name (k : Kind) : Bytes := Bytes.ofString ((named.lookup k).getD "Kind(?)")

def isLiteral (k : Kind) : Bool := k == .intLit || k == .stringLit || k == .charLit

def isKeyword (k : Kind) : Bool := k == .kwFn || k == .kwLet || k == .kwReturn

def isPunctuation (k : Kind) : Bool := Kind.tilde.code ≤ k.code && k.code ≤ Kind.rightBrace.code

/-- The keyword that a word is, in this letter case only. -/
def keyword? (word : Bytes) : Option Kind :=
  if word = "fn" then some .kwFn
  else if word = "let" then some .kwLet
  else if word = "return" then some .kwReturn
  else none

/-- The kind of a punctuation mark of one octet. -/
def punctuation? (b : UInt8) : Option Kind :=
  match b.toNat with
  | 126 => some .tilde
  | 64 => some .at
  | 35 => some .hash
  | 36 => some .dollar
  | 46 => some .period
  | 44 => some .comma
  | 58 => some .colon
  | 43 => some .plus
  | 45 => some .minus
  | 42 => some .star
  | 47 => some .slash
  | 37 => some .percent
  | 61 => some .assign
  | 40 => some .leftParen
  | 41 => some .rightParen
  | 123 => some .leftBrace
  | 125 => some .rightBrace
  | _ => none

end Kind

end FrontEnd
