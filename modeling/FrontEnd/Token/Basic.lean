import FrontEnd.Source.File
import FrontEnd.Text.Quoted
import FrontEnd.Token.Kind

/-!
Tokens and what a stream of them keeps. The text of a token is what its span covers; that of a
string or character literal is what stands between the quotes.
-/

namespace FrontEnd

structure Token where
  kind : Kind
  span : Span
  text : Bytes
  deriving DecidableEq, Repr, Inhabited

namespace Token

/-- How a list of tokens fails to be the stream of a file. -/
inductive StreamFault where
  | noFile
  | noTokens
  | wrongFile (i : Nat) (got want : FileId)
  | outside (i : Nat) (span : Span) (size : UInt32)
  | overlap (i : Nat) (span previous : Span)
  | earlyEnd (i : Nat)
  | noEnd (last : Kind)
  | emptySpan (i : Nat) (kind : Kind) (span : Span)
  | literalText (i : Nat) (kind : Kind) (text source : Bytes)
  | wrongText (i : Nat) (text source : Bytes)
  deriving DecidableEq, Repr

def StreamFault.message : StreamFault → Bytes
  | .noFile => "nil file"
  | .noTokens => "empty token stream"
  | .wrongFile i got want =>
    tok i ++ "span file mismatch: got=" ++ Bytes.decimal got.toNat ++ " want="
      ++ Bytes.decimal want.toNat
  | .outside i span size =>
    tok i ++ "span " ++ span.render ++ " outside content (len " ++ Bytes.decimal size.toNat ++ ")"
  | .overlap i span previous =>
    tok i ++ "span " ++ span.render ++ " overlaps previous " ++ previous.render
  | .earlyEnd i => tok i ++ "EOF before the end of the stream"
  | .noEnd last => "stream does not end with EOF, last is " ++ last.name
  | .emptySpan i kind span => tok i ++ "empty " ++ kind.name ++ " span " ++ span.render
  | .literalText i kind text source =>
    tok i ++ kind.name ++ " text " ++ Quoted.quote text ++ " does not match source "
      ++ Quoted.quote source
  | .wrongText i text source =>
    tok i ++ "text " ++ Quoted.quote text ++ " does not match source " ++ Quoted.quote source
where
  tok (i : Nat) : Bytes := "token " ++ Bytes.decimal i ++ ": "

/-- The quote that opens a literal of this kind. -/
def delimiter? : Kind → Option UInt8
  | .stringLit => some 34
  | .charLit => some 39
  | _ => none

/-- The token's text is what its span covers, for a literal behind the opening quote. -/
def checkText (i : Nat) (t : Token) (source : Bytes) : Except StreamFault Unit :=
  match delimiter? t.kind with
  | some q =>
    if source.head? = some q ∧ t.text.isPrefixOf source.tail then .ok ()
    else .error (.literalText i t.kind t.text source)
  | none => if source = t.text then .ok () else .error (.wrongText i t.text source)

/-- One token after `previous`; `last` when no other follows. -/
def checkOne (f : File) (previous : Span) (i : Nat) (t : Token) (last : Bool) :
    Except StreamFault Unit :=
  if t.span.file ≠ f.id then .error (.wrongFile i t.span.file f.id)
  else if !t.span.isWithin f.size then .error (.outside i t.span f.size)
  else if !previous.precedes t.span then .error (.overlap i t.span previous)
  else if t.kind = .eof then (if last then .ok () else .error (.earlyEnd i))
  else if last then .error (.noEnd t.kind)
  else if t.span.isEmpty then .error (.emptySpan i t.kind t.span)
  else checkText i t (f.cut t.span.start.toNat t.span.stop.toNat)

def checkFrom (f : File) (previous : Span) (i : Nat) : List Token → Except StreamFault Unit
  | [] => .ok ()
  | t :: ts => match checkOne f previous i t ts.isEmpty with
    | .error e => .error e
    | .ok _ => checkFrom f t.span (i + 1) ts

/-- Spans lie in the file, in order and apart; texts match them; the end comes once, at the end. -/
def checkStream (f : File) (ts : List Token) : Except StreamFault Unit :=
  if ts.isEmpty then .error .noTokens else checkFrom f ⟨f.id, 0, 0⟩ 0 ts

end Token

end FrontEnd
