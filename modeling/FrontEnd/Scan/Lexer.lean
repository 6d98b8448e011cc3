import FrontEnd.Diagnostic.Builder
import FrontEnd.Scan.Lexeme
import FrontEnd.Token.Basic

/-!
The token stream of a file, one token at a time. A lexer stands somewhere in the content, may
hold one token that was looked at, and reports what is wrong with each token when it scans it.
Scanning never stops at a mistake; after the end there is only the end.
-/

namespace FrontEnd

/-- A lexer that reports through a builder on a sink of type `σ`, or not at all. -/
structure Lexer (σ : Type) where
  file : FileId
  /-- The octets scanned so far. -/
  off : Nat
  rest : Bytes
  look : Option Token := none
  done : Bool := false
  builder : Option (Builder σ)

namespace Lexer

variable {σ : Type}

def new (f : File) (builder : Option (Builder σ)) : Lexer σ :=
  { file := f.id, off := 0, rest := f.content, builder }

/-- The span of `size` octets from `off` on. -/
def spanAt (lx : Lexer σ) (off size : Nat) : Span :=
  ⟨lx.file, off.toUInt32, (off + size).toUInt32⟩

def endToken (lx : Lexer σ) : Token := ⟨.eof, lx.spanAt lx.off 0, []⟩

/-- Reports findings on a lexeme at `off`, in order. -/
def report (lx : Lexer σ) (off : Nat) : List Finding → Except BuilderError (Lexer σ)
  | [] => .ok lx
  | f :: fs => match lx.builder with
    | none => .ok lx
    | some b => match b.emit f.code (lx.spanAt (off + f.start) f.size) f.args with
      | .error e => .error e
      | .ok b => report { lx with builder := some b } off fs

/-- Scans a token that was not looked at before. -/
def scan (lx : Lexer σ) : Except BuilderError (Token × Lexer σ) :=
  if lx.done then .ok (lx.endToken, lx)
  else
    let gap := (lx.rest.takeWhile Lexeme.isBlank).length
    let rest := lx.rest.drop gap
    let off := lx.off + gap
    match Lexeme.front? rest with
    | none =>
      let lx := { lx with off, rest, done := true }
      .ok (lx.endToken, lx)
    | some m =>
      let token : Token := ⟨m.kind, lx.spanAt off m.size, m.text⟩
      (lx.report off m.findings).map fun lx =>
        (token, { lx with off := off + m.size, rest := rest.drop m.size })

/-- The next token. -/
def next (lx : Lexer σ) : Except BuilderError (Token × Lexer σ) :=
  match lx.look with
  | some t => .ok (t, { lx with look := none })
  | none => lx.scan

/-- The token that `next` will give. -/
def peek (lx : Lexer σ) : Except BuilderError (Token × Lexer σ) :=
  lx.next.map fun (t, lx) => (t, { lx with look := some t })

/-- The lexer with its sink changed. -/
def mapSink (f : σ → σ) (lx : Lexer σ) : Lexer σ :=
  { lx with builder := lx.builder.map fun b => { b with sink := f b.sink } }

/-- Tokens up to the end, `acc` reversed before them; at most `fuel` more. The sink learns of each
token through `tell`. -/
def collect (tell : Token → σ → σ) (acc : List Token) (lx : Lexer σ) :
    Nat → Except BuilderError (List Token × Lexer σ)
  | 0 => .ok (acc.reverse, lx)
  | fuel + 1 => match lx.next with
    | .error e => .error e
    | .ok (t, lx) =>
      let lx := lx.mapSink (tell t)
      if t.kind = .eof then .ok ((t :: acc).reverse, lx) else collect tell (t :: acc) lx fuel

/-- All tokens that are left, the end included: each but the one looked at and the end takes an
octet of what is left. The sink learns of each token through `tell`. -/
def allTelling (tell : Token → σ → σ) (lx : Lexer σ) : Except BuilderError (List Token × Lexer σ) :=
  collect tell [] lx (lx.rest.length + 2)

/-- All tokens that are left, the end included. -/
def all (lx : Lexer σ) : Except BuilderError (List Token × Lexer σ) :=
  lx.allTelling fun _ s => s

end Lexer

/-- All tokens of a file, and the sink after its diagnostics. -/
def File.tokens {σ : Type} (f : File) (builder : Option (Builder σ)) :
    Except BuilderError (List Token × Option (Builder σ)) :=
  (Lexer.new f builder).all.map fun (ts, lx) => (ts, lx.builder)

end FrontEnd
