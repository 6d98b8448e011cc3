import FrontEnd.Scan.Cursor
import FrontEnd.Scan.Lexeme
import FrontEnd.Token.Basic

/-!
Scanning by walking the buffer of a file with a cursor, octet by octet. Nothing here knows how much
text is left: loops stop at the sentinel or at an octet that is not theirs, and texts are cut out of
the file by span. So a walk can go wrong where reading a list of octets cannot: it can look or cut
outside the file, or go around without getting on.
-/

namespace FrontEnd

inductive WalkError where
  | cursor (cause : CursorError)
  | slice (cause : SourceError)
  /-- A round of a loop left the cursor where it was, so the next one would be the same. -/
  | endless
  deriving DecidableEq, Repr

namespace Walk

def peek (c : Cursor) : Except WalkError UInt8 := c.peek.mapError .cursor

def peekAt (c : Cursor) (n : UInt32) : Except WalkError UInt8 := (c.peekAt n).mapError .cursor

def bump (c : Cursor) : Except WalkError Cursor := (c.bump.map Prod.snd).mapError .cursor

def advance (c : Cursor) (n : Nat) : Except WalkError Cursor := (c.advance n).mapError .cursor

def eat (c : Cursor) (b : UInt8) : Except WalkError (Bool × Cursor) := (c.eat b).mapError .cursor

/-- The text from a mark to the cursor. -/
def textFrom (f : File) (m : Cursor.Mark) (c : Cursor) : Except WalkError Bytes :=
  (f.slice (c.spanFrom m)).mapError .slice

/-- How far the cursor is behind a mark. -/
def sizeFrom (m : Cursor.Mark) (c : Cursor) : Nat := (c.off - m).toNat

/-- The character under the cursor, if one is encoded there, and the octets to step over. There are
none at the end. -/
def rune (c : Cursor) : Except WalkError (Option Char × Nat) :=
  if c.atEnd then .ok (none, 0)
  else match peek c with
    | .error e => .error e
    | .ok b =>
      if b < 0x80 then .ok (some (Char.ofNat b.toNat), 1)
      else match c.rest with
        | .error e => .error (.cursor e)
        | .ok rest => match Utf8.decode? rest with
          | some (ch, n) => .ok (some ch, n)
          | none => .ok (none, 1)

/-- Goes on with a loop behind a round that moved the cursor from `c` to `c'`. -/
def again {α : Type} (c c' : Cursor) (loop : c.off < c'.off → Except WalkError α) :
    Except WalkError α :=
  if h : c.off < c'.off then loop h else .error .endless

/-- The octets from the cursor's offset to the last that a word can name. -/
def ahead (c : Cursor) : Nat := 0x100000000 - c.off.toNat

theorem ahead_lt {c c' : Cursor} (h : c.off < c'.off) : ahead c' < ahead c := by
  have h₁ := UInt32.lt_iff_toNat_lt.mp h
  have h₂ := c'.off.toNat_lt
  unfold ahead
  omega

/-- Steps over octets as long as they are of a class. -/
def skipWhile (p : UInt8 → Bool) (c : Cursor) : Except WalkError Cursor :=
  match peek c with
  | .error e => .error e
  | .ok b =>
    if p b then match bump c with
      | .error e => .error e
      | .ok c' => again c c' fun _moved => skipWhile p c'
    else .ok c
termination_by ahead c
decreasing_by exact ahead_lt _moved

/-- The lexeme of the next `n` octets. -/
def form (f : File) (kind : Kind) (n : Nat) (c : Cursor) : Except WalkError (Lexeme × Cursor) := do
  let c' ← advance c n
  let text ← textFrom f c.mark c'
  return ({ kind, size := sizeFrom c.mark c', text }, c')

/-- The character under the cursor is no token. -/
def malformed (f : File) (c : Cursor) : Except WalkError (Lexeme × Cursor) := do
  let (_, size) ← rune c
  let (m, c) ← form f .invalid (max size 1) c
  let arg := match m.text with
    | [b] => Arg.char b
    | text => Arg.text text
  return ({ m with findings := [Lexeme.whole Code.malformedChar m.size [arg]] }, c)

/-- The cursor behind a character that can follow in a word, if there is one. -/
def wordStep? (c : Cursor) : Except WalkError (Option Cursor) := do
  let b ← peek c
  if b < 0x80 then
    if Lexeme.isIdentByte b then some <$> bump c else return none
  else match ← rune c with
    | (some ch, n) =>
      if Unicode.isLetter ch || Unicode.isDecimalDigit ch then some <$> advance c n
      else return none
    | (none, _) => return none

/-- Steps over what can follow in a word. -/
def skipWord (c : Cursor) : Except WalkError Cursor :=
  match wordStep? c with
  | .error e => .error e
  | .ok none => .ok c
  | .ok (some c') => again c c' fun _moved => skipWord c'
termination_by ahead c
decreasing_by exact ahead_lt _moved

/-- The word that starts at a mark and was begun up to the cursor. -/
def wordFrom (f : File) (m : Cursor.Mark) (c : Cursor) : Except WalkError (Lexeme × Cursor) := do
  let c ← skipWord c
  let text ← textFrom f m c
  return ({ kind := (Kind.keyword? text).getD .ident, size := sizeFrom m c, text }, c)

/-- A word, or a character that starts none. -/
def word (f : File) (c : Cursor) : Except WalkError (Lexeme × Cursor) := do
  if (← peek c) < 0x80 then wordFrom f c.mark (← bump c)
  else match ← rune c with
    | (some ch, n) =>
      if Unicode.isLetter ch then wordFrom f c.mark (← advance c n) else malformed f c
    | (none, _) => malformed f c

def number (f : File) (c : Cursor) : Except WalkError (Lexeme × Cursor) := do
  let c' ← skipWhile Lexeme.isIdentByte c
  let text ← textFrom f c.mark c'
  return ({ kind := .intLit, size := sizeFrom c.mark c', text,
            findings := (Lexeme.numberFinding? text).toList }, c')

/-- Steps over a backslash and the octet behind it, unless that ends the literal which starts at
the mark. -/
def escape (f : File) (m : Cursor.Mark) (c : Cursor) :
    Except WalkError (Option Finding × Cursor) := do
  let c₁ ← bump c
  let b ← peek c₁
  if b = sentinel ∨ isLineEnd b then return (none, c₁)
  let c₂ ← bump c₁
  if Lexeme.isSimpleEscape b then return (none, c₂)
  let text ← textFrom f c.mark c₂
  return (some ⟨Code.unknownEscape, sizeFrom m c, sizeFrom c.mark c₂, [.text text]⟩, c₂)

/-- Steps over the inside of the string that starts at the mark; `found` is reversed. -/
def inside (f : File) (m : Cursor.Mark) (found : List Finding) (c : Cursor) :
    Except WalkError ((Lexeme.Ending × List Finding) × Cursor) :=
  match peek c with
  | .error e => .error e
  | .ok b =>
    if b = 34 then .ok ((.closed, found.reverse), c)
    else if b = sentinel then
      .ok ((if c.atEnd then .endOfInput else .boundary, found.reverse), c)
    else if isLineEnd b then .ok ((.boundary, found.reverse), c)
    else if b = 92 then match escape f m c with
      | .error e => .error e
      | .ok (finding, c') => again c c' fun _moved => inside f m (finding.toList ++ found) c'
    else match bump c with
      | .error e => .error e
      | .ok c' => again c c' fun _moved => inside f m found c'
termination_by ahead c
decreasing_by all_goals exact ahead_lt _moved

def string (f : File) (c : Cursor) : Except WalkError (Lexeme × Cursor) := do
  let body ← bump c
  let ((ending, found), c') ← inside f c.mark [] body
  let text ← textFrom f body.mark c'
  match ending with
  | .closed =>
    let c'' ← bump c'
    return ({ kind := .stringLit, size := sizeFrom c.mark c'', text, findings := found }, c'')
  | .boundary =>
    let size := sizeFrom c.mark c'
    return ({ kind := .stringLit, size, text,
              findings := found ++ [Lexeme.whole Code.unterminatedString size] }, c')
  | .endOfInput =>
    let size := sizeFrom c.mark c'
    return ({ kind := .stringLit, size, text,
              findings := found ++ [Lexeme.whole Code.endInLiteral size] }, c')

/-- The rest of the character literal that starts at the mark, its character being read. -/
def charEnd (m : Cursor.Mark) (text : Bytes) (found : List Finding) (c : Cursor) :
    Except WalkError (Lexeme × Cursor) := do
  let (closed, c₁) ← eat c 39
  if closed then
    return ({ kind := .charLit, size := sizeFrom m c₁, text, findings := found }, c₁)
  let c₂ ← skipWhile (fun b => b != 39 && !Lexeme.isBoundary b) c₁
  let (closed, c₃) ← eat c₂ 39
  let size := sizeFrom m c₃
  let code := if closed then Code.multiCharLiteral else Code.unterminatedChar
  return ({ kind := .charLit, size, text, findings := found ++ [Lexeme.whole code size] }, c₃)

/-- A character literal without a character. -/
def noChar (m : Cursor.Mark) (code : Code) (c : Cursor) : Lexeme × Cursor :=
  let size := sizeFrom m c
  ({ kind := .charLit, size, text := [], findings := [Lexeme.whole code size] }, c)

/-- Steps over the character `b` of the character literal that starts at the mark. -/
def charStep (f : File) (m : Cursor.Mark) (b : UInt8) (c : Cursor) :
    Except WalkError (Option Finding × Cursor) := do
  if b = 92 then escape f m c
  else
    let (_, size) ← rune c
    return (none, ← advance c (max size 1))

def char (f : File) (c : Cursor) : Except WalkError (Lexeme × Cursor) := do
  let body ← bump c
  let b ← peek body
  if b = 39 then return noChar c.mark Code.emptyChar (← bump body)
  if b = sentinel ∨ isLineEnd b then return noChar c.mark Code.unterminatedChar body
  let (finding, c') ← charStep f c.mark b body
  let text ← textFrom f body.mark c'
  charEnd c.mark text finding.toList c'

def punctuation (f : File) (c : Cursor) : Except WalkError (Lexeme × Cursor) := do
  let b ← peek c
  if b = 45 ∧ (← peekAt c 1) = 62 then form f .arrow 2 c
  else match Kind.punctuation? b with
    | some kind => form f kind 1 c
    | none => malformed f c

/-- The lexeme under the cursor, which stands at no blank; none at the sentinel. -/
def front? (f : File) (c : Cursor) : Except WalkError (Option (Lexeme × Cursor)) := do
  let b ← peek c
  if b = sentinel then return none
  else if isLineEnd b || b == 59 then some <$> form f .newLine 1 c
  else if b = 34 then some <$> string f c
  else if b = 39 then some <$> char f c
  else if Lexeme.isIdentStart b || 0x80 ≤ b then some <$> word f c
  else if Bytes.isDecimalDigit b then some <$> number f c
  else some <$> punctuation f c

/-- The tokens from the cursor on, the end included. -/
def tokensFrom (f : File) (c : Cursor) : Except WalkError (List Token) :=
  match skipWhile Lexeme.isBlank c with
  | .error e => .error e
  | .ok start => match front? f start with
    | .error e => .error e
    | .ok none => .ok [⟨.eof, start.spanFrom start.mark, []⟩]
    | .ok (some (m, c')) =>
      again c c' fun _moved => (tokensFrom f c').map (⟨m.kind, c'.spanFrom start.mark, m.text⟩ :: ·)
termination_by ahead c
decreasing_by exact ahead_lt _moved

/-- The tokens of a file. -/
def tokens (f : File) : Except WalkError (List Token) := tokensFrom f (Cursor.new f)

end Walk

end FrontEnd
