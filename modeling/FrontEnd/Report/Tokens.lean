import FrontEnd.Encoding.Json
import FrontEnd.Encoding.MessagePack
import FrontEnd.Source.FileSet
import FrontEnd.Token.Basic

/-!
Listings of tokens, for reading and for programs. A listing stops at the first end of the stream.
-/

namespace FrontEnd

/-- A token as listed; line and column are zero when no files are known. -/
structure TokenRecord where
  kind : Bytes
  text : Bytes
  span : Span
  line : UInt32
  col : UInt32
  deriving DecidableEq, Repr

namespace Token

/-- The tokens up to the first end, which is included. -/
def listed : List Token → List Token
  | [] => []
  | t :: ts => if t.kind = .eof then [t] else t :: listed ts

def record (fs : Option FileSet) (t : Token) : Except SourceError TokenRecord :=
  let make (p : Position) : TokenRecord := ⟨t.kind.name, t.text, t.span, p.line, p.col⟩
  match fs with
  | none => .ok (make ⟨0, 0⟩)
  | some fs => (fs.resolve t.span).map fun (start, _) => make start

def records (fs : Option FileSet) (ts : List Token) : Except SourceError (List TokenRecord) :=
  (listed ts).mapM (record fs)

/-- One line with the token's number, kind, quoted text and positions. -/
def prettyLine (fs : FileSet) (number : Nat) (t : Token) : Except SourceError Bytes :=
  (fs.resolve t.span).map fun (a, b) =>
    let pos (p : Position) : Bytes := Bytes.decimal p.line.toNat ++ ":" ++ Bytes.decimal p.col.toNat
    (Bytes.decimal number).padLeft 3 ++ ": " ++ t.kind.name.padRight 10
      ++ (if t.text.isEmpty then [] else 32 :: Quoted.quote t.text)
      ++ " at " ++ pos a ++ "-" ++ pos b ++ "\n"

def pretty (fs : FileSet) (ts : List Token) : Except SourceError Bytes :=
  ((listed ts).zipIdx.mapM fun (t, i) => prettyLine fs (i + 1) t).map List.flatten

end Token

namespace TokenRecord

open Json (field textField? natField?)

def json (r : TokenRecord) : Json :=
  let span := field "file" (.nat r.span.file.toNat) ++ field "start" (.nat r.span.start.toNat)
    ++ field "end" (.nat r.span.stop.toNat)
  .obj (field "kind" (.str r.kind) ++ textField? "text" r.text ++ field "span" (.obj span)
    ++ natField? "line" r.line.toNat ++ natField? "col" r.col.toNat)

def spanPack (s : Span) : Pack :=
  .map (Pack.field "file" (.int s.file.toNat) ++ Pack.field "start" (.int s.start.toNat)
    ++ Pack.field "end" (.int s.stop.toNat))

def pack (r : TokenRecord) : Pack :=
  .map (Pack.field "kind" (.str r.kind) ++ Pack.textField? "text" r.text
    ++ Pack.field "span" (spanPack r.span) ++ Pack.natField? "line" r.line.toNat
    ++ Pack.natField? "col" r.col.toNat)

end TokenRecord

namespace Token

def jsonListing (rs : List TokenRecord) : Bytes := (Json.arr (rs.map TokenRecord.json)).document

def packListing (rs : List TokenRecord) : Bytes := (Pack.arr (rs.map TokenRecord.pack)).encode

end Token

end FrontEnd
