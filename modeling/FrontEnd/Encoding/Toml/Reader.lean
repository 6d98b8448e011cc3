import FrontEnd.Encoding.Toml.Document

/-!
Reading TOML documents. A document is a sequence of lines: table headers, and keys with values.
Only arrays and strings of several lines go over line ends.
-/

namespace FrontEnd.Toml

/-- A document being read, and the characters still to be read. -/
structure Reader where
  document : Document := {}
  rest : List Char

/-- The characters of a document: no control characters but tabs and line ends, and nothing that
stands for a broken character. -/
def admissible : List Char → Bool
  | [] => true
  | '\r' :: '\n' :: r => admissible r
  | c :: r =>
    (c == '\t' || c == '\n' || (32 ≤ c.toNat && c.toNat != 127 && c.toNat != 0xFFFD))
      && admissible r

def chars? (s : Bytes) : Option (List Char) :=
  (Utf8.items s).mapM fun
    | .char c => some c
    | .octet _ => none

/-- Marks of the order of octets are not part of the document. -/
def dropMark : Bytes → Bytes
  | 0xFF :: 0xFE :: r => r
  | 0xFE :: 0xFF :: r => r
  | 0xEF :: 0xBB :: 0xBF :: r => r
  | s => s

def dropBlanks (s : List Char) : List Char := s.dropWhile isBlank

def dropComment (s : List Char) : List Char := s.dropWhile (!isLineEnd ·)

/-- Passes blanks, line ends and comments. -/
def dropSpace (s : List Char) : List Char :=
  match s with
  | [] => []
  | c :: r =>
    if isBlank c || isLineEnd c then dropSpace r
    else if c = '#' then dropSpace (dropComment r)
    else s
termination_by s.length
decreasing_by
  · simp
  · have := (List.dropWhile_sublist (fun c => !isLineEnd c) (l := r)).length_le
    simp only [dropComment, List.length_cons]
    omega

/-- A name of a key: bare or in quotes. -/
def name? (s : List Char) : Option (Bytes × List Char) :=
  match s with
  | '"' :: _ | '\'' :: _ => (line? s).map fun (t, r) => (bytesOf t, r)
  | s =>
    let bare := s.takeWhile isBare
    if bare = [] then none else some (bytesOf bare, s.drop bare.length)

/-- Names with points between them, at most `fuel` of them. -/
def key? : Nat → Key → List Char → Option (Key × List Char)
  | 0, _, _ => none
  | fuel + 1, acc, s => do
    let (n, r) ← name? (dropBlanks s)
    match dropBlanks r with
    | '.' :: r => key? fuel (n :: acc) r
    | r => some ((n :: acc).reverse, r)

mutual

/-- The value at the front, to be given to a name of the open table. -/
def value? : Nat → Bool → Bytes → Reader → Option (Content × Reader)
  | 0, _, _, _ => none
  | fuel + 1, inArray, name, ⟨d, s⟩ => match dropBlanks s with
    | '[' :: r => (items? fuel name ⟨d.noteArray name true, r⟩).map (⟨.value .array, {}⟩, ·)
    | '\x7b' :: r => do
      let inner := d.context ++ [name]
      let implied := d.imply inner
      let opened ← if inArray then implied.openNext inner else implied.openTable inner
      let (c, rd) ← fields? fuel .blank ⟨opened, r⟩
      some (c, { rd with document := { rd.document with context := d.context } })
    | s => (scalar? s).map fun (v, r) => (⟨.value v, {}⟩, ⟨d, r⟩)

/-- The items of an array up to its end. -/
def items? : Nat → Bytes → Reader → Option Reader
  | 0, _, _ => none
  | fuel + 1, name, ⟨d, s⟩ => match dropSpace s with
    | ']' :: r => some ⟨d, r⟩
    | s => match value? fuel true name ⟨d, s⟩ with
      | none => none
      | some (_, ⟨d, r⟩) => match dropSpace r with
        | ',' :: r => items? fuel name ⟨d, r⟩
        | ']' :: r => some ⟨d, r⟩
        | _ => none

/-- The fields of an inline table up to its end; there is no comma before the end. Its content has
each field under the last name of its key. -/
def fields? : Nat → Content → Reader → Option (Content × Reader)
  | 0, _, _ => none
  | fuel + 1, c, ⟨d, s⟩ => match dropBlanks s with
    | '\x7d' :: r => some (c, ⟨d, r⟩)
    | s => match field? fuel ⟨d, s⟩ with
      | none => none
      | some (name, content, ⟨d, r⟩) =>
        let c := c.put name content
        match dropBlanks r with
        | '\x7d' :: r => some (c, ⟨d, r⟩)
        | ',' :: r => if (dropBlanks r).head? = some '\x7d' then none else fields? fuel c ⟨d, r⟩
        | _ => none

/-- A key of the open table and its value: the last name of the key and what it is given. Tables on
the way are implied by the key. -/
def field? : Nat → Reader → Option (Bytes × Content × Reader)
  | 0, _ => none
  | fuel + 1, ⟨d, s⟩ => do
    let base := d.context
    let (k, r) ← key? s.length [] s
    let d ← k.dropLast.foldlM (fun d n =>
      let lead := d.context ++ [n]
      (d.imply lead).openTable lead) d
    let name := k.getLastD []
    let d := d.write (d.context ++ [name])
    match r with
    | '=' :: r =>
      let (c, ⟨d, r⟩) ← value? fuel false name ⟨d, r⟩
      let d ← d.define name c
      some (name, c, ⟨{ d with context := base }, r⟩)
    | _ => none

end

/-- A table header, from behind its first bracket. -/
def header? (rd : Reader) : Option Reader :=
  let single (s : List Char) : Option Reader := do
    let (k, r) ← key? s.length [] s
    let d ← rd.document.openTable k
    some ⟨(d.noteArray [] false).write k, ← behind? ']' r⟩
  match rd.rest with
  | '[' :: s => do
    let (k, r) ← key? s.length [] s
    let d ← rd.document.openNext k
    some ⟨(d.noteArray [] false).write k, ← behind? ']' (← behind? ']' r)⟩
  | s => single s

/-- Nothing but blanks and a comment may follow on the line. -/
def lineEnd? (s : List Char) : Option (List Char) :=
  match dropBlanks s with
  | [] => some []
  | c :: r => if c = '#' then some (dropComment r) else if isLineEnd c then some r else none

/-- Lines up to the end, at most `fuel` of them. -/
def lines? : Nat → Reader → Option Document
  | 0, _ => none
  | fuel + 1, ⟨d, s⟩ => match dropSpace s with
    | [] => some d
    | '[' :: r => do
      let ⟨d, r⟩ ← header? ⟨d, r⟩
      lines? fuel ⟨d, ← lineEnd? r⟩
    | s => do
      let (_, _, ⟨d, r⟩) ← field? (s.length + 2) ⟨d, s⟩
      lines? fuel ⟨d, ← lineEnd? r⟩

/-- The document that a text is. Every line has a character of its own, and so has everything that
is nested in a value. -/
def read? (s : Bytes) : Option Document := do
  let cs ← chars? (dropMark s)
  if admissible cs then lines? (cs.length + 1) ⟨{}, cs⟩ else none

end FrontEnd.Toml
