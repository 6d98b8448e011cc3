import FrontEnd.Encoding.Toml.Scalar
import FrontEnd.Table

/-!
TOML documents. A document is known by the keys that are defined in it, each with all the names
that lead to it. A table may be implied by a longer key and written out once afterwards; anything
else is defined once, except that an array gives way to what is defined under its key later.
-/

namespace FrontEnd.Toml

/-- The names that lead to a definition, from the top of the document. -/
abbrev Key := List Bytes

namespace Key

/-- The escape of a character of a quoted name. -/
def escape (c : Char) : Bytes :=
  match c.toNat with
  | 8 => "\\b"
  | 9 => "\\t"
  | 10 => "\\n"
  | 12 => "\\f"
  | 13 => "\\r"
  | 34 => "\\\""
  | 92 => "\\\\"
  | n => if n < 32 ∨ n = 127 then Bytes.ofString "\\u" ++ Bytes.hexPadded 4 n else Utf8.encode c

/-- A name as it is written in a key: quoted unless it is bare. -/
def spellName (name : Bytes) : Bytes :=
  let cs := (Utf8.items name).map Utf8.Item.shown
  if cs ≠ [] ∧ cs.all isBare then name else 34 :: cs.flatMap escape ++ [34]

def spell (k : Key) : Bytes := Bytes.join "." (k.map spellName)

end Key

inductive Item where
  | value (v : Value)
  | table
  /-- An array of tables, the last of which is open. -/
  | tables

def Item.isTable : Item → Bool
  | .value _ => false
  | .table | .tables => true

def Item.isArray : Item → Bool
  | .value .array => true
  | _ => false

/-- What a key is given: an item, and the fields of a table with all that is below them. -/
structure Content where
  item : Item
  fields : Table Key Item := {}

namespace Content

/-- The table with no fields. -/
def blank : Content := ⟨.table, {}⟩

/-- Gives a field of a table its content. -/
def put (c : Content) (name : Bytes) (field : Content) : Content :=
  let others := c.fields.entries.filter fun (k, _) => !([name].isPrefixOf k)
  let below := field.fields.entries.map fun (k, i) => (name :: k, i)
  { c with fields := ⟨([name], field.item) :: below ++ others⟩ }

end Content

structure Document where
  items : Table Key Item := {}
  /-- The keys in the order they were written, the last in front. -/
  written : List Key := []
  /-- Tables that were implied and not written out yet. -/
  implied : List Key := []
  /-- The keys that an array was given for last. -/
  arrays : List Key := []
  /-- The table that is open. -/
  context : Key := []

namespace Document

def imply (d : Document) (k : Key) : Document := { d with implied := k :: d.implied }

def unimply (d : Document) (k : Key) : Document :=
  { d with implied := d.implied.filter (· ≠ k) }

/-- Binds a key; what was below it is gone. -/
def bind (d : Document) (k : Key) (i : Item) : Document :=
  let others := d.items.entries.filter fun (j, _) => !(k.isPrefixOf j)
  { d with items := ⟨(k, i) :: others⟩ }

/-- Notes what was given for a name of the open table last. -/
def noteArray (d : Document) (name : Bytes) (array : Bool) : Document :=
  let k := if name = [] then d.context else d.context ++ [name]
  let k := if k = [] then [[]] else k
  let others := d.arrays.filter (· ≠ k)
  { d with arrays := if array then k :: others else others }

/-- Whether all tables that lead to a key are there. -/
def leads (d : Document) (k : Key) : Bool :=
  (List.range k.length).all fun i => (d.items.get? (k.take (i + 1))).any Item.isTable

/-- Gives a name of a table an item. -/
def give (d : Document) (table : Key) (name : Bytes) (i : Item) : Option Document :=
  let k := table ++ [name]
  if !d.leads table then none
  else match d.items.get? k with
    | none => some (d.bind k i)
    | some _ =>
      if d.arrays.contains k then some ((d.unimply k).bind k i)
      else if d.implied.contains k then some (d.unimply k)
      else none

/-- Makes the tables above a key, as far as they are missing. -/
def above (d : Document) (k : Key) : Option Document :=
  (List.range (k.length - 1)).foldlM (fun d i =>
    let lead := k.take (i + 1)
    match d.items.get? lead with
    | none => some ((d.imply lead).bind lead .table)
    | some i => if i.isTable then some d else none) d

/-- Opens the table with a key. -/
def openTable (d : Document) (k : Key) : Option Document := do
  let d ← d.above k
  let d ← d.give k.dropLast (k.getLastD []) .table
  return { d with context := k }

/-- Opens one more table of the array with a key. -/
def openNext (d : Document) (k : Key) : Option Document := do
  let d ← d.above k
  match d.items.get? k with
  | none | some .tables => some { d.bind k .tables with context := k }
  | _ => none

/-- Binds a key to all of a content. -/
def bindAll (d : Document) (k : Key) (c : Content) : Document :=
  let d := d.bind k c.item
  let below := c.fields.entries.map fun (j, i) => (k ++ j, i)
  { d with items := ⟨below ++ d.items.entries⟩ }

/-- Gives a name of the open table a value, or ends an inline table. An inline table keeps what was
put into it, unless it takes the place of an array: then it has the content given. -/
def define (d : Document) (name : Bytes) (c : Content) : Option Document :=
  let k := d.context ++ [name]
  let given : Option Document :=
    if c.item.isTable && d.arrays.contains k then some ((d.unimply k).bindAll k c)
    else d.give d.context name c.item
  given.map (·.noteArray name c.item.isArray)

/-- Notes that a key was written. -/
def write (d : Document) (k : Key) : Document := { d with written := k :: d.written }

/-- The keys in the order they were written. -/
def keys (d : Document) : List Key := d.written.reverse

end Document

end FrontEnd.Toml
