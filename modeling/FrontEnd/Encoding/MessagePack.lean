import FrontEnd.Bytes.Basic

/-!
Binary documents in the MessagePack format. Integers, and the lengths of texts, lists and maps,
are written in the shortest form; every form is read.
-/

namespace FrontEnd

inductive Pack where
  | nil
  | bool (b : Bool)
  | int (v : Int)
  /-- A floating-point number of four or eight octets, kept as read. -/
  | float (octets : Bytes)
  | str (s : Bytes)
  | bin (s : Bytes)
  | ext (tag : UInt8) (s : Bytes)
  | arr (items : List Pack)
  | map (fields : List (Pack × Pack))

namespace Pack

/-- A header octet and a big-endian number behind it. -/
def header (mark : UInt8) (width n : Nat) : Bytes := mark :: Bytes.bigEndian width n

def encodeNat (n : Nat) : Bytes :=
  if n < 128 then [n.toUInt8]
  else if n < 256 then header 0xCC 1 n
  else if n < 65536 then header 0xCD 2 n
  else if n < 4294967296 then header 0xCE 4 n
  else header 0xCF 8 n

/-- The two's complement of a negative number in `width` octets. -/
def complement (width : Nat) (n : Nat) : Nat := Nat.pow 256 width - n

def encodeInt : Int → Bytes
  | .ofNat n => encodeNat n
  | .negSucc k =>
    let n := k + 1
    if n ≤ 32 then [(256 - n).toUInt8]
    else if n ≤ 128 then header 0xD0 1 (complement 1 n)
    else if n ≤ 32768 then header 0xD1 2 (complement 2 n)
    else if n ≤ 2147483648 then header 0xD2 4 (complement 4 n)
    else header 0xD3 8 (complement 8 n)

def strHeader (n : Nat) : Bytes :=
  if n < 32 then [(0xA0 + n).toUInt8]
  else if n < 256 then header 0xD9 1 n
  else if n < 65536 then header 0xDA 2 n
  else header 0xDB 4 n

def binHeader (n : Nat) : Bytes :=
  if n < 256 then header 0xC4 1 n
  else if n < 65536 then header 0xC5 2 n
  else header 0xC6 4 n

def arrHeader (n : Nat) : Bytes :=
  if n < 16 then [(0x90 + n).toUInt8]
  else if n < 65536 then header 0xDC 2 n
  else header 0xDD 4 n

def mapHeader (n : Nat) : Bytes :=
  if n < 16 then [(0x80 + n).toUInt8]
  else if n < 65536 then header 0xDE 2 n
  else header 0xDF 4 n

def encodeStr (s : Bytes) : Bytes := strHeader s.length ++ s

def encode : Pack → Bytes
  | .nil => [0xC0]
  | .bool b => [if b then 0xC3 else 0xC2]
  | .int v => encodeInt v
  | .float octets => (if octets.length = 4 then 0xCA else 0xCB) :: octets
  | .str s => encodeStr s
  | .bin s => binHeader s.length ++ s
  | .ext tag s => header 0xC9 4 s.length ++ tag :: s
  | .arr items => arrHeader items.length ++ (items.map encode).flatten
  | .map fields => mapHeader fields.length
      ++ (fields.attach.map fun ⟨(k, v), _⟩ => encode k ++ encode v).flatten
termination_by p => sizeOf p
decreasing_by
  · simp_wf
    have := List.sizeOf_lt_of_mem ‹_ ∈ items›
    omega
  all_goals
    rename_i h
    have := List.sizeOf_lt_of_mem h
    simp_wf
    simp only [Prod.mk.sizeOf_spec] at this
    omega

/-- One field, ready to be followed by others. -/
def field (name : String) (v : Pack) : List (Pack × Pack) := [(.str name, v)]

/-- A field that is left out when its value is empty text. -/
def textField? (name : String) (s : Bytes) : List (Pack × Pack) :=
  if s.isEmpty then [] else field name (.str s)

/-- A field that is left out when its value is zero. -/
def natField? (name : String) (n : Nat) : List (Pack × Pack) :=
  if n = 0 then [] else field name (.int n)

/-- A field that is left out when it has no items. -/
def listField? (name : String) (items : List Pack) : List (Pack × Pack) :=
  if items.isEmpty then [] else field name (.arr items)

/-- The first `n` octets and the rest, when there are so many. -/
def take? (n : Nat) (s : Bytes) : Option (Bytes × Bytes) :=
  let part := s.take n
  if part.length = n then some (part, s.drop n) else none

/-- A big-endian number of `width` octets. -/
def word? (width : Nat) (s : Bytes) : Option (Nat × Bytes) :=
  (take? width s).map fun (b, r) => (Bytes.ofBigEndian b, r)

/-- A two's-complement number of `width` octets. -/
def signed? (width : Nat) (s : Bytes) : Option (Int × Bytes) :=
  (word? width s).map fun (n, r) => (Int.bmod n (Nat.pow 256 width), r)

/-- A length of `width` octets and so many octets behind it. -/
def counted? (width : Nat) (s : Bytes) : Option (Bytes × Bytes) :=
  match word? width s with
  | some (n, r) => take? n r
  | none => none

/-- A tag and `n` octets. -/
def tagged? (n : Nat) (s : Bytes) : Option (Pack × Bytes) :=
  match s with
  | tag :: r => (take? n r).map fun (b, r) => (.ext tag b, r)
  | [] => none

/-- What a first octet announces. -/
inductive Shape where
  | value (p : Pack) (rest : Bytes)
  | items (n : Nat) (rest : Bytes)
  | fields (n : Nat) (rest : Bytes)

/-- A document without parts behind its first octet `c`, or the number of its parts. -/
def shape? (c : UInt8) (s : Bytes) : Option Shape :=
  let n := c.toNat
  let val (o : Option (Pack × Bytes)) : Option Shape := o.map fun (p, r) => .value p r
  let nat (w : Nat) := val ((word? w s).map fun (n, r) => (.int n, r))
  let int (w : Nat) := val ((signed? w s).map fun (v, r) => (.int v, r))
  let str (w : Nat) := val ((counted? w s).map fun (b, r) => (.str b, r))
  let bin (w : Nat) := val ((counted? w s).map fun (b, r) => (.bin b, r))
  let ext (w : Nat) := val ((word? w s).bind fun (n, r) => tagged? n r)
  if n < 0x80 then some (.value (.int n) s)
  else if n < 0x90 then some (.fields (n - 0x80) s)
  else if n < 0xA0 then some (.items (n - 0x90) s)
  else if n < 0xC0 then val ((take? (n - 0xA0) s).map fun (b, r) => (.str b, r))
  else if n ≥ 0xE0 then some (.value (.int ((n : Int) - 256)) s)
  else match n with
    | 0xC0 => some (.value .nil s)
    | 0xC2 => some (.value (.bool false) s)
    | 0xC3 => some (.value (.bool true) s)
    | 0xC4 => bin 1
    | 0xC5 => bin 2
    | 0xC6 => bin 4
    | 0xC7 => ext 1
    | 0xC8 => ext 2
    | 0xC9 => ext 4
    | 0xCA => val ((take? 4 s).map fun (b, r) => (.float b, r))
    | 0xCB => val ((take? 8 s).map fun (b, r) => (.float b, r))
    | 0xCC => nat 1
    | 0xCD => nat 2
    | 0xCE => nat 4
    | 0xCF => nat 8
    | 0xD0 => int 1
    | 0xD1 => int 2
    | 0xD2 => int 4
    | 0xD3 => int 8
    | 0xD4 => val (tagged? 1 s)
    | 0xD5 => val (tagged? 2 s)
    | 0xD6 => val (tagged? 4 s)
    | 0xD7 => val (tagged? 8 s)
    | 0xD8 => val (tagged? 16 s)
    | 0xD9 => str 1
    | 0xDA => str 2
    | 0xDB => str 4
    | 0xDC => (word? 2 s).map fun (n, r) => .items n r
    | 0xDD => (word? 4 s).map fun (n, r) => .items n r
    | 0xDE => (word? 2 s).map fun (n, r) => .fields n r
    | 0xDF => (word? 4 s).map fun (n, r) => .fields n r
    | _ => none

mutual

/-- The document at the front, nested at most `depth` deep. -/
def decodeDeep (depth : Nat) (s : Bytes) : Option (Pack × Bytes) :=
  match depth, s with
  | 0, _ => none
  | _, [] => none
  | depth + 1, c :: r => match shape? c r with
    | none => none
    | some (.value p rest) => some (p, rest)
    | some (.items n rest) => (decodeItems depth n [] rest).map fun (ps, r) => (.arr ps, r)
    | some (.fields n rest) => (decodeFields depth n [] rest).map fun (ps, r) => (.map ps, r)
termination_by (depth, 0)

/-- The next `n` documents, `acc` reversed before them. -/
def decodeItems (depth n : Nat) (acc : List Pack) (s : Bytes) : Option (List Pack × Bytes) :=
  match n with
  | 0 => some (acc.reverse, s)
  | n + 1 => match decodeDeep depth s with
    | some (p, r) => decodeItems depth n (p :: acc) r
    | none => none
termination_by (depth, n + 1)

/-- The next `n` pairs of documents, `acc` reversed before them. -/
def decodeFields (depth n : Nat) (acc : List (Pack × Pack)) (s : Bytes) :
    Option (List (Pack × Pack) × Bytes) :=
  match n with
  | 0 => some (acc.reverse, s)
  | n + 1 => match decodeDeep depth s with
    | none => none
    | some (k, r) => match decodeDeep depth r with
      | some (v, r) => decodeFields depth n ((k, v) :: acc) r
      | none => none
termination_by (depth, n + 1)

end

/-- The document at the front of a text and what follows it. No document nests deeper than it has
octets. -/
def decode? (s : Bytes) : Option (Pack × Bytes) := decodeDeep (s.length + 1) s

/-- A document read as text: nil is the empty text. -/
def asText? : Pack → Option Bytes
  | .nil => some []
  | .str s => some s
  | .bin s => some s
  | _ => none

/-- A document read as an integer: nil is zero. -/
def asInt? : Pack → Option Int
  | .nil => some 0
  | .int v => some v
  | _ => none

/-- A document read as a list; nil is no list at all. -/
def asList? : Pack → Option (Option (List Pack))
  | .nil => some none
  | .arr items => some (some items)
  | _ => none

/-- The fields of a record with the given field names. A record is a map from names, or a list of
all its fields in order; nil and the empty list have no field. -/
def asRecord? (names : List Bytes) : Pack → Option (List (Bytes × Pack))
  | .nil => some []
  | .map fields => fields.mapM fun (k, v) => k.asText?.map (·, v)
  | .arr [] => some []
  | .arr items => if items.length = names.length then some (names.zip items) else none
  | _ => none

/-- Whether a document read as a record clears what was read of the record before it. -/
def clearsRecord : Pack → Bool
  | .nil => true
  | .arr [] => true
  | _ => false

/-- Reads a record onto what is there: its fields in order, those of other names skipped. -/
def readRecord? {α : Type} (names : List Bytes) (set : α → Bytes → Pack → Option α) (blank a : α)
    (p : Pack) : Option α := do
  let fields ← p.asRecord? names
  let start := if p.clearsRecord then blank else a
  fields.foldlM (fun a (k, v) => if k ∈ names then set a k v else some a) start

end Pack

end FrontEnd
