import FrontEnd.Disk
import FrontEnd.Encoding.MessagePack
import FrontEnd.Token.Basic

/-!
A cache of token streams on disk. A stream is stored under the digest of the content it was
scanned from, as kinds and offsets alone; the texts are cut out of the file when it is read back.
What does not fit the file is no stream of it and counts as a miss.
-/

namespace FrontEnd

/-- A token stream as it is stored. A list may be missing altogether. -/
structure StoredStream where
  schema : UInt16 := 0
  kinds : Option Bytes := none
  starts : Option (List UInt32) := none
  stops : Option (List UInt32) := none
  deriving DecidableEq, Repr

namespace StoredStream

/-- The schema in use. -/
def current : UInt16 := 1

def fieldNames : List Bytes := ["Schema", "Kinds", "Starts", "Ends"]

def ofTokens (ts : List Token) : StoredStream where
  schema := current
  kinds := some (ts.map (·.kind.code))
  starts := some (ts.map (·.span.start))
  stops := some (ts.map (·.span.stop))

/-- Offsets are written in four octets, whatever their size. -/
def encodeOffsets : Option (List UInt32) → Bytes
  | none => Pack.nil.encode
  | some os => Pack.arrHeader os.length ++ os.flatMap fun o => Pack.header 0xCE 4 o.toNat

def encode (s : StoredStream) : Bytes :=
  Pack.mapHeader 4
    ++ (Pack.encodeStr "Schema" ++ Pack.header 0xCD 2 s.schema.toNat)
    ++ (Pack.encodeStr "Kinds" ++ ((s.kinds.map Pack.bin).getD .nil).encode)
    ++ (Pack.encodeStr "Starts" ++ encodeOffsets s.starts)
    ++ (Pack.encodeStr "Ends" ++ encodeOffsets s.stops)

/-- A list of numbers, each modulo the size of a word. -/
def offsets? (p : Pack) : Option (Option (List UInt32)) :=
  match p.asList? with
  | none => none
  | some none => some none
  | some (some ps) => (ps.mapM Pack.asInt?).map fun vs => some (vs.map UInt32.ofInt)

/-- Reads one field; fields with other names are passed over. -/
def readField (s : StoredStream) (field : Bytes × Pack) : Option StoredStream :=
  let (name, p) := field
  if name = "Schema" then p.asInt?.map fun v => { s with schema := UInt16.ofInt v }
  else if name = "Kinds" then
    if let .nil := p then some { s with kinds := none }
    else p.asText?.map fun b => { s with kinds := some b }
  else if name = "Starts" then (offsets? p).map fun l => { s with starts := l }
  else if name = "Ends" then (offsets? p).map fun l => { s with stops := l }
  else some s

/-- Reads a stored stream; what follows it is not looked at. -/
def decode? (b : Bytes) : Option StoredStream := do
  let (p, _) ← Pack.decode? b
  let fields ← p.asRecord? fieldNames
  fields.foldlM readField {}

/-- The token that a kind and offsets stand for in a file with the given octets. -/
def token? (f : File) (octets : Array UInt8) (kind : UInt8) (start stop : UInt32) : Option Token :=
  if start ≤ stop ∧ stop ≤ f.size then
    some ⟨.ofCode kind, ⟨f.id, start, stop⟩, (octets.extract start.toNat stop.toNat).toList⟩
  else none

/-- The tokens of a file that stored lists stand for; the lists have one length. -/
def zipTokens (f : File) (octets : Array UInt8) (acc : List Token) :
    Bytes → List UInt32 → List UInt32 → Option (List Token)
  | k :: ks, s :: ss, e :: es => match token? f octets k s e with
    | some t => zipTokens f octets (t :: acc) ks ss es
    | none => none
  | [], [], [] => some acc.reverse
  | _, _, _ => none

/-- The tokens of a file, when the stored stream is one of it. -/
def tokens? (s : StoredStream) (f : File) : Option (List Token) :=
  if s.schema ≠ current then none
  else match zipTokens f f.content.toArray [] (s.kinds.getD []) (s.starts.getD [])
      (s.stops.getD []) with
    | none => none
    | some ts => if ts.getLast?.map Token.kind = some .eof then some ts else none

end StoredStream

structure TokenCache where
  dir : Bytes
  deriving DecidableEq, Repr

inductive CacheError where
  | refused (cause : Disk.Error)
  | unreadable (path : Bytes)
  /-- No directory was named, and the user has none. -/
  | homeless
  deriving DecidableEq, Repr

def CacheError.message : CacheError → Bytes
  | .refused cause => cause.message
  | .unreadable path => Bytes.ofString "decode " ++ path ++ ": not a token stream"
  | .homeless => "$HOME is not defined"

namespace TokenCache

/-- Opens the cache in a directory, which is made when it is missing. -/
def openAt (d : Disk) (dir : Bytes) : Except CacheError TokenCache × Disk :=
  match d.makeDirs dir with
  | (some e, d) => (.error (.refused e), d)
  | (none, d) => (.ok ⟨dir⟩, d)

/-- The directory for the caches of `app`, below the user's cache directory or else below `.cache`
in the user's home. -/
def userDir (cacheHome home app : Bytes) : Except CacheError Bytes :=
  if cacheHome ≠ [] then .ok (Path.join [cacheHome, app])
  else if home = [] then .error .homeless
  else .ok (Path.join [Path.join [home, ".cache"], app])

/-- Opens the user's cache for `app`. -/
def openFor (d : Disk) (cacheHome home app : Bytes) : Except CacheError TokenCache × Disk :=
  match userDir cacheHome home app with
  | .error e => (.error e, d)
  | .ok dir => openAt d dir

/-- Where the stream of a content with the given digest is stored. -/
def pathOf (c : TokenCache) (digest : Bytes) : Bytes :=
  Path.join [c.dir, "tokens", Bytes.hex digest ++ ".mp"]

/-- Stores a stream in the place of what was there. -/
def store (c : TokenCache) (d : Disk) (digest : Bytes) (s : StoredStream) :
    Except CacheError Disk :=
  let path := c.pathOf digest
  match d.makeDirs (Path.dir path) with
  | (some e, _) => .error (.refused e)
  | (none, d) => (d.replaceFile path s.encode).mapError .refused

def put (c : TokenCache) (d : Disk) (digest : Bytes) (ts : List Token) : Except CacheError Disk :=
  c.store d digest (.ofTokens ts)

/-- The stream stored for a file, if there is one that fits it. -/
def get (c : TokenCache) (d : Disk) (f : File) : Except CacheError (Option (List Token)) :=
  let path := c.pathOf f.digest
  match d.read path with
  | .error e =>
    if e.fault = .notExist then .ok none
    else if e.fault = .isDir then .error (.unreadable path)
    else .error (.refused e)
  | .ok b => match StoredStream.decode? b with
    | none => .error (.unreadable path)
    | some s => .ok (s.tokens? f)

/-- Empties the cache. One whose directory is gone is left alone. -/
def clear (c : TokenCache) (d : Disk) : Except CacheError Disk :=
  match d.get c.dir with
  | .error .notExist => .ok d
  | .error f => .error (.refused ⟨"rename", c.dir, f⟩)
  | .ok _ => match (d.removeAll c.dir).makeDirs c.dir with
    | (some e, _) => .error (.refused e)
    | (none, d) => .ok d

end TokenCache

end FrontEnd
