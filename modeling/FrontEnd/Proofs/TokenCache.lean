import FrontEnd.Proofs.Disk
import FrontEnd.Proofs.LineBreak
import FrontEnd.Proofs.MessagePack
import FrontEnd.Workspace.Cache

/-!
What the cache of token streams gives back. A stored stream is decoded as it was encoded, and stands
where the digest says and nowhere else; so a stream that was put is found for every file with the
same content, with its kinds and offsets. The texts are cut anew, which is what they were except for
literals: those come back with their quotes.
-/
namespace FrontEnd

theorem ok_of_toOption {ε α : Type} {x : Except ε α} {a : α} (h : x.toOption = some a) :
    x = .ok a := by
  cases x with
  | error e => cases h
  | ok b => cases h; rfl

namespace StoredStream

theorem mapM_asInt? (os : List UInt32) :
    (os.map fun o => Pack.int o.toNat).mapM Pack.asInt? =
      some (os.map fun o => (o.toNat : Int)) := by
  induction os with
  | nil => rfl
  | cons o os ih =>
    rw [List.map_cons, List.mapM_cons, ih]
    rfl

/-- A list of offsets as a document. -/
def offsetsPack : Option (List UInt32) → Pack
  | none => .nil
  | some os => .arr (os.map fun o => .int o.toNat)

theorem offsets?_pack (os : Option (List UInt32)) : offsets? (offsetsPack os) = some os := by
  cases os with
  | none => rfl
  | some os =>
    simp only [offsets?, offsetsPack, Pack.asList?, mapM_asInt?, Option.map_some, List.map_map]
    congr 2
    have hid : ∀ o ∈ os, (UInt32.ofInt ∘ fun o : UInt32 => (o.toNat : Int)) o = id o :=
      fun o _ => Pack.ofInt_word o
    rw [List.map_congr_left hid, List.map_id]

theorem reads_offsets {os : Option (List UInt32)} (h : ∀ l ∈ os, l.length < 4294967296)
    (depth : Nat) :
    Pack.Reads (depth + 2) (encodeOffsets os) (offsetsPack os) := by
  cases os with
  | none => exact Pack.reads_nil _
  | some os => exact Pack.reads_arr (fun o _ => Pack.reads_word o.toNat_lt depth) (h os rfl)

theorem reads_kinds {ks : Option Bytes} (h : ∀ l ∈ ks, l.length < 4294967296) (depth : Nat) :
    Pack.Reads (depth + 1) ((ks.map Pack.bin).getD .nil).encode ((ks.map Pack.bin).getD .nil) := by
  cases ks with
  | none => exact Pack.reads_nil _
  | some ks => exact Pack.reads_bin (h ks rfl) depth

/-- A stored stream whose lists are short enough for their lengths to be written. -/
structure Short (s : StoredStream) : Prop where
  kinds : ∀ l ∈ s.kinds, l.length < 4294967296
  starts : ∀ l ∈ s.starts, l.length < 4294967296
  stops : ∀ l ∈ s.stops, l.length < 4294967296

/-- A stored stream as a document. -/
def pack (s : StoredStream) : Pack :=
  .map [(.str "Schema", .int s.schema.toNat), (.str "Kinds", (s.kinds.map Pack.bin).getD .nil),
    (.str "Starts", offsetsPack s.starts), (.str "Ends", offsetsPack s.stops)]

theorem reads_encode {s : StoredStream} (h : s.Short) (depth : Nat) :
    Pack.Reads (depth + 3) s.encode s.pack := by
  intro rest
  have hname {n : Bytes} (hn : n.length < 32) := Pack.reads_str hn (depth + 1)
  have hschema : Pack.Reads (depth + 2) (Pack.header 0xCD 2 s.schema.toNat) (.int s.schema.toNat) :=
    Pack.reads_short s.schema.toNat_lt _
  have henc :
      s.encode ++ rest = 0x84 :: (Pack.encodeStr "Schema" ++ (Pack.header 0xCD 2 s.schema.toNat ++
      (Pack.encodeStr "Kinds" ++ (((s.kinds.map Pack.bin).getD .nil).encode ++
      (Pack.encodeStr "Starts" ++ (encodeOffsets s.starts ++
      (Pack.encodeStr "Ends" ++ (encodeOffsets s.stops ++ rest)))))))) := by
    simp only [encode, List.append_assoc]
    rfl
  have hshape (t : Bytes) : Pack.shape? 0x84 t = some (.fields 4 t) := rfl
  rw [henc, Pack.decodeDeep, hshape]
  simp only
  rw [Pack.decodeFields_cons (hname (by decide)) hschema,
    Pack.decodeFields_cons (hname (by decide)) (reads_kinds h.kinds _),
    Pack.decodeFields_cons (hname (by decide)) (reads_offsets h.starts _),
    Pack.decodeFields_cons (hname (by decide)) (reads_offsets h.stops _), Pack.decodeFields]
  rfl

theorem readField_schema (s : StoredStream) (n : UInt16) :
    readField s ("Schema", .int n.toNat) = some { s with schema := n } := by
  simp only [readField, if_true, Pack.asInt?, Option.map_some, Pack.ofInt_half]

theorem readField_kinds (s : StoredStream) (ks : Option Bytes) :
    readField s ("Kinds", (ks.map Pack.bin).getD .nil) = some { s with kinds := ks } := by
  have hname : Bytes.ofString "Kinds" ≠ Bytes.ofString "Schema" := by decide
  cases ks <;> simp only [readField, hname, if_false, if_true] <;> rfl

theorem readField_starts (s : StoredStream) (os : Option (List UInt32)) :
    readField s ("Starts", offsetsPack os) = some { s with starts := os } := by
  have h₁ : Bytes.ofString "Starts" ≠ Bytes.ofString "Schema" := by decide
  have h₂ : Bytes.ofString "Starts" ≠ Bytes.ofString "Kinds" := by decide
  simp only [readField, h₁, h₂, if_false, if_true, offsets?_pack, Option.map_some]

theorem readField_stops (s : StoredStream) (os : Option (List UInt32)) :
    readField s ("Ends", offsetsPack os) = some { s with stops := os } := by
  have h₁ : Bytes.ofString "Ends" ≠ Bytes.ofString "Schema" := by decide
  have h₂ : Bytes.ofString "Ends" ≠ Bytes.ofString "Kinds" := by decide
  have h₃ : Bytes.ofString "Ends" ≠ Bytes.ofString "Starts" := by decide
  simp only [readField, h₁, h₂, h₃, if_false, if_true, offsets?_pack, Option.map_some]

/-- A stored stream is decoded as it was encoded. -/
theorem decode?_encode {s : StoredStream} (h : s.Short) : decode? s.encode = some s := by
  have hlen : s.encode.length + 1 = s.encode.length - 2 + 3 := by
    have hschema : (Bytes.ofString "Schema").length = 6 := by decide
    simp only [encode, List.length_append, Pack.encodeStr]
    omega
  have hread := reads_encode h (s.encode.length - 2) []
  rw [← hlen, List.append_nil] at hread
  rw [decode?, Pack.decode?, hread]
  change List.foldlM readField {} [(Bytes.ofString "Schema", Pack.int s.schema.toNat),
    (Bytes.ofString "Kinds", (s.kinds.map Pack.bin).getD .nil),
    (Bytes.ofString "Starts", offsetsPack s.starts),
    (Bytes.ofString "Ends", offsetsPack s.stops)] = some s
  simp only [List.foldlM_cons, readField_schema, readField_kinds, readField_starts, readField_stops,
    Option.bind_eq_bind, Option.bind_some, List.foldlM_nil]
  rfl

end StoredStream

/-- A token of a file as it is cut out of a file with the same content. -/
def Token.cutFrom (f : File) (t : Token) : Token :=
  ⟨t.kind, ⟨f.id, t.span.start, t.span.stop⟩, f.cut t.span.start.toNat t.span.stop.toNat⟩

namespace StoredStream

theorem token?_eq {f : File} {t : Token} (hcoded : Kind.ofCode t.kind.code = t.kind)
    (hspan : t.span.start ≤ t.span.stop ∧ t.span.stop ≤ f.size) :
    token? f f.content.toArray t.kind.code t.span.start t.span.stop = some (t.cutFrom f) := by
  rw [token?, if_pos hspan, hcoded]
  simp only [Token.cutFrom, File.cut, List.extract_toArray, List.toList_toArray,
    List.extract_eq_take_drop]

theorem zipTokens_eq {f : File} {ts : List Token}
    (h : ∀ t ∈ ts,
      Kind.ofCode t.kind.code = t.kind ∧ t.span.start ≤ t.span.stop ∧ t.span.stop ≤ f.size)
    (acc : List Token) :
    zipTokens f f.content.toArray acc (ts.map (·.kind.code)) (ts.map (·.span.start))
      (ts.map (·.span.stop)) =
      some (acc.reverse ++ ts.map (Token.cutFrom f)) := by
  induction ts generalizing acc with
  | nil => simp [zipTokens]
  | cons t ts ih =>
    obtain ⟨hcoded, hspan⟩ := h t (by simp)
    simp only [List.map_cons, zipTokens, token?_eq hcoded hspan]
    rw [ih fun u hu => h u (by simp [hu])]
    simp

end StoredStream

namespace File

variable {f g : File}

theorem length_stream_lt (f : File) : f.stream.length < 4294967296 := by
  have hle := Reading.length_ofText 0 f.content
  have hfits := f.fits
  unfold FitsOffsets at hfits
  simp only [stream, Reading.tokens, List.length_append, List.length_map, List.length_cons,
    List.length_nil]
  unfold reading
  omega

theorem stream_coded (f : File) : ∀ t ∈ f.stream, Kind.ofCode t.kind.code = t.kind := by
  intro t ht
  rcases List.mem_append.mp ht with ht | ht
  · obtain ⟨p, hp, rfl⟩ := List.mem_map.mp ht
    exact (f.reading_within.fronts p hp).kind_coded
  · rw [List.mem_singleton.mp ht]
    rfl

/-- The text of a token is what is cut out for it, unless it is a literal between quotes. -/
theorem stream_text (f : File) : ∀ t ∈ f.stream,
    (f.cut t.span.start.toNat t.span.stop.toNat = t.text ↔
      t.kind ≠ .stringLit ∧ t.kind ≠ .charLit) := by
  intro t ht
  rcases List.mem_append.mp ht with ht | ht
  · obtain ⟨p, hp, rfl⟩ := List.mem_map.mp ht
    have hcovers := f.token_covers hp
    rw [eq_comm, Token.textOf_eq_iff hcovers.text]
    cases (p.token f.id).kind <;> simp [Token.delimiter?]
  · rw [List.mem_singleton.mp ht]
    simp [File.cut]

end File

namespace StoredStream

theorem ofTokens_short (f : File) : (ofTokens f.stream).Short := by
  have hlt := f.length_stream_lt
  constructor <;> simpa [ofTokens] using hlt

/-- The stored stream of a file gives the tokens of every file with the same content. -/
theorem tokens?_ofTokens {f g : File} (hcontent : g.content = f.content) :
    (ofTokens f.stream).tokens? g = some (f.stream.map (Token.cutFrom g)) := by
  have hsize : g.size = f.size := by rw [File.size, hcontent]; rfl
  have hstream := f.stream_isStream
  have hzip := zipTokens_eq (f := g) (fun t ht =>
    ⟨f.stream_coded t ht, (hstream.within t ht).2.1, hsize ▸ (hstream.within t ht).2.2⟩) []
  have hlast : (f.stream.map (Token.cutFrom g)).getLast?.map Token.kind = some .eof := by
    obtain ⟨body, last, hts, hkind, -⟩ := hstream.ended
    simp [hts, Token.cutFrom, hkind]
  rw [tokens?, if_neg (by simp [ofTokens])]
  simp only [ofTokens, Option.getD_some, hzip, List.reverse_nil, List.nil_append, hlast, if_true]

end StoredStream

namespace TokenCache

variable {c : TokenCache} {d d' : Disk} {f g : File}

/-- Putting makes directories and then moves the entry to its path. -/
theorem put_eq {digest : Bytes} {ts : List Token} (h : c.put d digest ts = .ok d') :
    ∃ d₁, Disk.NoNewFile d d₁ ∧
      d₁.replaceFile (c.pathOf digest) (StoredStream.ofTokens ts).encode = .ok d' := by
  unfold put store at h
  have hdirs := d.makeDirs_noNewFile (Path.dir (c.pathOf digest))
  cases hm : d.makeDirs (Path.dir (c.pathOf digest)) with
  | mk e d₁ =>
    dsimp only at h
    rw [hm] at h hdirs
    cases e with
    | some e => cases h
    | none =>
      refine ⟨d₁, hdirs, ?_⟩
      simp only at h
      cases hr : d₁.replaceFile (c.pathOf digest) (StoredStream.ofTokens ts).encode with
      | error e => rw [hr] at h; cases h
      | ok d₂ => rw [hr] at h; cases h; rfl

/-- An entry that is read back gives the tokens of every file with the same content. -/
theorem get_of_read (hcontent : g.content = f.content)
    (hread : d.read (c.pathOf g.digest) = .ok (StoredStream.ofTokens f.stream).encode) :
    c.get d g = .ok (some (f.stream.map (Token.cutFrom g))) := by
  simp only [get, hread, StoredStream.decode?_encode (StoredStream.ofTokens_short f),
    StoredStream.tokens?_ofTokens hcontent]

/-- What was put for a file is found for every file with the same content. -/
theorem get_put (hcontent : g.content = f.content) (hdigest : g.digest = f.digest)
    (hput : c.put d f.digest f.stream = .ok d') :
    c.get d' g = .ok (some (f.stream.map (Token.cutFrom g))) := by
  obtain ⟨d₁, -, hmove⟩ := put_eq hput
  exact get_of_read hcontent (hdigest ▸ Disk.read_replaceFile hmove)

theorem text_cutFrom (hcontent : g.content = f.content) {t : Token} (ht : t ∈ f.stream) :
    (t.cutFrom g).text = t.text ↔ t.kind ≠ .stringLit ∧ t.kind ≠ .charLit := by
  have hcut : (t.cutFrom g).text = f.cut t.span.start.toNat t.span.stop.toNat := by
    simp only [Token.cutFrom, File.cut, hcontent]
  rw [hcut]
  exact f.stream_text t ht

/-- What was put for a file, whatever is wrong with it, is found for every file with the same
content, with the same kinds and offsets, and with the octets that the spans cover as texts. These
are the texts that were scanned exactly when there is no string and no character among the
tokens. -/
theorem get_put_texts {ts : List Token} {ds : List Diagnostic} (hcontent : g.content = f.content)
    (hf : f.digest = Sha256.digest f.content) (hg : g.digest = Sha256.digest g.content)
    (hscan : f.scan = .ok (ts, ds)) (hput : c.put d f.digest ts = .ok d') :
    ∃ ts', c.get d' g = .ok (some ts') ∧ ts'.map Token.kind = ts.map Token.kind ∧
      ts'.map (fun t => (t.span.start, t.span.stop)) =
        ts.map (fun t => (t.span.start, t.span.stop)) ∧
      ts'.map Token.text = ts.map (fun t => f.cut t.span.start.toNat t.span.stop.toNat) ∧
      (ts'.map Token.text = ts.map Token.text ↔
        ∀ t ∈ ts, t.kind ≠ .stringLit ∧ t.kind ≠ .charLit) := by
  have hdigest : g.digest = f.digest := by rw [hg, hf, hcontent]
  obtain ⟨rfl, rfl⟩ : f.stream = ts ∧ f.faults = ds := by
    rw [f.scan_eq] at hscan
    cases hscan
    exact ⟨rfl, rfl⟩
  refine ⟨_, get_put hcontent hdigest hput, ?_, ?_, ?_, ?_⟩
  · rw [List.map_map]
    rfl
  · rw [List.map_map]
    rfl
  · rw [List.map_map]
    refine List.map_congr_left fun t _ => ?_
    simp only [Function.comp, Token.cutFrom, File.cut, hcontent]
  · rw [List.map_map, List.map_inj_left]
    exact forall₂_congr fun t ht => text_cutFrom hcontent ht

/-- A file that holds a string and nothing else, and a disk with nothing on it. -/
theorem get_put_texts_string :
    let f := File.make 1 "a.kj" (Bytes.ofString "\"hi\"") 0 (by decide)
    let g := File.make 2 "b.kj" (Bytes.ofString "\"hi\"") 0 (by decide)
    let c : TokenCache := ⟨"cache"⟩
    let d : Disk := ⟨.dir [], []⟩
    ∃ ts d', g.content = f.content ∧ f.digest = Sha256.digest f.content ∧
      g.digest = Sha256.digest g.content ∧ f.scan = .ok (ts, []) ∧ c.put d f.digest ts = .ok d' ∧
      ∃ ts', c.get d' g = .ok (some ts') ∧ ts'.map Token.kind = ts.map Token.kind ∧
        ts'.map (fun t => (t.span.start, t.span.stop)) =
          ts.map (fun t => (t.span.start, t.span.stop)) ∧
        ts'.map Token.text = ts.map (fun t => f.cut t.span.start.toNat t.span.stop.toNat) ∧
        (ts'.map Token.text = ts.map Token.text ↔
          ∀ t ∈ ts, t.kind ≠ .stringLit ∧ t.kind ≠ .charLit) := by
  intro f g c d
  have hscan :
      f.scan = .ok ([⟨.stringLit, ⟨1, 0, 4⟩, Bytes.ofString "hi"⟩, ⟨.eof, ⟨1, 4, 4⟩, []⟩], []) :=
    ok_of_toOption (by decide +kernel)
  obtain ⟨d', hd'⟩ : ∃ d', (c.put d f.digest
      [⟨.stringLit, ⟨1, 0, 4⟩, Bytes.ofString "hi"⟩, ⟨.eof, ⟨1, 4, 4⟩, []⟩]).toOption = some d' :=
    Option.isSome_iff_exists.mp (by decide +kernel)
  have hput := ok_of_toOption hd'
  exact ⟨_, d', rfl, rfl, rfl, hscan, hput, get_put_texts rfl rfl rfl hscan hput⟩

/-- The string that was put comes back with its quotes. -/
theorem get_put_ne :
    let f := File.make 1 "a.kj" (Bytes.ofString "\"hi\"") 0 (by decide)
    let c : TokenCache := ⟨"cache"⟩
    let d : Disk := ⟨.dir [], []⟩
    ∃ ts d' ts', f.scan = .ok (ts, []) ∧ c.put d f.digest ts = .ok d' ∧
      c.get d' f = .ok (some ts') ∧
      ts.map Token.text = [Bytes.ofString "hi", []] ∧
      ts'.map Token.text = [Bytes.ofString "\"hi\"", []] := by
  intro f c d
  have hstream :
      f.stream = [⟨.stringLit, ⟨1, 0, 4⟩, Bytes.ofString "hi"⟩, ⟨.eof, ⟨1, 4, 4⟩, []⟩] := by
    decide +kernel
  have hfaults : f.faults = [] := by decide +kernel
  obtain ⟨d', hd'⟩ : ∃ d', (c.put d f.digest f.stream).toOption = some d' :=
    Option.isSome_iff_exists.mp (by decide +kernel)
  have hput := ok_of_toOption hd'
  refine ⟨f.stream, d', f.stream.map (Token.cutFrom f), by rw [f.scan_eq, hfaults], hput,
    get_put rfl rfl hput, ?_, ?_⟩
  · rw [hstream]
    rfl
  · rw [hstream]
    decide +kernel

end TokenCache

end FrontEnd
