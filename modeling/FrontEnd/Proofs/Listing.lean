import FrontEnd.Proofs.Outcomes
import FrontEnd.Proofs.Records
import FrontEnd.Proofs.Versions
import FrontEnd.Report.Tokens

/-!
Listings of tokens as MessagePack documents. A record names only the fields that hold something, and
each is read onto a blank record, so what was left out is read as it was. A listing is read back as
long as its length can be written, and whether it can or not, no other listing has the same octets.
-/
namespace FrontEnd

open Pack (Short Sets FieldsFit)

namespace TokenRecord

/-- What a record is before any of its fields is read. -/
def blank : TokenRecord := ⟨[], [], ⟨0, 0, 0⟩, 0, 0⟩

/-- A number of 32 bits, which are the lowest ones of what is there. -/
def readWord? (p : Pack) : Option UInt32 := p.asInt?.map UInt32.ofInt

def readSpan? : Span → Pack → Option Span :=
  Pack.readRecord? ["file", "start", "end"] (fun s k v => do
    if k = "file" then return { s with file := ← readWord? v }
    else if k = "start" then return { s with start := ← readWord? v }
    else return { s with stop := ← readWord? v }) ⟨0, 0, 0⟩

def read? : TokenRecord → Pack → Option TokenRecord :=
  Pack.readRecord? ["kind", "text", "span", "line", "col"] (fun r k v => do
    if k = "kind" then return { r with kind := ← v.asText? }
    else if k = "text" then return { r with text := ← v.asText? }
    else if k = "span" then return { r with span := ← readSpan? r.span v }
    else if k = "line" then return { r with line := ← readWord? v }
    else return { r with col := ← readWord? v }) blank

theorem readWord?_int (n : UInt32) : readWord? (.int n.toNat) = some n := by
  rw [readWord?, Pack.asInt?, Option.map_some, Pack.ofInt_word]

theorem readSpan?_spanPack (s : Span) : readSpan? ⟨0, 0, 0⟩ (spanPack s) = some s := by
  obtain ⟨file, start, stop⟩ := s
  unfold readSpan? spanPack
  apply Sets.readRecord?
  refine ((Sets.field (b := ⟨file, 0, 0⟩) (by decide) ?_).append
    (.field (b := ⟨file, start, 0⟩) (by decide) ?_)).append (.field (by decide) ?_)
  · exact congrArg (Option.bind · fun n => some (Span.mk n 0 0)) (readWord?_int file)
  · exact congrArg (Option.bind · fun n => some (Span.mk file n 0)) (readWord?_int start)
  · exact congrArg (Option.bind · fun n => some (Span.mk file start n)) (readWord?_int stop)

/-- A record is read back from its document, whatever it holds. -/
theorem read?_pack (r : TokenRecord) : read? blank r.pack = some r := by
  obtain ⟨kind, text, span, line, col⟩ := r
  unfold read? pack
  apply Sets.readRecord?
  refine ((((Sets.field (b := { blank with kind }) (by decide) rfl).append
    (.textField? (b := { blank with kind, text }) (by decide) rfl ?_)).append
    (.field (b := ⟨kind, text, span, 0, 0⟩) (by decide) ?_)).append
    (.natField? (b := ⟨kind, text, span, line, 0⟩) (by decide) ?_ ?_)).append
    (.natField? (by decide) ?_ ?_)
  · rintro rfl
    rfl
  · exact congrArg (Option.bind · fun s => some (mk kind text s 0 0)) (readSpan?_spanPack span)
  · exact congrArg (Option.bind · fun n => some (mk kind text span n 0)) (readWord?_int line)
  · intro hzero
    obtain rfl : line = 0 := UInt32.toNat_inj.mp hzero
    rfl
  · exact congrArg (Option.bind · fun n => some (mk kind text span line n)) (readWord?_int col)
  · intro hzero
    obtain rfl : col = 0 := UInt32.toNat_inj.mp hzero
    rfl

theorem pack_injective {r r' : TokenRecord} (h : r.pack = r'.pack) : r = r' := by
  have hread := r.read?_pack
  rw [h, read?_pack, Option.some.injEq] at hread
  exact hread.symm

/-- A record whose texts can be written. -/
structure Fits (r : TokenRecord) : Prop where
  kind : Short r.kind
  text : Short r.text

theorem fits_spanPack (s : Span) : (spanPack s).Fits := by
  have hword : ∀ n : UInt32, (Pack.int n.toNat).Fits := fun n =>
    .nat (Nat.lt_trans n.toNat_lt (by decide))
  exact ((FieldsFit.field (by decide) (hword s.file)).append (.field (by decide) (hword s.start))
    |>.append (.field (by decide) (hword s.stop))).map (by decide)

theorem Fits.pack {r : TokenRecord} (h : r.Fits) : r.pack.Fits := by
  have hword : ∀ n : UInt32, n.toNat < 18446744073709551616 := fun n =>
    Nat.lt_trans n.toNat_lt (by decide)
  exact ((((FieldsFit.field (by decide) (.str h.kind)).append
    (.textField? (by decide) h.text)).append
    (.field (by decide) (fits_spanPack r.span))).append
    (.natField? (by decide) (hword r.line))).append
    (.natField? (by decide) (hword r.col)) |>.map (by decide)

end TokenRecord

theorem Kind.short_name (k : Kind) : Short k.name := by
  cases k with
  | unnamed n =>
    change Short (Bytes.ofString "Kind(?)")
    decide
  | _ => decide

namespace Token

/-- The records of a listing; what follows the document is ignored. -/
def readListing? (s : Bytes) : Option (List TokenRecord) := do
  let (p, _) ← Pack.decode? s
  match ← p.asList? with
  | none => return []
  | some items => items.mapM (TokenRecord.read? TokenRecord.blank)

variable {rs rs' : List TokenRecord}

theorem decode?_packListing (h : ∀ r ∈ rs, r.Fits) (hlength : Short rs) :
    Pack.decode? (packListing rs) = some (.arr (rs.map TokenRecord.pack), []) :=
  (Pack.fits_arr hlength fun r hr => (h r hr).pack).decode?_encode

theorem readListing?_packListing (h : ∀ r ∈ rs, r.Fits) (hlength : Short rs) :
    readListing? (packListing rs) = some rs := by
  have hitems : (rs.map TokenRecord.pack).mapM (TokenRecord.read? TokenRecord.blank) = some rs := by
    rw [mapM_eq_some_iff, List.forall₂_map_left_iff]
    exact List.forall₂_same.mpr fun r _ => r.read?_pack
  rw [readListing?, decode?_packListing h hlength]
  exact hitems

/-- Whatever octets are read, the length of the listing can be written. -/
theorem short_of_readListing? {s : Bytes} (h : readListing? s = some rs) : Short rs := by
  obtain ⟨⟨p, rest⟩, hdecode, h⟩ := Option.bind_eq_some_iff.mp h
  obtain ⟨items?, hitems, h⟩ := Option.bind_eq_some_iff.mp h
  cases items? with
  | none =>
    cases h
    decide
  | some items =>
    have hshort := (Pack.asList?_fits (Pack.decodeDeep_fits hdecode) hitems).1
    exact hshort.of_length_eq (mapM_eq_some_iff.mp h).length_eq.symm

theorem packListing_injective (h : ∀ r ∈ rs, r.Fits) (h' : ∀ r ∈ rs', r.Fits)
    (heq : packListing rs = packListing rs') : rs = rs' := by
  have hpacks := Pack.encode_arr_inj (by simpa using fun r hr => (h r hr).pack)
    (by simpa using fun r hr => (h' r hr).pack) heq
  exact (List.map_inj_right fun _ _ => TokenRecord.pack_injective).mp hpacks

section Records

variable {fs : Option FileSet} {ts : List Token}

theorem exists_record_iff {t : Token} :
    (∃ r, record fs t = .ok r) ↔ ∀ set, fs = some set → t.span.file.toNat < set.size := by
  cases fs with
  | none => simp [record]
  | some set =>
    simp only [Option.some.injEq, forall_eq', ← FileSet.exists_get_iff, record, FileSet.resolve]
    cases set.get t.span.file with
    | error e => simp [Except.map]
    | ok f => simp [Except.map]

theorem fits_of_record {t : Token} {r : TokenRecord} (htext : Short t.text)
    (h : record fs t = .ok r) : r.Fits := by
  cases fs with
  | none =>
    cases h
    exact ⟨t.kind.short_name, htext⟩
  | some set =>
    unfold record at h
    cases hresolve : set.resolve t.span with
    | error e => simp [hresolve, Except.map] at h
    | ok places =>
      simp only [hresolve, Except.map, Except.ok.injEq] at h
      subst h
      exact ⟨t.kind.short_name, htext⟩

theorem fits_of_records (htexts : ∀ t ∈ listed ts, Short t.text) (h : records fs ts = .ok rs) :
    ∀ r ∈ rs, r.Fits := by
  intro r hr
  obtain ⟨t, ht, hrecord⟩ := exists_of_mem_forall₂ (forall₂_of_mapM_ok h).flip hr
  exact fits_of_record (htexts t ht) hrecord

end Records

/-- Tokens have records unless there is a set and a file that is not in it. Their listing is read
back with nothing left over just when it is not too long to say how long it is; and however long, it
is the listing of no other records. Texts that are too long for the format are left aside. -/
theorem listing_lossless (fs : Option FileSet) (ts : List Token)
    (htexts : ∀ t ∈ listed ts, t.text.length < 4294967296) :
    ((∃ rs, records fs ts = .ok rs) ↔
      ∀ t ∈ listed ts, ∀ set, fs = some set → t.span.file.toNat < set.size) ∧
    ∀ rs, records fs ts = .ok rs →
      ((Pack.decode? (packListing rs) = some (.arr (rs.map TokenRecord.pack), []) ∧
          readListing? (packListing rs) = some rs) ↔ (listed ts).length < 4294967296) ∧
        ∀ fs' ts' rs', (∀ t ∈ listed ts', t.text.length < 4294967296) →
          records fs' ts' = .ok rs' → packListing rs' = packListing rs → rs' = rs := by
  refine ⟨?_, fun rs hrs => ⟨?_, ?_⟩⟩
  · simp only [← exists_record_iff, ← mapM_ok_iff]
    rfl
  · have hfits := fits_of_records htexts hrs
    have hlength : (listed ts).length = rs.length := (forall₂_of_mapM_ok hrs).length_eq
    rw [hlength]
    constructor
    · rintro ⟨-, hread⟩
      exact short_of_readListing? hread
    · intro hshort
      exact ⟨decode?_packListing hfits hshort, readListing?_packListing hfits hshort⟩
  · intro fs' ts' rs' htexts' hrs' heq
    exact packListing_injective (fits_of_records htexts' hrs') (fits_of_records htexts hrs) heq

/-- Sixteen tokens make a longer header than fifteen; their texts are of no encoding. -/
theorem listing_lossless_sixteen :
    let ts : List Token := List.replicate 16 ⟨.stringLit, ⟨4294967295, 128, 65536⟩,
      List.replicate 40 0xFF⟩
    (∀ t ∈ listed ts, t.text.length < 4294967296) ∧ ∃ rs, records none ts = .ok rs ∧
      rs.length = 16 ∧ readListing? (packListing rs) = some rs := by
  intro ts
  have htexts : ∀ t ∈ listed ts, t.text.length < 4294967296 := by decide
  obtain ⟨hsome, hread⟩ := listing_lossless none ts htexts
  obtain ⟨rs, hrs⟩ := hsome.mpr (by simp)
  refine ⟨htexts, rs, hrs, ?_, ((hread rs hrs).1.mpr (by decide)).2⟩
  exact (forall₂_of_mapM_ok hrs).length_eq.symm

end Token

end FrontEnd
