import FrontEnd.Encoding.MessagePack
import Mathlib.Data.List.Induction

/-!
What is written in the MessagePack format is read back, whatever follows it. A document is read from
its encoding at any depth that suffices for it, so encodings in a row are read one after the other.
-/
namespace FrontEnd

namespace Bytes

theorem length_bigEndian (width n : Nat) : (bigEndian width n).length = width := by
  induction width generalizing n with
  | zero => rfl
  | succ width ih => simp [bigEndian, ih]

/-- How many numbers can be written in a width. -/
def capacity : Nat → Nat
  | 0 => 1
  | width + 1 => capacity width * 256

theorem pow_eq_capacity (width : Nat) : Nat.pow 256 width = capacity width := by
  induction width with
  | zero => rfl
  | succ width ih => exact congrArg (· * 256) ih

theorem ofBigEndian_bigEndian {width n : Nat} (h : n < capacity width) :
    ofBigEndian (bigEndian width n) = n := by
  induction width generalizing n with
  | zero =>
    have hn : n = 0 := by simpa [capacity] using h
    subst hn
    rfl
  | succ width ih =>
    have hdiv : n / 256 < capacity width := by
      rw [capacity] at h
      exact Nat.div_lt_of_lt_mul (by omega)
    have hlow : n.toUInt8.toNat = n % 256 := by simp [Nat.toUInt8]
    rw [bigEndian, ofBigEndian, List.foldl_append]
    change (ofBigEndian (bigEndian width (n / 256))) * 256 + n.toUInt8.toNat = n
    rw [ih hdiv, hlow]
    omega

theorem ofBigEndian_lt (b : Bytes) : ofBigEndian b < capacity b.length := by
  induction b using List.reverseRecOn with
  | nil => decide
  | append_singleton b o ih =>
    have ho := o.toNat_lt
    rw [ofBigEndian, List.foldl_append, List.length_append]
    change ofBigEndian b * 256 + o.toNat < capacity b.length * 256
    omega

end Bytes

namespace Pack

/-! A word is read back from its number. -/

theorem toNat_emod {n m : Nat} (h : n < m) : ((n : Int) % m).toNat = n := by
  rw [Int.emod_eq_of_lt (Int.natCast_nonneg n) (Int.ofNat_lt.mpr h), Int.toNat_natCast]

theorem ofInt_word (n : UInt32) : UInt32.ofInt n.toNat = n :=
  (congrArg UInt32.ofNat (toNat_emod n.toNat_lt)).trans UInt32.ofNat_toNat

theorem ofInt_half (n : UInt16) : UInt16.ofInt n.toNat = n :=
  (congrArg UInt16.ofNat (toNat_emod n.toNat_lt)).trans UInt16.ofNat_toNat

theorem take?_append (a r : Bytes) : take? a.length (a ++ r) = some (a, r) := by
  simp [take?]

theorem word?_bigEndian {width n : Nat} (h : n < Bytes.capacity width) (r : Bytes) :
    word? width (Bytes.bigEndian width n ++ r) = some (n, r) := by
  have htake := take?_append (Bytes.bigEndian width n) r
  rw [Bytes.length_bigEndian] at htake
  simp only [word?, htake, Option.map_some, Bytes.ofBigEndian_bigEndian h]

theorem counted?_bigEndian {width : Nat} {s : Bytes} (h : s.length < Bytes.capacity width)
    (r : Bytes) :
    counted? width (Bytes.bigEndian width s.length ++ (s ++ r)) = some (s, r) := by
  rw [counted?, word?_bigEndian h]
  exact take?_append s r

/-- Octets from which a document is read, whatever follows them. -/
def Reads (depth : Nat) (octets : Bytes) (p : Pack) : Prop :=
  ∀ rest, decodeDeep depth (octets ++ rest) = some (p, rest)

theorem reads_value {c : UInt8} {r : Bytes} {p : Pack}
    (h : ∀ rest, shape? c (r ++ rest) = some (.value p rest)) (depth : Nat) :
    Reads (depth + 1) (c :: r) p := by
  intro rest
  rw [List.cons_append, decodeDeep, h]

theorem reads_nil (depth : Nat) : Reads (depth + 1) Pack.nil.encode .nil := by
  rw [encode]
  exact reads_value (fun _ => rfl) depth

theorem reads_str {s : Bytes} (h : s.length < 32) (depth : Nat) :
    Reads (depth + 1) (encodeStr s) (.str s) := by
  have hc : ((0xA0 + s.length).toUInt8).toNat = 0xA0 + s.length := by
    simp only [Nat.toUInt8, UInt8.toNat_ofNat']
    omega
  rw [encodeStr, strHeader, if_pos h, List.singleton_append]
  apply reads_value
  intro rest
  unfold shape?
  simp only [hc, Nat.add_sub_cancel_left, take?_append]
  rw [if_neg (by omega), if_neg (by omega), if_neg (by omega), if_pos (by omega)]
  rfl

theorem reads_header {mark : UInt8} {width n : Nat}
    (hshape : ∀ t, shape? mark t = (word? width t).map fun (n, r) => .value (.int n) r)
    (h : n < Bytes.capacity width) (depth : Nat) :
    Reads (depth + 1) (header mark width n) (.int n) := by
  apply reads_value
  intro rest
  rw [hshape, word?_bigEndian h]
  rfl

/-- A number in two octets. -/
theorem reads_short {n : Nat} (h : n < 65536) (depth : Nat) :
    Reads (depth + 1) (header 0xCD 2 n) (.int n) :=
  reads_header (fun t => by cases hw : word? 2 t <;> simp [shape?, hw]) h depth

/-- A number in four octets. -/
theorem reads_word {n : Nat} (h : n < 4294967296) (depth : Nat) :
    Reads (depth + 1) (header 0xCE 4 n) (.int n) :=
  reads_header (fun t => by cases hw : word? 4 t <;> simp [shape?, hw]) h depth

theorem reads_counted {mark : UInt8} {width : Nat} {s : Bytes} {make : Bytes → Pack}
    (hshape : ∀ t, shape? mark t = (counted? width t).map fun (b, r) => .value (make b) r)
    (h : s.length < Bytes.capacity width) (depth : Nat) :
    Reads (depth + 1) (header mark width s.length ++ s) (make s) := by
  rw [header, List.cons_append]
  apply reads_value
  intro rest
  rw [List.append_assoc, hshape, counted?_bigEndian h]
  rfl

theorem reads_bin {s : Bytes} (h : s.length < 4294967296) (depth : Nat) :
    Reads (depth + 1) (Pack.bin s).encode (.bin s) := by
  rw [encode, binHeader]
  split
  · rename_i hlen
    exact reads_counted (fun t => by cases hc : counted? 1 t <;> simp [shape?, hc]) hlen depth
  split
  · rename_i hlen
    exact reads_counted (fun t => by cases hc : counted? 2 t <;> simp [shape?, hc]) hlen depth
  · exact reads_counted (fun t => by cases hc : counted? 4 t <;> simp [shape?, hc]) h depth

section Items

variable {α : Type} {write : α → Bytes} {pack : α → Pack} {depth : Nat} {xs : List α}

theorem decodeItems_flatMap (h : ∀ x ∈ xs, Reads depth (write x) (pack x)) (acc : List Pack)
    (rest : Bytes) :
    decodeItems depth xs.length acc (xs.flatMap write ++ rest) =
      some (acc.reverse ++ xs.map pack, rest) := by
  induction xs generalizing acc with
  | nil => simp [decodeItems]
  | cons x xs ih =>
    have hx := h x (by simp) (xs.flatMap write ++ rest)
    rw [List.flatMap_cons, List.append_assoc, List.length_cons, decodeItems, hx]
    simp only
    rw [ih fun y hy => h y (by simp [hy])]
    simp

theorem reads_items (h : ∀ x ∈ xs, Reads depth (write x) (pack x)) {c : UInt8} {r : Bytes}
    (hshape : ∀ t, shape? c (r ++ t) = some (.items xs.length t)) :
    Reads (depth + 1) (c :: r ++ xs.flatMap write) (.arr (xs.map pack)) := by
  intro rest
  rw [List.append_assoc, List.cons_append, decodeDeep, hshape]
  simp only [decodeItems_flatMap h]
  rfl

/-- A list is read when each of its items is. -/
theorem reads_arr (h : ∀ x ∈ xs, Reads depth (write x) (pack x)) (hlen : xs.length < 4294967296) :
    Reads (depth + 1) (arrHeader xs.length ++ xs.flatMap write) (.arr (xs.map pack)) := by
  unfold arrHeader
  split
  · refine reads_items h fun t => ?_
    have hc : ((0x90 + xs.length).toUInt8).toNat = 0x90 + xs.length := by
      simp only [Nat.toUInt8, UInt8.toNat_ofNat']
      omega
    unfold shape?
    simp only [hc]
    rw [if_neg (by omega), if_neg (by omega), if_pos (by omega), Nat.add_sub_cancel_left]
    rfl
  split
  · rename_i hshort
    refine reads_items h fun t => ?_
    have hword : word? 2 (Bytes.bigEndian 2 xs.length ++ t) = some (xs.length, t) :=
      word?_bigEndian hshort t
    simp [shape?, hword]
  · refine reads_items h fun t => ?_
    have hword : word? 4 (Bytes.bigEndian 4 xs.length ++ t) = some (xs.length, t) :=
      word?_bigEndian hlen t
    simp [shape?, hword]

end Items

/-- A field is read when its name and its value are. -/
theorem decodeFields_cons {depth : Nat} {k v : Bytes} {key value : Pack} (hk : Reads depth k key)
    (hv : Reads depth v value) (n : Nat) (acc : List (Pack × Pack)) (rest : Bytes) :
    decodeFields depth (n + 1) acc (k ++ (v ++ rest)) =
      decodeFields depth n ((key, value) :: acc) rest := by
  rw [decodeFields, hk]
  simp only
  rw [hv]

theorem decodeFields_flatMap {depth : Nat} {fields : List (Pack × Pack)}
    (h : ∀ f ∈ fields, Reads depth f.1.encode f.1 ∧ Reads depth f.2.encode f.2)
    (acc : List (Pack × Pack)) (rest : Bytes) :
    decodeFields depth fields.length acc
        (fields.flatMap (fun f => f.1.encode ++ f.2.encode) ++ rest) =
      some (acc.reverse ++ fields, rest) := by
  induction fields generalizing acc with
  | nil => simp [decodeFields]
  | cons f fields ih =>
    obtain ⟨hk, hv⟩ := h f (by simp)
    rw [List.flatMap_cons, List.append_assoc, List.append_assoc, List.length_cons,
      decodeFields_cons hk hv, ih fun g hg => h g (by simp [hg])]
    simp

/-- The number of fields in any of its forms. -/
theorem shape?_mapHeader {n : Nat} (h : n < 4294967296) :
    ∃ c r, mapHeader n = c :: r ∧ ∀ t, shape? c (r ++ t) = some (.fields n t) := by
  unfold mapHeader
  split
  · refine ⟨_, _, rfl, fun t => ?_⟩
    have hc : ((0x80 + n).toUInt8).toNat = 0x80 + n := by
      simp only [Nat.toUInt8, UInt8.toNat_ofNat']
      omega
    unfold shape?
    simp only [hc]
    rw [if_neg (by omega), if_pos (by omega), Nat.add_sub_cancel_left]
    rfl
  split
  · rename_i hshort
    refine ⟨_, _, rfl, fun t => ?_⟩
    have hword : word? 2 (Bytes.bigEndian 2 n ++ t) = some (n, t) := word?_bigEndian hshort t
    simp [shape?, hword]
  · refine ⟨_, _, rfl, fun t => ?_⟩
    have hword : word? 4 (Bytes.bigEndian 4 n ++ t) = some (n, t) := word?_bigEndian h t
    simp [shape?, hword]

/-- Names and values are read in turn. -/
theorem reads_map {depth : Nat} {fields : List (Pack × Pack)}
    (h : ∀ f ∈ fields, Reads depth f.1.encode f.1 ∧ Reads depth f.2.encode f.2)
    (hlen : fields.length < 4294967296) :
    Reads (depth + 1)
      (mapHeader fields.length ++ fields.flatMap fun f => f.1.encode ++ f.2.encode)
      (.map fields) := by
  obtain ⟨c, r, hheader, hshape⟩ := shape?_mapHeader hlen
  intro rest
  rw [hheader, List.append_assoc, List.cons_append, decodeDeep, hshape]
  simp only [decodeFields_flatMap h]
  rfl

theorem reads_encodeStr {s : Bytes} (h : s.length < 4294967296) (depth : Nat) :
    Reads (depth + 1) (encodeStr s) (.str s) := by
  by_cases hfix : s.length < 32
  · exact reads_str hfix depth
  rw [encodeStr, strHeader, if_neg hfix]
  split
  · rename_i hlen
    exact reads_counted (fun t => by cases hc : counted? 1 t <;> simp [shape?, hc]) hlen depth
  split
  · rename_i hlen
    exact reads_counted (fun t => by cases hc : counted? 2 t <;> simp [shape?, hc]) hlen depth
  · exact reads_counted (fun t => by cases hc : counted? 4 t <;> simp [shape?, hc]) h depth

theorem reads_encodeNat {n : Nat} (h : n < 18446744073709551616) (depth : Nat) :
    Reads (depth + 1) (encodeNat n) (.int n) := by
  unfold encodeNat
  split
  · rename_i hfix
    apply reads_value
    intro rest
    have hc : (n.toUInt8).toNat = n := by
      simp only [Nat.toUInt8, UInt8.toNat_ofNat']
      omega
    unfold shape?
    simp only [hc]
    rw [if_pos (by omega)]
    rfl
  split
  · rename_i hlen
    exact reads_header (fun t => by cases hw : word? 1 t <;> simp [shape?, hw]) hlen depth
  split
  · rename_i hlen
    exact reads_short hlen depth
  split
  · rename_i hlen
    exact reads_word hlen depth
  · exact reads_header (fun t => by cases hw : word? 8 t <;> simp [shape?, hw]) h depth

theorem signed?_complement {width k : Nat} (h : 2 * (k + 1) ≤ Bytes.capacity width) (r : Bytes) :
    signed? width (Bytes.bigEndian width (complement width (k + 1)) ++ r) =
      some (.negSucc k, r) := by
  rw [signed?, complement, Bytes.pow_eq_capacity, word?_bigEndian (by omega)]
  simp only [Option.map_some, Option.some.injEq, Prod.mk.injEq, and_true]
  generalize Bytes.capacity width = m at h
  have hmod : ((m - (k + 1) : Nat) : Int) % m = m - (k + 1) := by
    rw [Int.emod_eq_of_lt (by omega) (by omega)]
    omega
  rw [Int.bmod_def, hmod, if_neg (by omega)]
  omega

theorem reads_negative {mark : UInt8} {width k : Nat}
    (hshape : ∀ t, shape? mark t = (signed? width t).map fun (v, r) => .value (.int v) r)
    (h : 2 * (k + 1) ≤ Bytes.capacity width) (depth : Nat) :
    Reads (depth + 1) (header mark width (complement width (k + 1))) (.int (.negSucc k)) := by
  apply reads_value
  intro rest
  rw [hshape, signed?_complement h]
  rfl

theorem reads_encodeInt {v : Int} (hlow : -9223372036854775808 ≤ v)
    (hhigh : v < 18446744073709551616) (depth : Nat) :
    Reads (depth + 1) (encodeInt v) (.int v) := by
  cases v with
  | ofNat n =>
    have hn : (n : Int) < 18446744073709551616 := hhigh
    exact reads_encodeNat (by omega) depth
  | negSucc k =>
    simp only [encodeInt]
    split
    · apply reads_value
      intro rest
      have hc : ((256 - (k + 1)).toUInt8).toNat = 256 - (k + 1) := by
        simp only [Nat.toUInt8, UInt8.toNat_ofNat']
        omega
      have hv : ((256 - (k + 1) : Nat) : Int) - 256 = .negSucc k := by omega
      unfold shape?
      simp only [hc, hv]
      rw [if_neg (by omega), if_neg (by omega), if_neg (by omega), if_neg (by omega),
        if_pos (by omega)]
      rfl
    split
    · exact reads_negative (fun t => by cases hw : signed? 1 t <;> simp [shape?, hw])
        (by simp only [Bytes.capacity]; omega) depth
    split
    · exact reads_negative (fun t => by cases hw : signed? 2 t <;> simp [shape?, hw])
        (by simp only [Bytes.capacity]; omega) depth
    split
    · exact reads_negative (fun t => by cases hw : signed? 4 t <;> simp [shape?, hw])
        (by simp only [Bytes.capacity]; omega) depth
    · exact reads_negative (fun t => by cases hw : signed? 8 t <;> simp [shape?, hw])
        (by simp only [Bytes.capacity]; omega) depth

theorem reads_float {octets : Bytes} (h : octets.length = 4 ∨ octets.length = 8) (depth : Nat) :
    Reads (depth + 1) (Pack.float octets).encode (.float octets) := by
  rw [encode]
  rcases h with h | h
  · rw [if_pos h]
    refine reads_value (fun rest => ?_) depth
    have htake : take? 4 (octets ++ rest) = some (octets, rest) := h ▸ take?_append octets rest
    simp [shape?, htake]
  · rw [if_neg (by omega)]
    refine reads_value (fun rest => ?_) depth
    have htake : take? 8 (octets ++ rest) = some (octets, rest) := h ▸ take?_append octets rest
    simp [shape?, htake]

theorem reads_ext {tag : UInt8} {s : Bytes} (h : s.length < 4294967296) (depth : Nat) :
    Reads (depth + 1) (Pack.ext tag s).encode (.ext tag s) := by
  rw [encode, header, List.cons_append]
  refine reads_value (fun rest => ?_) depth
  have hword : word? 4 (Bytes.bigEndian 4 s.length ++ tag :: (s ++ rest)) =
      some (s.length, tag :: (s ++ rest)) := word?_bigEndian h _
  simp [shape?, hword, tagged?, take?_append]

/-- A document that can be written: its numbers have 64 bits, and its lengths have 32. -/
inductive Fits : Pack → Prop
  | nil : Fits .nil
  | bool (b : Bool) : Fits (.bool b)
  | int {v : Int} (hlow : -9223372036854775808 ≤ v) (hhigh : v < 18446744073709551616) :
      Fits (.int v)
  | float {octets : Bytes} (h : octets.length = 4 ∨ octets.length = 8) : Fits (.float octets)
  | str {s : Bytes} (h : s.length < 4294967296) : Fits (.str s)
  | bin {s : Bytes} (h : s.length < 4294967296) : Fits (.bin s)
  | ext {tag : UInt8} {s : Bytes} (h : s.length < 4294967296) : Fits (.ext tag s)
  | arr {items : List Pack} (hlength : items.length < 4294967296)
      (hitems : ∀ p ∈ items, Fits p) : Fits (.arr items)
  | map {fields : List (Pack × Pack)} (hlength : fields.length < 4294967296)
      (hnames : ∀ f ∈ fields, Fits f.1) (hvalues : ∀ f ∈ fields, Fits f.2) : Fits (.map fields)

theorem encode_arr (items : List Pack) :
    (Pack.arr items).encode = arrHeader items.length ++ items.flatMap encode := by
  rw [encode, List.flatMap_def]

theorem encode_map (fields : List (Pack × Pack)) :
    (Pack.map fields).encode =
      mapHeader fields.length ++ fields.flatMap fun f => f.1.encode ++ f.2.encode := by
  rw [encode, List.flatMap_def]
  congr 2
  exact List.attach_map_val (f := fun f : Pack × Pack => f.1.encode ++ f.2.encode)

theorem length_arrHeader_pos (n : Nat) : 0 < (arrHeader n).length := by
  unfold arrHeader
  split
  · simp
  split <;> simp [header]

theorem length_mapHeader_pos (n : Nat) : 0 < (mapHeader n).length := by
  unfold mapHeader
  split
  · simp
  split <;> simp [header]

theorem length_le_flatMap {α : Type} {f : α → Bytes} {xs : List α} {x : α} (h : x ∈ xs) :
    (f x).length ≤ (xs.flatMap f).length := by
  rw [List.flatMap_def]
  exact (List.sublist_flatten_of_mem (List.mem_map_of_mem h)).length_le

/-- A document is read from its encoding, at any depth that its length allows. -/
theorem Fits.reads {p : Pack} (h : p.Fits) {depth : Nat} (hdepth : p.encode.length ≤ depth) :
    Reads (depth + 1) p.encode p := by
  induction h generalizing depth with
  | nil => exact reads_nil depth
  | bool b =>
    rw [encode]
    cases b <;> exact reads_value (fun _ => rfl) depth
  | int hlow hhigh =>
    rw [encode]
    exact reads_encodeInt hlow hhigh depth
  | float h => exact reads_float h depth
  | str h =>
    rw [encode]
    exact reads_encodeStr h depth
  | bin h => exact reads_bin h depth
  | ext h => exact reads_ext h depth
  | @arr items hlength _ ih =>
    -- the header takes an octet, so each item is shorter than the whole
    rw [encode_arr, List.length_append] at hdepth
    have hheader := length_arrHeader_pos items.length
    obtain ⟨d, rfl⟩ : ∃ d, depth = d + 1 := ⟨depth - 1, by omega⟩
    have hread : ∀ p ∈ items, Reads (d + 1) p.encode (id p) := by
      intro p hp
      have hle : p.encode.length ≤ (items.flatMap encode).length := length_le_flatMap hp
      exact ih p hp (by omega)
    rw [encode_arr]
    simpa using reads_arr hread hlength
  | @map fields hlength _ _ ihnames ihvalues =>
    rw [encode_map, List.length_append] at hdepth
    have hheader := length_mapHeader_pos fields.length
    obtain ⟨d, rfl⟩ : ∃ d, depth = d + 1 := ⟨depth - 1, by omega⟩
    rw [encode_map]
    refine reads_map (fun f hf => ?_) hlength
    have hle := length_le_flatMap (f := fun f : Pack × Pack => f.1.encode ++ f.2.encode) hf
    rw [List.length_append] at hle
    exact ⟨ihnames f hf (by omega), ihvalues f hf (by omega)⟩

theorem Fits.decode?_encode {p : Pack} (h : p.Fits) : decode? p.encode = some (p, []) := by
  have hread := h.reads (Nat.le_refl _) []
  rwa [List.append_nil] at hread

section Read

/-! What is read can be written. -/

variable {width n : Nat} {s b r : Bytes} {v : Int} {p : Pack}

theorem length_of_take? (h : take? n s = some (b, r)) : b.length = n := by
  unfold take? at h
  dsimp only at h
  split at h
  · rename_i hlen
    cases h
    exact hlen
  · cases h

theorem word?_lt (h : word? width s = some (n, r)) : n < Bytes.capacity width := by
  obtain ⟨⟨b, r'⟩, htake, heq⟩ := Option.map_eq_some_iff.mp h
  cases heq
  rw [← length_of_take? htake]
  exact Bytes.ofBigEndian_lt b

theorem signed?_lt (h : signed? width s = some (v, r)) :
    -(Bytes.capacity width : Int) ≤ 2 * v ∧ 2 * v < Bytes.capacity width + 1 := by
  obtain ⟨⟨n, r'⟩, hword, heq⟩ := Option.map_eq_some_iff.mp h
  cases heq
  have hlt := word?_lt hword
  have hmod : (n : Int) % Bytes.capacity width = n :=
    Int.emod_eq_of_lt (by omega) (by omega)
  rw [Bytes.pow_eq_capacity, Int.bmod_def, hmod]
  split <;> omega

theorem counted?_lt (h : counted? width s = some (b, r)) : b.length < Bytes.capacity width := by
  unfold counted? at h
  split at h
  · rename_i n t hword
    rw [length_of_take? h]
    exact word?_lt hword
  · cases h

theorem tagged?_fits (hn : n < 4294967296) (h : tagged? n s = some (p, r)) : p.Fits := by
  unfold tagged? at h
  split at h
  · obtain ⟨⟨b, r'⟩, htake, heq⟩ := Option.map_eq_some_iff.mp h
    cases heq
    exact .ext (length_of_take? htake ▸ hn)
  · cases h

/-- What a first octet announces can be written. -/
def Shape.Fits : Shape → Prop
  | .value p _ => p.Fits
  | .items n _ | .fields n _ => n < 4294967296

variable {shape : Shape}

theorem Shape.fits_of_value {o : Option (Pack × Bytes)} (ho : ∀ p r, o = some (p, r) → p.Fits)
    (h : (o.map fun (p, r) => Shape.value p r) = some shape) : shape.Fits := by
  obtain ⟨⟨p, r⟩, hp, rfl⟩ := Option.map_eq_some_iff.mp h
  exact ho p r hp

theorem Shape.fits_of_read {α : Type} {o : Option (α × Bytes)} {make : α → Pack}
    (ho : ∀ a r, o = some (a, r) → (make a).Fits)
    (h : ((o.map fun (a, r) => (make a, r)).map fun (p, r) => Shape.value p r) = some shape) :
    shape.Fits := by
  refine fits_of_value (fun p r hp => ?_) h
  obtain ⟨⟨a, r'⟩, ha, heq⟩ := Option.map_eq_some_iff.mp hp
  cases heq
  exact ho a _ ha

theorem Shape.fits_of_count (make : Nat → Bytes → Shape)
    (hwidth : Bytes.capacity width ≤ 4294967296) (hmake : ∀ n r, n < 4294967296 → (make n r).Fits)
    (h : ((word? width s).map fun (n, r) => make n r) = some shape) : shape.Fits := by
  obtain ⟨⟨n, r⟩, hword, rfl⟩ := Option.map_eq_some_iff.mp h
  exact hmake n r (Nat.lt_of_lt_of_le (word?_lt hword) hwidth)

theorem fits_of_word? (hwidth : Bytes.capacity width ≤ 18446744073709551616) (n : Nat) (r : Bytes)
    (h : word? width s = some (n, r)) : (Pack.int n).Fits := by
  have hlt := word?_lt h
  exact .int (by omega) (by omega)

theorem fits_of_signed? (hwidth : Bytes.capacity width ≤ 18446744073709551616) (v : Int) (r : Bytes)
    (h : signed? width s = some (v, r)) : (Pack.int v).Fits := by
  obtain ⟨hlow, hhigh⟩ := signed?_lt h
  exact .int (by omega) (by omega)

theorem fits_of_counted? {make : Bytes → Pack}
    (hmake : ∀ {b}, b.length < 4294967296 → (make b).Fits)
    (hwidth : Bytes.capacity width ≤ 4294967296) (b r : Bytes)
    (h : counted? width s = some (b, r)) : (make b).Fits :=
  hmake (Nat.lt_of_lt_of_le (counted?_lt h) hwidth)

theorem fits_of_extension (hwidth : Bytes.capacity width ≤ 4294967296) (p : Pack) (r : Bytes)
    (h : ((word? width s).bind fun (n, r) => tagged? n r) = some (p, r)) : p.Fits := by
  obtain ⟨⟨n, r'⟩, hword, htagged⟩ := Option.bind_eq_some_iff.mp h
  exact tagged?_fits (Nat.lt_of_lt_of_le (word?_lt hword) hwidth) htagged

theorem shape?_fits {c : UInt8} (h : shape? c s = some shape) : shape.Fits := by
  have hc := c.toNat_lt
  unfold shape? at h
  dsimp only at h
  split at h
  · cases h
    exact .int (by omega) (by omega)
  split at h
  · cases h
    exact show _ < _ by omega
  split at h
  · cases h
    exact show _ < _ by omega
  split at h
  · refine Shape.fits_of_read ?_ h
    intro b r htake
    have hlen := length_of_take? htake
    exact .str (by omega)
  split at h
  · cases h
    exact .int (by omega) (by omega)
  split at h
  · cases h
    exact .nil
  · cases h
    exact .bool false
  · cases h
    exact .bool true
  · exact Shape.fits_of_read (fits_of_counted? .bin (by decide)) h
  · exact Shape.fits_of_read (fits_of_counted? .bin (by decide)) h
  · exact Shape.fits_of_read (fits_of_counted? .bin (by decide)) h
  · exact Shape.fits_of_value (fits_of_extension (by decide)) h
  · exact Shape.fits_of_value (fits_of_extension (by decide)) h
  · exact Shape.fits_of_value (fits_of_extension (by decide)) h
  · exact Shape.fits_of_read (fun b r htake => .float (.inl (length_of_take? htake))) h
  · exact Shape.fits_of_read (fun b r htake => .float (.inr (length_of_take? htake))) h
  · exact Shape.fits_of_read (fits_of_word? (by decide)) h
  · exact Shape.fits_of_read (fits_of_word? (by decide)) h
  · exact Shape.fits_of_read (fits_of_word? (by decide)) h
  · exact Shape.fits_of_read (fits_of_word? (by decide)) h
  · exact Shape.fits_of_read (fits_of_signed? (by decide)) h
  · exact Shape.fits_of_read (fits_of_signed? (by decide)) h
  · exact Shape.fits_of_read (fits_of_signed? (by decide)) h
  · exact Shape.fits_of_read (fits_of_signed? (by decide)) h
  · exact Shape.fits_of_value (fun p r => tagged?_fits (by decide)) h
  · exact Shape.fits_of_value (fun p r => tagged?_fits (by decide)) h
  · exact Shape.fits_of_value (fun p r => tagged?_fits (by decide)) h
  · exact Shape.fits_of_value (fun p r => tagged?_fits (by decide)) h
  · exact Shape.fits_of_value (fun p r => tagged?_fits (by decide)) h
  · exact Shape.fits_of_read (fits_of_counted? .str (by decide)) h
  · exact Shape.fits_of_read (fits_of_counted? .str (by decide)) h
  · exact Shape.fits_of_read (fits_of_counted? .str (by decide)) h
  · exact Shape.fits_of_count .items (by decide) (fun n r hn => hn) h
  · exact Shape.fits_of_count .items (by decide) (fun n r hn => hn) h
  · exact Shape.fits_of_count .fields (by decide) (fun n r hn => hn) h
  · exact Shape.fits_of_count .fields (by decide) (fun n r hn => hn) h
  · cases h

/-- Items are read each on its own, and as many as were announced. -/
theorem decodeItems_fits {depth : Nat}
    (hdeep : ∀ s p r, decodeDeep depth s = some (p, r) → p.Fits) {acc ps : List Pack}
    (hacc : ∀ p ∈ acc, p.Fits) (h : decodeItems depth n acc s = some (ps, r)) :
    (∀ p ∈ ps, p.Fits) ∧ ps.length = acc.length + n := by
  induction n generalizing acc s with
  | zero =>
    rw [decodeItems] at h
    cases h
    simpa using hacc
  | succ n ih =>
    rw [decodeItems] at h
    split at h
    · rename_i p r' hp
      have hmore : ∀ q ∈ p :: acc, q.Fits := by
        rw [List.forall_mem_cons]
        exact ⟨hdeep _ _ _ hp, hacc⟩
      obtain ⟨hps, hlength⟩ := ih hmore h
      exact ⟨hps, by rw [hlength, List.length_cons]; omega⟩
    · cases h

theorem decodeFields_fits {depth : Nat}
    (hdeep : ∀ s p r, decodeDeep depth s = some (p, r) → p.Fits) {acc fs : List (Pack × Pack)}
    (hacc : ∀ f ∈ acc, f.1.Fits ∧ f.2.Fits) (h : decodeFields depth n acc s = some (fs, r)) :
    (∀ f ∈ fs, f.1.Fits ∧ f.2.Fits) ∧ fs.length = acc.length + n := by
  induction n generalizing acc s with
  | zero =>
    rw [decodeFields] at h
    cases h
    simpa using hacc
  | succ n ih =>
    rw [decodeFields] at h
    split at h
    · cases h
    rename_i k t hk
    split at h
    · rename_i v r' hv
      have hmore : ∀ f ∈ (k, v) :: acc, f.1.Fits ∧ f.2.Fits := by
        rw [List.forall_mem_cons]
        exact ⟨⟨hdeep _ _ _ hk, hdeep _ _ _ hv⟩, hacc⟩
      obtain ⟨hfs, hlength⟩ := ih hmore h
      exact ⟨hfs, by rw [hlength, List.length_cons]; omega⟩
    · cases h

theorem decodeDeep_fits {depth : Nat} (h : decodeDeep depth s = some (p, r)) : p.Fits := by
  induction depth generalizing s p r with
  | zero =>
    rw [decodeDeep] at h
    cases h
  | succ depth ih =>
    cases s with
    | nil => simp [decodeDeep] at h
    | cons c s =>
      rw [decodeDeep] at h
      split at h
      · cases h
      · rename_i hshape
        cases h
        exact shape?_fits hshape
      · rename_i hshape
        obtain ⟨⟨ps, r'⟩, hps, heq⟩ := Option.map_eq_some_iff.mp h
        cases heq
        obtain ⟨hitems, hlength⟩ := decodeItems_fits (fun s p r => ih) (by simp) hps
        have hcount : _ < 4294967296 := shape?_fits hshape
        exact .arr (by simpa [hlength] using hcount) hitems
      · rename_i hshape
        obtain ⟨⟨fs, r'⟩, hfs, heq⟩ := Option.map_eq_some_iff.mp h
        cases heq
        obtain ⟨hfields, hlength⟩ := decodeFields_fits (fun s p r => ih) (by simp) hfs
        have hcount : _ < 4294967296 := shape?_fits hshape
        exact .map (by simpa [hlength] using hcount) (fun f hf => (hfields f hf).1)
          fun f hf => (hfields f hf).2

end Read

end Pack

end FrontEnd
