import FrontEnd.Bytes.Utf8

/-!
What reading one character of a byte string depends on: the octets of the character alone when
there is one, and otherwise no more than the octets up to the next one below 0x80. So a line end
never changes how the octets before it are read. The octets of a character are its encoding, and
every encoding is read.
-/
namespace FrontEnd.Utf8

theorem isContinuation_iff {b : UInt8} :
    isContinuation b = true ↔ 128 ≤ b.toNat ∧ b.toNat ≤ 191 := by
  simp [isContinuation, UInt8.le_iff_toNat_le]

theorem secondOf3_iff {a b : UInt8} : secondOf3 a b = true ↔
    (128 ≤ b.toNat ∧ b.toNat ≤ 191) ∧ (a.toNat = 224 → 160 ≤ b.toNat) ∧
      (a.toNat = 237 → b.toNat ≤ 159) := by
  have hlow : a = 0xE0 ↔ a.toNat = 224 := UInt8.toNat_inj.symm
  have hhigh : a = 0xED ↔ a.toNat = 237 := UInt8.toNat_inj.symm
  simp only [secondOf3, hlow, hhigh]
  split
  · simp only [UInt8.le_iff_toNat_le, Bool.and_eq_true, decide_eq_true_eq, UInt8.reduceToNat]
    omega
  split
  · simp only [UInt8.le_iff_toNat_le, Bool.and_eq_true, decide_eq_true_eq, UInt8.reduceToNat]
    omega
  · rw [isContinuation_iff]
    omega

theorem secondOf4_iff {a b : UInt8} : secondOf4 a b = true ↔
    (128 ≤ b.toNat ∧ b.toNat ≤ 191) ∧ (a.toNat = 240 → 144 ≤ b.toNat) ∧
      (a.toNat = 244 → b.toNat ≤ 143) := by
  have hlow : a = 0xF0 ↔ a.toNat = 240 := UInt8.toNat_inj.symm
  have hhigh : a = 0xF4 ↔ a.toNat = 244 := UInt8.toNat_inj.symm
  simp only [secondOf4, hlow, hhigh]
  split
  · simp only [UInt8.le_iff_toNat_le, Bool.and_eq_true, decide_eq_true_eq, UInt8.reduceToNat]
    omega
  split
  · simp only [UInt8.le_iff_toNat_le, Bool.and_eq_true, decide_eq_true_eq, UInt8.reduceToNat]
    omega
  · rw [isContinuation_iff]
    omega

theorem ascii_le_iff {b : UInt8} : 0x80 ≤ b ↔ 128 ≤ b.toNat := by
  simp only [UInt8.le_iff_toNat_le, UInt8.reduceToNat]

theorem ascii_le_of_isContinuation {b : UInt8} (h : isContinuation b = true) : 0x80 ≤ b :=
  ascii_le_iff.mpr (isContinuation_iff.mp h).1

theorem ascii_le_of_secondOf3 {a b : UInt8} (h : secondOf3 a b = true) : 0x80 ≤ b :=
  ascii_le_iff.mpr (secondOf3_iff.mp h).1.1

theorem ascii_le_of_secondOf4 {a b : UInt8} (h : secondOf4 a b = true) : 0x80 ≤ b :=
  ascii_le_iff.mpr (secondOf4_iff.mp h).1.1

/-- The octets of one character, and its code point. -/
inductive Sequence : Bytes → Nat → Prop
  | one {a : UInt8} (ha : a < 0x80) : Sequence [a] a.toNat
  | two {a b : UInt8} (ha : 0xC2 ≤ a ∧ a ≤ 0xDF) (hb : isContinuation b = true) :
      Sequence [a, b] (point2 a b)
  | three {a b c : UInt8} (ha : 0xE0 ≤ a ∧ a ≤ 0xEF) (hb : secondOf3 a b = true)
      (hc : isContinuation c = true) : Sequence [a, b, c] (point3 a b c)
  | four {a b c d : UInt8} (ha : 0xF0 ≤ a ∧ a ≤ 0xF4) (hb : secondOf4 a b = true)
      (hc : isContinuation c = true) (hd : isContinuation d = true) :
      Sequence [a, b, c, d] (point4 a b c d)

theorem ofNat_eq (a : UInt8) {n : Nat} (h : n = a.toNat) : UInt8.ofNat n = a := by
  rw [h, UInt8.ofNat_toNat]

namespace Sequence

variable {lead : Bytes} {v : Nat}

/-- What follows the octets does not matter. -/
theorem reads (h : Sequence lead v) (t : Bytes) :
    decode? (lead ++ t) = some (Char.ofNat v, lead.length) := by
  cases h with
  | one ha => simp [decode?, ha]
  | @two a b ha hb =>
    have h1 : ¬ a < 0x80 := by grind
    simp [decode?, h1, ha, hb]
  | @three a b c ha hb hc =>
    have h1 : ¬ a < 0x80 := by grind
    have h2 : ¬ (0xC2 ≤ a ∧ a ≤ 0xDF) := by grind
    simp [decode?, h1, h2, ha, hb, hc]
  | @four a b c d ha hb hc hd =>
    have h1 : ¬ a < 0x80 := by grind
    have h2 : ¬ (0xC2 ≤ a ∧ a ≤ 0xDF) := by grind
    have h3 : ¬ (0xE0 ≤ a ∧ a ≤ 0xEF) := by grind
    simp [decode?, h1, h2, h3, ha, hb, hc, hd]

/-- A character is one ASCII octet, or has none. -/
theorem shape (h : Sequence lead v) : (∃ b, lead = [b] ∧ b < 0x80) ∨ ∀ b ∈ lead, 0x80 ≤ b := by
  cases h with
  | one ha => exact .inl ⟨_, rfl, ha⟩
  | @two a b ha hb =>
    have hlead : 0x80 ≤ a := UInt8.le_trans (by decide) ha.1
    exact .inr (by simpa using ⟨hlead, ascii_le_of_isContinuation hb⟩)
  | @three a b c ha hb hc =>
    have hlead : 0x80 ≤ a := UInt8.le_trans (by decide) ha.1
    exact .inr (by simpa using
      ⟨hlead, ascii_le_of_secondOf3 hb, ascii_le_of_isContinuation hc⟩)
  | @four a b c d ha hb hc hd =>
    have hlead : 0x80 ≤ a := UInt8.le_trans (by decide) ha.1
    exact .inr (by simpa using ⟨hlead, ascii_le_of_secondOf4 hb, ascii_le_of_isContinuation hc,
      ascii_le_of_isContinuation hd⟩)

theorem length_le (h : Sequence lead v) : lead ≠ [] ∧ lead.length ≤ 4 := by
  cases h <;> simp

theorem isValidChar (h : Sequence lead v) : v.isValidChar := by
  change v < 0xD800 ∨ 0xDFFF < v ∧ v < 0x110000
  cases h with
  | one ha =>
    simp only [UInt8.lt_iff_toNat_lt, UInt8.reduceToNat] at ha
    omega
  | two ha hb =>
    simp only [UInt8.le_iff_toNat_le, UInt8.reduceToNat, isContinuation_iff] at ha hb
    unfold point2
    omega
  | three ha hb hc =>
    simp only [UInt8.le_iff_toNat_le, UInt8.reduceToNat, isContinuation_iff,
      secondOf3_iff] at ha hb hc
    unfold point3
    omega
  | four ha hb hc hd =>
    simp only [UInt8.le_iff_toNat_le, UInt8.reduceToNat, isContinuation_iff,
      secondOf4_iff] at ha hb hc hd
    unfold point4
    omega

/-- The octets are those by which the character is encoded. -/
theorem encode_eq (h : Sequence lead v) : encode (Char.ofNat v) = lead := by
  have hval : (Char.ofNat v).val.toNat = v := by
    rw [Char.ofNat, dif_pos h.isValidChar]
    rfl
  unfold encode String.utf8EncodeChar
  rw [hval]
  dsimp only
  cases h with
  | one ha =>
    simp only [UInt8.lt_iff_toNat_lt, UInt8.reduceToNat] at ha
    rw [if_pos (by omega), UInt8.ofNat_toNat]
  | @two a b ha hb =>
    simp only [UInt8.le_iff_toNat_le, UInt8.reduceToNat, isContinuation_iff] at ha hb
    unfold point2
    rw [if_neg (by omega), if_pos (by omega), ofNat_eq a (by omega), ofNat_eq b (by omega)]
  | @three a b c ha hb hc =>
    simp only [UInt8.le_iff_toNat_le, UInt8.reduceToNat, isContinuation_iff,
      secondOf3_iff] at ha hb hc
    unfold point3
    rw [if_neg (by omega), if_neg (by omega), if_pos (by omega), ofNat_eq a (by omega),
      ofNat_eq b (by omega), ofNat_eq c (by omega)]
  | @four a b c d ha hb hc hd =>
    simp only [UInt8.le_iff_toNat_le, UInt8.reduceToNat, isContinuation_iff,
      secondOf4_iff] at ha hb hc hd
    unfold point4
    rw [if_neg (by omega), if_neg (by omega), if_neg (by omega), ofNat_eq a (by omega),
      ofNat_eq b (by omega), ofNat_eq c (by omega), ofNat_eq d (by omega)]
end Sequence

/-- The octets at the front of a text that encode its first character. -/
structure Encodes (lead : Bytes) (c : Char) : Prop where
  nonempty : lead ≠ []
  short : lead.length ≤ 4
  /-- A character is one ASCII octet, or has none. -/
  shape : (∃ b, lead = [b] ∧ b < 0x80) ∨ ∀ b ∈ lead, 0x80 ≤ b
  /-- What follows the octets does not matter. -/
  reads : ∀ t, decode? (lead ++ t) = some (c, lead.length)

/-- A character that was read is one such sequence at the front. -/
theorem sequence_of_decode? {s : Bytes} {c : Char} {n : Nat} (h : decode? s = some (c, n)) :
    ∃ lead rest v, s = lead ++ rest ∧ lead.length = n ∧ c = Char.ofNat v ∧ Sequence lead v := by
  unfold decode? at h
  split at h
  · cases h
  rename_i a r
  split at h
  · -- one octet
    rename_i ha
    obtain ⟨rfl, rfl⟩ := Prod.mk.inj (Option.some.inj h)
    exact ⟨[a], r, _, rfl, rfl, rfl, .one ha⟩
  split at h
  · -- two octets
    rename_i h2
    split at h
    · rename_i b r'
      split at h
      · rename_i hb
        obtain ⟨rfl, rfl⟩ := Prod.mk.inj (Option.some.inj h)
        exact ⟨[a, b], r', _, rfl, rfl, rfl, .two h2 hb⟩
      · cases h
    · cases h
  split at h
  · -- three octets
    rename_i h3
    split at h
    · rename_i b d r'
      split at h
      · rename_i hb
        obtain ⟨rfl, rfl⟩ := Prod.mk.inj (Option.some.inj h)
        have hb' := Bool.and_eq_true_iff.mp hb
        exact ⟨[a, b, d], r', _, rfl, rfl, rfl, .three h3 hb'.1 hb'.2⟩
      · cases h
    · cases h
  split at h
  · -- four octets
    rename_i h4
    split at h
    · rename_i b d e r'
      split at h
      · rename_i hb
        obtain ⟨rfl, rfl⟩ := Prod.mk.inj (Option.some.inj h)
        have hbd := Bool.and_eq_true_iff.mp hb
        have hb' := Bool.and_eq_true_iff.mp hbd.1
        exact ⟨[a, b, d, e], r', _, rfl, rfl, rfl, .four h4 hb'.1 hb'.2 hbd.2⟩
      · cases h
    · cases h
  · cases h

/-- A character that was read is encoded by so many octets at the front. -/
theorem encodes_of_decode? {s : Bytes} {c : Char} {n : Nat} (h : decode? s = some (c, n)) :
    ∃ lead rest, s = lead ++ rest ∧ lead.length = n ∧ Encodes lead c := by
  obtain ⟨lead, rest, v, hs, hn, rfl, hseq⟩ := sequence_of_decode? h
  exact ⟨lead, rest, hs, hn, hseq.length_le.1, hseq.length_le.2, hseq.shape, hseq.reads⟩

theorem exists_ofNat {n : Nat} (h : n < 256) : ∃ a : UInt8, UInt8.ofNat n = a ∧ a.toNat = n :=
  ⟨_, rfl, UInt8.toNat_ofNat_of_lt h⟩

/-- Every character is encoded by octets in the accepted form. -/
theorem sequence_encode (ch : Char) : Sequence (encode ch) ch.val.toNat := by
  have hv : ch.val.toNat < 0xD800 ∨ 0xDFFF < ch.val.toNat ∧ ch.val.toNat < 0x110000 := ch.valid
  unfold encode String.utf8EncodeChar
  generalize ch.val.toNat = v at hv
  dsimp only
  split
  · obtain ⟨a, hae, ha⟩ := exists_ofNat (n := v) (by omega)
    rw [hae]
    have hlead : a < 0x80 := by
      simp only [UInt8.lt_iff_toNat_lt, UInt8.reduceToNat]
      omega
    exact ha ▸ Sequence.one hlead
  split
  · obtain ⟨a, hae, ha⟩ := exists_ofNat (n := v / 64 % 32 + 192) (by omega)
    obtain ⟨b, hbe, hb⟩ := exists_ofNat (n := v % 64 + 128) (by omega)
    rw [hae, hbe]
    have hlead : 0xC2 ≤ a ∧ a ≤ 0xDF := by
      simp only [UInt8.le_iff_toNat_le, UInt8.reduceToNat]
      omega
    have hpoint : point2 a b = v := by
      unfold point2
      omega
    exact hpoint ▸ Sequence.two hlead (isContinuation_iff.mpr (by omega))
  split
  · obtain ⟨a, hae, ha⟩ := exists_ofNat (n := v / 4096 % 16 + 224) (by omega)
    obtain ⟨b, hbe, hb⟩ := exists_ofNat (n := v / 64 % 64 + 128) (by omega)
    obtain ⟨c, hce, hc⟩ := exists_ofNat (n := v % 64 + 128) (by omega)
    rw [hae, hbe, hce]
    have hlead : 0xE0 ≤ a ∧ a ≤ 0xEF := by
      simp only [UInt8.le_iff_toNat_le, UInt8.reduceToNat]
      omega
    have hpoint : point3 a b c = v := by
      unfold point3
      omega
    exact hpoint ▸ Sequence.three hlead (secondOf3_iff.mpr (by omega))
      (isContinuation_iff.mpr (by omega))
  · obtain ⟨a, hae, ha⟩ := exists_ofNat (n := v / 262144 % 8 + 240) (by omega)
    obtain ⟨b, hbe, hb⟩ := exists_ofNat (n := v / 4096 % 64 + 128) (by omega)
    obtain ⟨c, hce, hc⟩ := exists_ofNat (n := v / 64 % 64 + 128) (by omega)
    obtain ⟨d, hde, hd⟩ := exists_ofNat (n := v % 64 + 128) (by omega)
    rw [hae, hbe, hce, hde]
    have hlead : 0xF0 ≤ a ∧ a ≤ 0xF4 := by
      simp only [UInt8.le_iff_toNat_le, UInt8.reduceToNat]
      omega
    have hpoint : point4 a b c d = v := by
      unfold point4
      omega
    exact hpoint ▸ Sequence.four hlead (secondOf4_iff.mpr (by omega))
      (isContinuation_iff.mpr (by omega)) (isContinuation_iff.mpr (by omega))

/-- Every character is read back from its encoding. -/
theorem decode?_encode_append (ch : Char) (t : Bytes) :
    decode? (encode ch ++ t) = some (ch, (encode ch).length) := by
  rw [(sequence_encode ch).reads]
  exact congrArg (fun x => some (x, (encode ch).length)) (Char.ofNat_toNat ch)

/-- A character that was read is encoded at the front. -/
theorem encode_of_decode? {s : Bytes} {c : Char} {n : Nat} (h : decode? s = some (c, n)) :
    ∃ rest, s = encode c ++ rest ∧ n = (encode c).length := by
  obtain ⟨lead, rest, v, rfl, rfl, rfl, hseq⟩ := sequence_of_decode? h
  exact ⟨rest, by rw [hseq.encode_eq], by rw [hseq.encode_eq]⟩

/-- An ASCII octet in the encoding of a character is all of it. -/
theorem encode_ascii {ch : Char} {b : UInt8} (hmem : b ∈ encode ch) (hb : b < 0x80) :
    encode ch = [b] ∧ ch = Char.ofNat b.toNat := by
  have hone : encode ch = [b] := by
    rcases (sequence_encode ch).shape with ⟨a, ha, -⟩ | hall
    · rw [ha] at hmem ⊢
      rw [List.mem_singleton.mp hmem]
    · exact absurd hb (UInt8.not_lt.mpr (hall b hmem))
  have hread := decode?_encode_append ch []
  rw [hone, (Sequence.one hb).reads] at hread
  exact ⟨hone, (Prod.mk.inj (Option.some.inj hread)).1.symm⟩

theorem decode?_size {s : Bytes} {c : Char} {n : Nat} (h : decode? s = some (c, n)) :
    0 < n ∧ n ≤ s.length := by
  obtain ⟨lead, rest, rfl, rfl, he⟩ := encodes_of_decode? h
  have := List.length_pos_iff.mpr he.nonempty
  simp only [List.length_append]
  omega

/-- No ASCII octet completes a sequence that was not complete before it. -/
theorem decode?_none_append {s : Bytes} (hs : s ≠ []) (h : decode? s = none) {c : UInt8}
    (hc : c < 0x80) (t : Bytes) : decode? (s ++ c :: t) = none := by
  apply Option.eq_none_iff_forall_not_mem.mpr
  intro ⟨x, n⟩ hx
  obtain ⟨lead, rest, heq, rfl, he⟩ := encodes_of_decode? hx
  rcases List.append_eq_append_iff.mp heq with ⟨as, hlead, -⟩ | ⟨bs, rfl, -⟩
  · -- the character would reach over `c`, and characters of several octets have no ASCII octet
    cases as with
    | nil =>
      have := he.reads []
      rw [hlead, List.append_nil, List.append_nil, h] at this
      cases this
    | cons d as =>
      have hd : d = c := by simp_all
      rcases he.shape with ⟨b, hb, -⟩ | hall
      · have hlen := congrArg List.length (hlead.symm.trans hb)
        have := List.length_pos_iff.mpr hs
        simp only [List.length_append, List.length_cons, List.length_nil] at hlen
        omega
      · have := hall d (by simp [hlead])
        exact absurd (hd ▸ hc) (UInt8.not_lt.mpr this)
  · rw [he.reads] at h
    cases h

/-- Reading the first character of a text does not look past an ASCII octet behind it. -/
theorem decode?_append {s : Bytes} (hs : s ≠ []) {c : UInt8} (hc : c < 0x80) (t : Bytes) :
    decode? (s ++ c :: t) = decode? s := by
  cases h : decode? s with
  | none => exact decode?_none_append hs h hc t
  | some p =>
    obtain ⟨lead, rest, rfl, hn, he⟩ := encodes_of_decode? h
    rw [List.append_assoc, he.reads, hn]

theorem itemSize_pos (s : Bytes) : 0 < itemSize s := by
  unfold itemSize
  split
  · rename_i h
    exact (decode?_size h).1
  · exact Nat.one_pos

theorem itemSize_le {s : Bytes} (hs : s ≠ []) : itemSize s ≤ s.length := by
  unfold itemSize
  split
  · rename_i h
    exact (decode?_size h).2
  · exact List.length_pos_iff.mpr hs

theorem itemSize_append {s : Bytes} (hs : s ≠ []) {c : UInt8} (hc : c < 0x80) (t : Bytes) :
    itemSize (s ++ c :: t) = itemSize s := by
  simp only [itemSize, decode?_append hs hc]

end FrontEnd.Utf8
