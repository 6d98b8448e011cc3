import FrontEnd.Proofs.MessagePack

/-!
Records as MessagePack documents. Fields that can be written make a record that can be written, and
a record is read back by reading its fields one after the other onto a blank one. Since no encoding
goes on where another one ends, documents in a row are known from their encodings, and so are the
items of a list, also where there are more of them than the list can say.
-/
namespace FrontEnd.Pack

/-- A list whose length can be written. -/
def Short {α : Type} (xs : List α) : Prop := xs.length < 4294967296

instance {α : Type} (xs : List α) : Decidable (Short xs) := Nat.decLt _ _

theorem Short.of_length_eq {α β : Type} {xs : List α} {ys : List β} (hys : Short ys)
    (h : xs.length = ys.length) : Short xs := by
  unfold Short at hys ⊢
  omega

section Fields

/-! The fields of a record, read one after the other onto a blank one. -/

variable {α : Type} {names : List Bytes} {set : α → Bytes → Pack → Option α} {a b c : α}
  {fields fields' : List (Pack × Pack)} {k : String} {v : Pack}

/-- Reading the fields takes one record to another, whatever a blank record is. -/
def Sets (names : List Bytes) (set : α → Bytes → Pack → Option α) (a : α)
    (fields : List (Pack × Pack)) (b : α) : Prop :=
  ∀ blank, readRecord? names set blank a (.map fields) = some b

theorem Sets.nil : Sets names set a [] a := fun _ => rfl

theorem Sets.append (h : Sets names set a fields b) (h' : Sets names set b fields' c) :
    Sets names set a (fields ++ fields') c := by
  intro blank
  obtain ⟨entries, hentries, hfold⟩ := Option.bind_eq_some_iff.mp (h blank)
  obtain ⟨entries', hentries', hfold'⟩ := Option.bind_eq_some_iff.mp (h' blank)
  refine Option.bind_eq_some_iff.mpr ⟨entries ++ entries', ?_, ?_⟩
  · simp only [Pack.asRecord?] at hentries hentries' ⊢
    simp [List.mapM_append, hentries, hentries']
  · rw [List.foldlM_append]
    exact Option.bind_eq_some_iff.mpr ⟨b, hfold, hfold'⟩

theorem Sets.field (hk : Bytes.ofString k ∈ names) (h : set a k v = some b) :
    Sets names set a (Pack.field k v) b := by
  intro blank
  unfold Pack.readRecord?
  refine Option.bind_eq_some_iff.mpr ⟨[(Bytes.ofString k, v)], rfl, ?_⟩
  simp [clearsRecord, hk, h]

theorem Sets.textField? {s : Bytes} (hk : Bytes.ofString k ∈ names)
    (h : set a k (.str s) = some b) (hempty : s = [] → a = b) :
    Sets names set a (Pack.textField? k s) b := by
  unfold Pack.textField?
  split
  · rename_i hs
    exact hempty (List.isEmpty_iff.mp hs) ▸ .nil
  · exact .field hk h

theorem Sets.natField? {n : Nat} (hk : Bytes.ofString k ∈ names)
    (h : set a k (.int n) = some b) (hzero : n = 0 → a = b) :
    Sets names set a (Pack.natField? k n) b := by
  unfold Pack.natField?
  split
  · rename_i hn
    exact hzero hn ▸ .nil
  · exact .field hk h

theorem Sets.listField? {items : List Pack} (hk : Bytes.ofString k ∈ names)
    (h : set a k (.arr items) = some b) (hempty : items = [] → a = b) :
    Sets names set a (Pack.listField? k items) b := by
  unfold Pack.listField?
  split
  · rename_i hs
    exact hempty (List.isEmpty_iff.mp hs) ▸ .nil
  · exact .field hk h

theorem Sets.readRecord? (h : Sets names set a fields b) (blank : α) :
    readRecord? names set blank a (.map fields) = some b := h blank

end Fields

section Written

/-- Fields that can be written, at most so many. -/
structure FieldsFit (n : Nat) (fields : List (Pack × Pack)) : Prop where
  length : fields.length ≤ n
  names : ∀ f ∈ fields, f.1.Fits
  values : ∀ f ∈ fields, f.2.Fits

variable {m n : Nat} {fields fields' : List (Pack × Pack)} {k : String} {v : Pack}

theorem FieldsFit.nil : FieldsFit n [] := ⟨by simp, by simp, by simp⟩

theorem FieldsFit.append (h : FieldsFit m fields) (h' : FieldsFit n fields') :
    FieldsFit (m + n) (fields ++ fields') where
  length := by
    rw [List.length_append]
    exact Nat.add_le_add h.length h'.length
  names f hf := (List.mem_append.mp hf).elim (h.names f) (h'.names f)
  values f hf := (List.mem_append.mp hf).elim (h.values f) (h'.values f)

theorem FieldsFit.field (hk : Short (Bytes.ofString k)) (hv : v.Fits) :
    FieldsFit 1 (Pack.field k v) where
  length := by simp [Pack.field]
  names f hf := by
    rw [List.mem_singleton.mp hf]
    exact .str hk
  values f hf := by
    rw [List.mem_singleton.mp hf]
    exact hv

theorem FieldsFit.textField? {s : Bytes} (hk : Short (Bytes.ofString k)) (hs : Short s) :
    FieldsFit 1 (Pack.textField? k s) := by
  unfold Pack.textField?
  split
  · exact .nil
  · exact .field hk (.str hs)

theorem Fits.nat {n : Nat} (h : n < 18446744073709551616) : (Pack.int n).Fits :=
  .int (by omega) (by omega)

theorem FieldsFit.natField? {n : Nat} (hk : Short (Bytes.ofString k))
    (hn : n < 18446744073709551616) : FieldsFit 1 (Pack.natField? k n) := by
  unfold Pack.natField?
  split
  · exact .nil
  · exact .field hk (.nat hn)

theorem FieldsFit.listField? {items : List Pack} (hk : Short (Bytes.ofString k))
    (hitems : (Pack.arr items).Fits) : FieldsFit 1 (Pack.listField? k items) := by
  unfold Pack.listField?
  split
  · exact .nil
  · exact .field hk hitems

theorem FieldsFit.map (h : FieldsFit n fields) (hn : n < 4294967296) : (Pack.map fields).Fits :=
  .map (Nat.lt_of_le_of_lt h.length hn) h.names h.values

theorem fits_arr {α : Type} {pack : α → Pack} {xs : List α} (hlength : Short xs)
    (h : ∀ x ∈ xs, (pack x).Fits) : (Pack.arr (xs.map pack)).Fits :=
  .arr (hlength.of_length_eq (List.length_map _)) (by simpa using h)

theorem asList?_fits {p : Pack} {items : List Pack} (hp : p.Fits)
    (h : p.asList? = some (some items)) : Short items ∧ ∀ q ∈ items, q.Fits := by
  cases hp with
  | arr hlength hitems =>
    cases h
    exact ⟨hlength, hitems⟩
  | _ => cases h

end Written

section Rows

variable {p q : Pack} {ps qs : List Pack} {x y : Bytes}

theorem Fits.encode_ne_nil (h : p.Fits) : p.encode ≠ [] := by
  intro hnil
  have hread := h.reads (Nat.le_refl _) []
  rw [hnil, List.append_nil] at hread
  simp [decodeDeep] at hread

/-- No encoding goes on where another one ends. -/
theorem Fits.encode_append_inj (hp : p.Fits) (hq : q.Fits) (h : p.encode ++ x = q.encode ++ y) :
    p = q ∧ x = y := by
  have hreadp := hp.reads (Nat.le_max_left p.encode.length q.encode.length) x
  have hreadq := hq.reads (Nat.le_max_right p.encode.length q.encode.length) y
  rw [h, hreadq, Option.some.injEq, Prod.mk.injEq] at hreadp
  exact ⟨hreadp.1.symm, hreadp.2.symm⟩

theorem flatMap_encode_inj (hp : ∀ p ∈ ps, p.Fits) (hq : ∀ q ∈ qs, q.Fits)
    (h : ps.flatMap encode = qs.flatMap encode) : ps = qs := by
  induction ps generalizing qs with
  | nil =>
    cases qs with
    | nil => rfl
    | cons q qs => exact absurd (List.append_eq_nil_iff.mp h.symm).1 (hq q (by simp)).encode_ne_nil
  | cons p ps ih =>
    cases qs with
    | nil => exact absurd (List.append_eq_nil_iff.mp h).1 (hp p (by simp)).encode_ne_nil
    | cons q qs =>
      obtain ⟨rfl, hrest⟩ := (hp p (by simp)).encode_append_inj (hq q (by simp)) h
      rw [ih (fun p hp' => hp p (by simp [hp'])) (fun q hq' => hq q (by simp [hq'])) hrest]

/-- The octets behind the first one of a list's header. -/
def countWidth (c : UInt8) : Nat := if c = 0xDC then 2 else if c = 0xDD then 4 else 0

theorem arrHeader_eq_cons (n : Nat) : ∃ c r, arrHeader n = c :: r ∧ r.length = countWidth c := by
  unfold arrHeader
  split
  · rename_i hn
    have hc : ((0x90 + n).toUInt8).toNat = 0x90 + n := by
      simp only [Nat.toUInt8, UInt8.toNat_ofNat']
      omega
    have hne : ∀ d : UInt8, 0xA0 ≤ d.toNat → (0x90 + n).toUInt8 ≠ d := by
      rintro d hd rfl
      omega
    refine ⟨_, [], rfl, ?_⟩
    rw [countWidth, if_neg (hne 0xDC (by decide)), if_neg (hne 0xDD (by decide)), List.length_nil]
  split
  · exact ⟨0xDC, _, rfl, Bytes.length_bigEndian 2 n⟩
  · exact ⟨0xDD, _, rfl, Bytes.length_bigEndian 4 n⟩

theorem arrHeader_append_inj {m n : Nat} (h : arrHeader m ++ x = arrHeader n ++ y) : x = y := by
  obtain ⟨c, r, hm, hr⟩ := arrHeader_eq_cons m
  obtain ⟨c', r', hn, hr'⟩ := arrHeader_eq_cons n
  rw [hm, hn, List.cons_append, List.cons_append, List.cons.injEq] at h
  obtain ⟨rfl, h⟩ := h
  exact (List.append_inj h (hr.trans hr'.symm)).2

/-- Lists of documents that can be written are known from their encodings, however long. -/
theorem encode_arr_inj (hp : ∀ p ∈ ps, p.Fits) (hq : ∀ q ∈ qs, q.Fits)
    (h : (Pack.arr ps).encode = (Pack.arr qs).encode) : ps = qs := by
  rw [encode_arr, encode_arr] at h
  exact flatMap_encode_inj hp hq (arrHeader_append_inj h)

end Rows

end FrontEnd.Pack
