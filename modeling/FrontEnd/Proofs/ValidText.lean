import FrontEnd.Proofs.Utf8

/-!
Texts of whole characters, and the places between their characters. A text has one division into
characters at most, so what stands behind whole characters of such a text has only whole characters
too. An octet of ASCII is a character of its own wherever it stands, and behind the first octet of a
longer character there is no place between two.
-/
namespace FrontEnd.Utf8

/-- The octets of a row of characters. -/
def ofChars (cs : List Char) : Bytes := cs.flatMap encode

/-- Every octet belongs to a character. -/
def Valid (s : Bytes) : Prop := ∃ cs, s = ofChars cs

/-- A place before, between or behind the characters of a text. -/
def Boundary (s : Bytes) (i : Nat) : Prop :=
  ∃ before after, s = ofChars before ++ ofChars after ∧ i = (ofChars before).length

theorem ofChars_cons (c : Char) (cs : List Char) : ofChars (c :: cs) = encode c ++ ofChars cs := rfl

theorem ofChars_append (cs ds : List Char) : ofChars (cs ++ ds) = ofChars cs ++ ofChars ds :=
  List.flatMap_append

theorem encode_ne_nil (c : Char) : encode c ≠ [] := (sequence_encode c).length_le.1

/-- The first character of a text is read off it in one way. -/
theorem encode_append_inj {c d : Char} {s t : Bytes} (h : encode c ++ s = encode d ++ t) :
    c = d ∧ s = t := by
  have hread := decode?_encode_append c s
  rw [h, decode?_encode_append] at hread
  obtain ⟨rfl, -⟩ := Prod.mk.inj (Option.some.inj hread)
  exact ⟨rfl, List.append_cancel_left h⟩

/-- Whether all octets are ASCII can be evaluated. -/
theorem ascii_of_all {s : Bytes} (h : (s.all fun b => decide (b < 0x80)) = true) :
    ∀ b ∈ s, b < 0x80 := by
  simpa using h

namespace Valid

variable {s t : Bytes} {b : UInt8} {i : Nat}

theorem nil : Valid [] := ⟨[], rfl⟩

theorem char (c : Char) : Valid (encode c) := ⟨[c], (List.append_nil _).symm⟩

theorem append (hs : Valid s) (ht : Valid t) : Valid (s ++ t) := by
  obtain ⟨cs, rfl⟩ := hs
  obtain ⟨ds, rfl⟩ := ht
  exact ⟨cs ++ ds, (ofChars_append cs ds).symm⟩

theorem of_ascii (h : ∀ b ∈ s, b < 0x80) : Valid s := by
  induction s with
  | nil => exact nil
  | cons b r ih =>
    obtain ⟨hb, hr⟩ := List.forall_mem_cons.mp h
    have hone : Valid [b] := (Sequence.one hb).encode_eq ▸ char _
    exact hone.append (ih hr)

/-- What stands behind whole characters of a text of whole characters are whole characters. -/
theorem of_append (hs : Valid s) (h : Valid (s ++ t)) : Valid t := by
  obtain ⟨cs, rfl⟩ := hs
  induction cs with
  | nil => exact h
  | cons c cs ih =>
    obtain ⟨ds, hds⟩ := h
    rw [ofChars_cons, List.append_assoc] at hds
    cases ds with
    | nil => exact absurd (List.append_eq_nil_iff.mp hds).1 (encode_ne_nil c)
    | cons d ds => exact ih ⟨ds, (encode_append_inj hds).2⟩

theorem exists_decode? (h : Valid s) (hs : s ≠ []) : ∃ c n, decode? s = some (c, n) := by
  obtain ⟨_ | ⟨c, cs⟩, rfl⟩ := h
  · exact absurd rfl hs
  · exact ⟨c, _, decode?_encode_append c (ofChars cs)⟩

/-- A single octet is a character just when it is ASCII. -/
theorem singleton_iff : Valid [b] ↔ b < 0x80 := by
  constructor
  · intro h
    obtain ⟨c, n, hread⟩ := h.exists_decode? (List.cons_ne_nil b [])
    obtain ⟨rest, hsplit, -⟩ := encode_of_decode? hread
    rcases List.append_eq_singleton_iff.mp hsplit.symm with ⟨hnil, -⟩ | ⟨hone, -⟩
    · exact absurd hnil (encode_ne_nil c)
    · have hseq := sequence_encode c
      rw [hone] at hseq
      generalize c.val.toNat = v at hseq
      cases hseq with
      | one hb => exact hb
  · intro hb
    exact of_ascii (List.forall_mem_singleton.mpr hb)

/-- A place is between characters when those before it are whole. -/
theorem boundary (h : Valid s) (hi : i ≤ s.length) (htake : Valid (s.take i)) : Boundary s i := by
  have hdrop : Valid (s.drop i) := htake.of_append (by rwa [List.take_append_drop])
  obtain ⟨before, hbefore⟩ := htake
  obtain ⟨after, hafter⟩ := hdrop
  refine ⟨before, after, ?_, ?_⟩
  · rw [← hbefore, ← hafter, List.take_append_drop]
  · rw [← hbefore, List.length_take, Nat.min_eq_left hi]

theorem boundary_zero (h : Valid s) : Boundary s 0 := h.boundary (Nat.zero_le _) nil

theorem boundary_length (h : Valid s) : Boundary s s.length :=
  h.boundary (Nat.le_refl _) (by rwa [List.take_length])

end Valid

namespace Boundary

variable {s : Bytes} {i k : Nat} {b : UInt8}

theorem le (h : Boundary s i) : i ≤ s.length := by
  obtain ⟨before, after, rfl, rfl⟩ := h
  rw [List.length_append]
  exact Nat.le_add_right _ _

theorem take (h : Boundary s i) : Valid (s.take i) := by
  obtain ⟨before, after, rfl, rfl⟩ := h
  exact ⟨before, List.take_left⟩

theorem drop (h : Boundary s i) : Valid (s.drop i) := by
  obtain ⟨before, after, rfl, rfl⟩ := h
  exact ⟨after, List.drop_left⟩

theorem valid (h : Boundary s i) : Valid s := by
  have happend := h.take.append h.drop
  rwa [List.take_append_drop] at happend

/-- From one place to the next there are whole characters, and nowhere else. -/
theorem slice_iff (h : Boundary s i) (hk : i + k ≤ s.length) :
    Boundary s (i + k) ↔ Valid ((s.drop i).take k) := by
  constructor
  · intro hstop
    refine h.take.of_append ?_
    rw [← List.take_add]
    exact hstop.take
  · intro hslice
    refine h.valid.boundary hk ?_
    rw [List.take_add]
    exact h.take.append hslice

theorem add_iff (h : Boundary s i) : Boundary s (i + k) ↔ Boundary (s.drop i) k := by
  constructor
  · intro hstop
    have hle := hstop.le
    exact h.drop.boundary (by rw [List.length_drop]; omega) ((h.slice_iff hle).mp hstop)
  · intro hstop
    have hle := hstop.le
    have hi := h.le
    rw [List.length_drop] at hle
    exact (h.slice_iff (by omega)).mpr hstop.take

/-- Behind the first octet of a character there is a place just when that is all of it. -/
theorem succ_iff (h : Boundary s i) (hb : s[i]? = some b) : Boundary s (i + 1) ↔ b < 0x80 := by
  obtain ⟨hlt, rfl⟩ := List.getElem?_eq_some_iff.mp hb
  rw [h.slice_iff hlt, List.drop_eq_getElem_cons hlt, List.take_succ_cons, List.take_zero,
    Valid.singleton_iff]

end Boundary

namespace Valid

variable {s : Bytes} {b : UInt8} {i : Nat}

theorem boundary_one {r : Bytes} (h : Valid (b :: r)) (hb : b < 0x80) : Boundary (b :: r) 1 :=
  (h.boundary_zero.succ_iff rfl).mpr hb

/-- The character at the front of a text ends before the next. -/
theorem boundary_of_decode? {c : Char} {n : Nat} (h : Valid s) (hd : decode? s = some (c, n)) :
    Boundary s n := by
  obtain ⟨rest, rfl, rfl⟩ := encode_of_decode? hd
  refine h.boundary (by simp) ?_
  rw [List.take_left]
  exact char c

/-- An ASCII octet starts a character. -/
theorem boundary_of_ascii (h : Valid s) (hb : s[i]? = some b) (hascii : b < 0x80) :
    Boundary s i := by
  obtain ⟨cs, rfl⟩ := h
  induction cs generalizing i with
  | nil => cases hb
  | cons c cs ih =>
    have hfirst : Boundary (ofChars (c :: cs)) (encode c).length :=
      ⟨[c], cs, by rw [← ofChars_append]; rfl, by rw [ofChars, List.flatMap_singleton]⟩
    rw [ofChars_cons] at hb
    by_cases hlt : i < (encode c).length
    · -- the octet is all of the first character
      rw [List.getElem?_append_left hlt] at hb
      have hone := (encode_ascii (List.mem_of_getElem? hb) hascii).1
      rw [hone, List.length_singleton, Nat.lt_one_iff] at hlt
      rw [hlt]
      exact hfirst.valid.boundary_zero
    · obtain ⟨k, rfl⟩ := Nat.exists_eq_add_of_le (Nat.not_lt.mp hlt)
      rw [List.getElem?_append_right (Nat.le_add_right _ _), Nat.add_sub_cancel_left] at hb
      rw [hfirst.add_iff, ofChars_cons, List.drop_left]
      exact ih hb

/-- Where an ASCII octet or the end follows, a character ends. -/
theorem boundary_of_stop (h : Valid s) (hi : i ≤ s.length)
    (hstop : ∀ b, s[i]? = some b → b < 0x80) : Boundary s i := by
  cases hb : s[i]? with
  | none =>
    have hge := List.getElem?_eq_none_iff.mp hb
    rw [Nat.le_antisymm hi hge]
    exact h.boundary_length
  | some b => exact h.boundary_of_ascii hb (hstop b hb)

end Valid

end FrontEnd.Utf8
