import FrontEnd.Proofs.Search

/-!
Splitting and counting go by the same occurrences as searching. A text is cut around the first or
the last one, so the parts with the separator between them are the text again; and counting without
overlap meets first the occurrence at which the text is split, and goes on behind it.
-/
namespace FrontEnd.Bytes

/-- The parts of a text around an occurrence of the separator that has no other on its far side, or
the whole text and nothing when there is no occurrence. -/
structure CutAt (far : Nat → Nat → Prop) (r sep : Bytes) (parts : Bytes × Bytes) : Prop where
  around : (∃ i, OccursAt sep r i) →
    r = parts.1 ++ sep ++ parts.2 ∧ ∀ i, far i parts.1.length → ¬ OccursAt sep r i
  whole : (¬ ∃ i, OccursAt sep r i) → parts = (r, [])

section Occurrence

variable {s sep : Bytes} {i : Nat}

theorem OccursAt.room (h : OccursAt sep s i) : i + sep.length ≤ s.length := by
  obtain ⟨before, behind, rfl, rfl⟩ := h
  simp only [List.length_append]
  omega

theorem OccursAt.eq_append (h : OccursAt sep s i) :
    s = s.take i ++ sep ++ s.drop (i + sep.length) := by
  obtain ⟨before, behind, rfl, rfl⟩ := h
  rw [← List.length_append, List.drop_left, List.append_assoc before, List.take_left,
    List.append_assoc before]

theorem occursAt_singleton {c : UInt8} : OccursAt [c] s i ↔ s[i]? = some c := by
  constructor
  · rintro ⟨before, behind, rfl, rfl⟩
    simp
  · intro hc
    obtain ⟨hlt, rfl⟩ := List.getElem?_eq_some_iff.mp hc
    refine ⟨s.take i, s.drop (i + 1), ?_, List.length_take_of_le (Nat.le_of_lt hlt)⟩
    simp

end Occurrence

section Cut

variable {far : Nat → Nat → Prop} {r sep : Bytes} {found : Option Nat}

theorem clamp_of_le {i size : Nat} (h : i ≤ size) : clamp i size = i := if_pos h

theorem cutAround_some {i size : Nat} (h : i + size ≤ r.length) :
    r.cutAround size (some i) = (r.take i, r.drop (i + size)) := by
  have hfront : r.slice 0 i = r.take i := by
    have hi : clamp i r.length = i := clamp_of_le (by omega)
    rw [slice, hi]
    rfl
  have hrest : r.slice (i + size : Nat) r.length = r.drop (i + size) := by
    rw [slice, clamp_of_le h, clamp_of_le (Nat.le_refl _)]
    exact List.take_of_length_le (Nat.le_of_eq List.length_drop)
  rw [cutAround, hfront, hrest]

/-- Cutting where a search stops. -/
theorem cutAt_cutAround
    (hsome : ∀ i, found = some i → OccursAt sep r i ∧ ∀ j, far j i → ¬ OccursAt sep r j)
    (hnone : found = none → ∀ i, ¬ OccursAt sep r i) :
    CutAt far r sep (r.cutAround sep.length found) := by
  cases found with
  | none =>
    have hnever := hnone rfl
    exact ⟨fun ⟨i, hi⟩ => absurd hi (hnever i), fun _ => rfl⟩
  | some i =>
    obtain ⟨hoccurs, hfar⟩ := hsome i rfl
    have hroom := hoccurs.room
    rw [cutAround_some hroom]
    refine ⟨fun _ => ⟨hoccurs.eq_append, ?_⟩, fun hnever => absurd ⟨i, hoccurs⟩ hnever⟩
    rw [List.length_take_of_le (by omega)]
    exact hfar

/-- From the beginning on, searching finds the first occurrence of all. -/
theorem find_zero (r sep : Bytes) : r.find sep 0 = findNaive sep r 0 := by
  have hin : ¬ ((0 : Int) < 0 ∨ (0 : Int) > r.length) := by omega
  rw [find_eq_findNaive hin]
  rfl

theorem find_zero_eq_some {i : Nat} (h : r.find sep 0 = some i) :
    OccursAt sep r i ∧ ∀ j, j < i → ¬ OccursAt sep r j := by
  rw [find_zero] at h
  obtain ⟨-, hoccurs, hleast⟩ := (findNaive_drop_iff (Nat.zero_le r.length)).mp h
  exact ⟨hoccurs, fun j hj => hleast j hj (Nat.zero_le j)⟩

theorem find_zero_eq_none (h : r.find sep 0 = none) (i : Nat) : ¬ OccursAt sep r i := by
  rw [find_zero] at h
  exact (findNaive_drop_eq_none_iff (Nat.zero_le r.length)).mp h i (Nat.zero_le i)

theorem contains_iff_occurs : Bytes.contains r sep = true ↔ ∃ i, OccursAt sep r i := by
  rw [Bytes.contains]
  cases hfind : r.find sep 0 with
  | none =>
    have hnever := find_zero_eq_none hfind
    exact ⟨nofun, fun ⟨i, hi⟩ => absurd hi (hnever i)⟩
  | some i => exact ⟨fun _ => ⟨i, (find_zero_eq_some hfind).1⟩, fun _ => rfl⟩

theorem split_cutAt (r sep : Bytes) : CutAt (· < ·) r sep (r.split sep) :=
  cutAt_cutAround (fun _ => find_zero_eq_some) find_zero_eq_none

/-- An octet is a separator of one octet. -/
theorem splitByte_eq (r : Bytes) (c : UInt8) : r.splitByte c = r.split [c] := by
  have hin : ¬ ((0 : Int) < 0 ∨ (0 : Int) > r.length) := by omega
  have hfind : r.find [c] 0 = r.findByte c 0 := by rw [find, if_neg hin]
  rw [split, hfind]
  rfl

theorem rsplitByte_cutAt (r : Bytes) (c : UInt8) : CutAt (· > ·) r [c] (r.rsplitByte c) := by
  have htried : ∀ i, i < r.length ∧ (r[i]? == some c) = true ↔ OccursAt [c] r i := by
    intro i
    rw [occursAt_singleton, beq_iff_eq]
    exact ⟨And.right, fun hc => ⟨(List.getElem?_eq_some_iff.mp hc).1, hc⟩⟩
  apply cutAt_cutAround
  · intro i hi
    simpa only [rfindByte, lastBelow_eq_some_iff, htried] using hi
  · intro hnone
    simpa only [rfindByte, lastBelow_eq_none_iff, htried] using hnone

end Cut

section Count

variable {needle s : Bytes} {h : 0 < needle.length} {n m : Nat}

theorem countFrom_of_leads (hleads : needle <+: s) (n : Nat) :
    countFrom needle h s n = countFrom needle h (s.drop needle.length) (n + 1) := by
  rw [countFrom, dif_pos hleads.length_le, if_pos (List.prefix_iff_eq_take.mp hleads).symm]

theorem countFrom_of_short (hshort : s.length < needle.length) (n : Nat) :
    countFrom needle h s n = n := by
  rw [countFrom, dif_neg (by omega)]

theorem countFrom_of_not_leads (hnot : ¬ needle <+: s) (n : Nat) :
    countFrom needle h s n = countFrom needle h (s.drop 1) n := by
  by_cases hfits : needle.length ≤ s.length
  · have hne : s.take needle.length ≠ needle :=
      fun heq => hnot (List.prefix_iff_eq_take.mpr heq.symm)
    rw [countFrom, dif_pos hfits, if_neg hne]
  · rw [countFrom_of_short (by omega), countFrom_of_short (by rw [List.length_drop]; omega)]

/-- What was counted before is added to what is counted from here on. -/
theorem countFrom_add (m : Nat) : countFrom needle h s (m + n) = m + countFrom needle h s n := by
  fun_induction countFrom needle h s n with
  | case1 s n hfits hleads ih =>
    rw [countFrom, dif_pos hfits, if_pos hleads, ← ih, Nat.add_assoc]
  | case2 s n hfits hleads ih => rw [countFrom, dif_pos hfits, if_neg hleads, ih]
  | case3 s n hfits => rw [countFrom, dif_neg hfits]

/-- Offsets at which the needle does not stand may be passed over. -/
theorem countFrom_drop (hnone : ∀ k < m, ¬ needle <+: s.drop k) :
    countFrom needle h s n = countFrom needle h (s.drop m) n := by
  induction m with
  | zero => rfl
  | succ m ih =>
    have hlast := hnone m (Nat.lt_succ_self m)
    rw [ih fun k hk => hnone k (Nat.lt_succ_of_lt hk), countFrom_of_not_leads hlast, List.drop_drop]

theorem count_eq_zero (hne : 0 < needle.length) (hnever : ∀ i, ¬ OccursAt needle s i) :
    s.count needle = 0 := by
  have hnone : ∀ k < s.length, ¬ needle <+: s.drop k :=
    fun k hk hleads => hnever k (occursAt_iff.mpr ⟨Nat.le_of_lt hk, hleads⟩)
  have hshort : ([] : Bytes).length < needle.length := hne
  rw [count, dif_pos hne, countFrom_drop hnone, List.drop_length, countFrom_of_short hshort]

theorem count_eq_succ {i : Nat} (hne : 0 < needle.length) (hoccurs : OccursAt needle s i)
    (hleast : ∀ j, j < i → ¬ OccursAt needle s j) :
    s.count needle = 1 + Bytes.count (s.drop (i + needle.length)) needle := by
  obtain ⟨hi, hleads⟩ := occursAt_iff.mp hoccurs
  have hnone : ∀ k < i, ¬ needle <+: s.drop k :=
    fun k hk hleads => hleast k hk (occursAt_iff.mpr ⟨by omega, hleads⟩)
  rw [count, count, dif_pos hne, dif_pos hne, countFrom_drop hnone, countFrom_of_leads hleads,
    List.drop_drop, Nat.zero_add, ← countFrom_add]

theorem count_eq (r : Bytes) {sep : Bytes} (hne : 0 < sep.length) :
    r.count sep = if Bytes.contains r sep then 1 + (r.split sep).2.count sep else 0 := by
  cases hfind : r.find sep 0 with
  | none =>
    have hcontains : Bytes.contains r sep = false := by rw [Bytes.contains, hfind]; rfl
    rw [hcontains, count_eq_zero hne (find_zero_eq_none hfind)]
    rfl
  | some i =>
    obtain ⟨hoccurs, hleast⟩ := find_zero_eq_some hfind
    have hcontains : Bytes.contains r sep = true := by rw [Bytes.contains, hfind]; rfl
    rw [hcontains, split, hfind, cutAround_some hoccurs.room, count_eq_succ hne hoccurs hleast]
    rfl

end Count

/-- A text is split around the first occurrence of a separator, or of an octet, or around the last
of an octet, and is left whole when there is none. Counting meets the occurrence at which the text
is split, and then those behind it. -/
theorem split_count (r sep : Bytes) (c : UInt8) :
    CutAt (· < ·) r sep (r.split sep) ∧ CutAt (· < ·) r [c] (r.splitByte c) ∧
      CutAt (· > ·) r [c] (r.rsplitByte c) ∧
      (Bytes.contains r sep = true ↔ ∃ i, OccursAt sep r i) ∧
      (sep ≠ [] →
        r.count sep = if Bytes.contains r sep then 1 + (r.split sep).2.count sep else 0) := by
  refine ⟨split_cutAt r sep, ?_, rsplitByte_cutAt r c, contains_iff_occurs, ?_⟩
  · rw [splitByte_eq]
    exact split_cutAt r [c]
  · intro hne
    exact count_eq r (List.length_pos_iff.mpr hne)

/-- Occurrences overlap here, and the first is at the front: one that reaches into it does not
count. -/
theorem split_count_overlapping :
    let r : Bytes := [97, 98, 97, 98, 97, 98, 97, 98, 97, 98, 97, 98, 97, 98, 97, 98, 97]
    let sep : Bytes := [97, 98, 97]
    sep ≠ [] ∧ CutAt (· < ·) r sep (r.split sep) ∧ CutAt (· > ·) r [98] (r.rsplitByte 98) ∧
      r.count sep = 1 + (r.split sep).2.count sep := by
  intro r sep
  obtain ⟨hfirst, -, hlast, hcontains, hcount⟩ := split_count r sep 98
  have hne : sep ≠ [] := by decide
  have hin : Bytes.contains r sep = true := hcontains.mpr ⟨0, by decide⟩
  have hsum := hcount hne
  rw [hin] at hsum
  exact ⟨hne, hfirst, hlast, hsum⟩

end FrontEnd.Bytes
