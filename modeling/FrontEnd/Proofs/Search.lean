import FrontEnd.Bytes.Search

/-!
Searching finds the first occurrence, whichever way it takes. Comparing the needle at every position
is the measure of all: a walk for one octet does the same, and a window that moves by the distances
of a skip table passes over no position at which the needle stands, because the octet that decides
how far it moves would have to stand in the needle nearer to its end. Searching backwards finds the
last of the offsets that it tries.
-/
namespace FrontEnd.Bytes

/-- The needle stands in the text, with so many octets before it. -/
def OccursAt (needle s : Bytes) (i : Nat) : Prop :=
  ∃ before behind, s = before ++ needle ++ behind ∧ before.length = i

theorem occursAt_iff {needle s : Bytes} {i : Nat} :
    OccursAt needle s i ↔ i ≤ s.length ∧ needle <+: s.drop i := by
  constructor
  · rintro ⟨before, behind, rfl, rfl⟩
    refine ⟨by simp, behind, ?_⟩
    rw [List.append_assoc, List.drop_left]
  · rintro ⟨hi, behind, hbehind⟩
    refine ⟨s.take i, behind, ?_, List.length_take_of_le hi⟩
    rw [List.append_assoc, hbehind, List.take_append_drop]

instance (needle s : Bytes) (i : Nat) : Decidable (OccursAt needle s i) :=
  decidable_of_iff _ occursAt_iff.symm

/-- The needle stands behind the first `k` octets of the haystack, and nowhere before. -/
structure FirstAt (needle hay : Bytes) (k : Nat) : Prop where
  within : k ≤ hay.length
  leads : needle <+: hay.drop k
  least : ∀ m < k, ¬ needle <+: hay.drop m

section Naive

variable {needle hay : Bytes} {i j m : Nat}

theorem findNaive_nil (hne : needle ≠ []) (i : Nat) : findNaive needle [] i = none := by
  rw [findNaive, if_neg (by simpa using hne)]

theorem findNaive_of_leads (h : needle <+: hay) (i : Nat) : findNaive needle hay i = some i := by
  cases hay with
  | nil =>
    obtain rfl := List.prefix_nil.mp h
    rfl
  | cons b r => rw [findNaive, if_pos (List.isPrefixOf_iff_prefix.mpr h)]

theorem findNaive_of_not_leads {b : UInt8} {r : Bytes} (h : ¬ needle <+: b :: r) (i : Nat) :
    findNaive needle (b :: r) i = findNaive needle r (i + 1) := by
  rw [findNaive, if_neg (fun hp => h (List.isPrefixOf_iff_prefix.mp hp))]

/-- Positions at which the needle does not stand may be passed over, even past the end. -/
theorem findNaive_drop (hne : needle ≠ []) (h : ∀ k < m, ¬ needle <+: hay.drop k) :
    findNaive needle hay i = findNaive needle (hay.drop m) (i + m) := by
  induction m generalizing hay i with
  | zero => rfl
  | succ m ih =>
    cases hay with
    | nil => rw [List.drop_nil, findNaive_nil hne, findNaive_nil hne]
    | cons b r =>
      have hfirst : ¬ needle <+: b :: r := h 0 (Nat.zero_lt_succ m)
      have hrest : ∀ k < m, ¬ needle <+: r.drop k := fun k hk => h (k + 1) (Nat.succ_lt_succ hk)
      rw [findNaive_of_not_leads hfirst, ih hrest, List.drop_succ_cons, Nat.add_assoc,
        Nat.add_comm 1 m]

theorem findNaive_eq_some_iff :
    findNaive needle hay i = some j ↔ ∃ k, FirstAt needle hay k ∧ j = i + k := by
  induction hay generalizing i with
  | nil =>
    by_cases hne : needle = []
    · subst hne
      constructor
      · intro h
        cases h
        exact ⟨0, ⟨Nat.le_refl 0, List.nil_prefix, fun m hm => absurd hm (Nat.not_lt_zero m)⟩, rfl⟩
      · rintro ⟨k, hk, rfl⟩
        obtain rfl := Nat.le_zero.mp hk.within
        rfl
    · rw [findNaive_nil hne]
      constructor
      · intro h
        cases h
      · rintro ⟨k, hk, -⟩
        have hleads := hk.leads
        rw [List.drop_nil] at hleads
        exact absurd (List.prefix_nil.mp hleads) hne
  | cons b r ih =>
    by_cases hfirst : needle <+: b :: r
    · rw [findNaive_of_leads hfirst]
      constructor
      · intro h
        cases h
        exact ⟨0, ⟨Nat.zero_le _, hfirst, fun m hm => absurd hm (Nat.not_lt_zero m)⟩, rfl⟩
      · rintro ⟨k, hk, rfl⟩
        cases k with
        | zero => rfl
        | succ k => exact absurd hfirst (hk.least 0 (Nat.zero_lt_succ k))
    · rw [findNaive_of_not_leads hfirst, ih]
      constructor
      · rintro ⟨k, hk, rfl⟩
        refine ⟨k + 1, ⟨Nat.succ_le_succ hk.within, hk.leads, ?_⟩, by omega⟩
        intro m hm
        cases m with
        | zero => exact hfirst
        | succ m => exact hk.least m (Nat.lt_of_succ_lt_succ hm)
      · rintro ⟨k, hk, rfl⟩
        cases k with
        | zero => exact absurd hk.leads hfirst
        | succ k =>
          have hleast : ∀ m < k, ¬ needle <+: r.drop m := fun m hm =>
            hk.least (m + 1) (Nat.succ_lt_succ hm)
          exact ⟨k, ⟨Nat.le_of_succ_le_succ hk.within, hk.leads, hleast⟩, by omega⟩

theorem findNaive_eq_none_iff :
    findNaive needle hay i = none ↔ ∀ k ≤ hay.length, ¬ needle <+: hay.drop k := by
  induction hay generalizing i with
  | nil =>
    by_cases hne : needle = []
    · simp [findNaive, hne]
    · simp [findNaive, hne, List.prefix_nil]
  | cons b r ih =>
    by_cases hfirst : needle <+: b :: r
    · rw [findNaive_of_leads hfirst]
      constructor
      · intro h
        cases h
      · intro h
        exact absurd hfirst (h 0 (Nat.zero_le _))
    · rw [findNaive_of_not_leads hfirst, ih]
      constructor
      · intro h k hk
        cases k with
        | zero => exact hfirst
        | succ k => exact h k (Nat.le_of_succ_le_succ hk)
      · intro h k hk
        exact h (k + 1) (Nat.succ_le_succ hk)

/-- A walk for one octet compares a needle of one octet at every position. -/
theorem findIdx?_eq_findNaive (c : UInt8) (hay : Bytes) (i : Nat) :
    (hay.findIdx? (· == c)).map (i + ·) = findNaive [c] hay i := by
  induction hay generalizing i with
  | nil => rfl
  | cons b r ih =>
    rw [List.findIdx?_cons]
    by_cases hb : b = c
    · subst hb
      rw [findNaive_of_leads (by simp)]
      simp
    · have hnot : ¬ [c] <+: b :: r := by
        simpa using Ne.symm hb
      rw [findNaive_of_not_leads hnot, ← ih, if_neg (by simpa using hb), Option.map_map]
      congr 1
      funext k
      simp only [Function.comp_apply]
      omega

end Naive

namespace SkipTable

theorem distance_set (t : SkipTable) (c d : UInt8) (h : 0 < d.toNat) (b : UInt8) :
    (t.set c d h).distance b = if b = c then d else t.distance b := rfl

theorem record_of_not_mem {b : UInt8} {lead : Bytes} (h : lead.length < 256) (t : SkipTable)
    (hb : b ∉ lead) : (record lead h t).distance b = t.distance b := by
  induction lead generalizing t with
  | nil => rfl
  | cons c r ih =>
    rw [List.mem_cons, not_or] at hb
    rw [record, ih _ _ hb.2, distance_set, if_neg hb.1]

/-- A recorded octet lets the window move no farther than from where it stands to the end. -/
theorem record_le {b : UInt8} {lead : Bytes} (h : lead.length < 256) (t : SkipTable) {j : Nat}
    (hj : lead[j]? = some b) : ((record lead h t).distance b).toNat ≤ lead.length - j := by
  induction lead generalizing t j with
  | nil => cases hj
  | cons c r ih =>
    rw [record, List.length_cons]
    cases j with
    | succ j =>
      refine Nat.le_trans (ih _ _ hj) ?_
      omega
    | zero =>
      cases hj
      by_cases hb : b ∈ r
      · -- a later occurrence overrides this one, and is nearer to the end
        obtain ⟨k, hk⟩ := List.mem_iff_getElem?.mp hb
        refine Nat.le_trans (ih _ _ hk) ?_
        omega
      · rw [record_of_not_mem _ _ hb, distance_set, if_pos rfl, UInt8.toNat_ofNat']
        exact Nat.mod_le _ _

variable {needle hay : Bytes} (h : 0 < needle.length ∧ needle.length < 256)

/-- An octet of the needle, but for the last, lets the window move no farther than from there to the
last. -/
theorem ofNeedle_near {b : UInt8} {j : Nat} (hj : needle.dropLast[j]? = some b) :
    ((ofNeedle needle h).distance b).toNat ≤ needle.length - 1 - j := by
  rw [← List.length_dropLast]
  exact record_le _ _ hj

theorem ofNeedle_le (b : UInt8) : ((ofNeedle needle h).distance b).toNat ≤ needle.length := by
  by_cases hb : b ∈ needle.dropLast
  · obtain ⟨j, hj⟩ := List.mem_iff_getElem?.mp hb
    refine Nat.le_trans (ofNeedle_near h hj) ?_
    omega
  · rw [ofNeedle, record_of_not_mem _ _ hb, UInt8.toNat_ofNat']
    exact Nat.mod_le _ _

/-- The window passes over no occurrence. -/
theorem not_leads_of_lt (hlast : needle.length - 1 < hay.length) {k : Nat} (hk : 0 < k)
    (hlt : k < ((ofNeedle needle h).distance hay[needle.length - 1]).toNat) :
    ¬ needle <+: hay.drop k := by
  rintro ⟨behind, hbehind⟩
  have hle := ofNeedle_le h hay[needle.length - 1]
  -- were the needle at `k`, the last octet of the window would stand in it `k` before its end
  have hoctet : needle.dropLast[needle.length - 1 - k]? = some hay[needle.length - 1] := by
    have hplace : needle.length - 1 - k < needle.length - 1 := by omega
    have hsum : k + (needle.length - 1 - k) = needle.length - 1 := by omega
    calc needle.dropLast[needle.length - 1 - k]?
        = needle[needle.length - 1 - k]? := by rw [List.getElem?_dropLast, if_pos hplace]
      _ = (needle ++ behind)[needle.length - 1 - k]? := by
          rw [List.getElem?_append_left (by omega)]
      _ = hay[needle.length - 1]? := by rw [hbehind, List.getElem?_drop, hsum]
      _ = some hay[needle.length - 1] := List.getElem?_eq_getElem hlast
  have hnear := ofNeedle_near h hoctet
  omega

end SkipTable

/-- A haystack shorter than the needle holds none. -/
theorem findNaive_of_lt {needle hay : Bytes} (h : hay.length < needle.length) (i : Nat) :
    findNaive needle hay i = none := by
  have hne : needle ≠ [] := List.ne_nil_of_length_pos (by omega)
  have hnone : ∀ k < hay.length, ¬ needle <+: hay.drop k := by
    intro k _ hleads
    have hle := hleads.length_le
    rw [List.length_drop] at hle
    omega
  rw [findNaive_drop hne hnone, List.drop_length, findNaive_nil hne]

theorem findSkip_eq_findNaive {needle : Bytes} (h : 0 < needle.length ∧ needle.length < 256)
    (hay : Bytes) (i : Nat) :
    findSkip (SkipTable.ofNeedle needle h) needle hay i = findNaive needle hay i := by
  fun_induction findSkip (SkipTable.ofNeedle needle h) needle hay i with
  | case1 hay i hlast hleads =>
    rw [findNaive_of_leads (List.isPrefixOf_iff_prefix.mp hleads)]
  | case2 hay i hlast move hleads ih =>
    have hpassed : ∀ k < move, ¬ needle <+: hay.drop k := by
      intro k hk
      cases k with
      | zero => exact fun hp => hleads (List.isPrefixOf_iff_prefix.mpr hp)
      | succ k => exact SkipTable.not_leads_of_lt h hlast (Nat.zero_lt_succ k) hk
    rw [ih, ← findNaive_drop (List.ne_nil_of_length_pos h.1) hpassed]
  | case3 hay i hlast => rw [findNaive_of_lt (by omega)]

/-- All ways of searching come to comparing at every position. -/
theorem find_eq_findNaive {s needle : Bytes} {start : Int} (h : ¬ (start < 0 ∨ start > s.length)) :
    s.find needle start = findNaive needle (s.drop start.toNat) start.toNat := by
  rw [find, if_neg h]
  dsimp only
  split
  · rw [findNaive_of_leads List.nil_prefix]
  · rw [findByte, if_neg (fun hneg => h (.inl hneg)), findIdx?_eq_findNaive]
  · split
    · rfl
    · split
      · exact findSkip_eq_findNaive _ _ _
      · rfl

/-- An occurrence in what is left of a text is one in the text. -/
theorem occursAt_drop_iff {s needle : Bytes} {at_ k : Nat} (h : at_ ≤ s.length) :
    k ≤ (s.drop at_).length ∧ needle <+: (s.drop at_).drop k ↔ OccursAt needle s (at_ + k) := by
  rw [occursAt_iff, List.length_drop, List.drop_drop]
  refine and_congr_left fun _ => ?_
  omega

theorem findNaive_drop_iff {s needle : Bytes} {at_ i : Nat} (h : at_ ≤ s.length) :
    findNaive needle (s.drop at_) at_ = some i ↔
      at_ ≤ i ∧ OccursAt needle s i ∧ ∀ j < i, at_ ≤ j → ¬ OccursAt needle s j := by
  rw [findNaive_eq_some_iff]
  constructor
  · rintro ⟨k, hk, rfl⟩
    refine ⟨Nat.le_add_right _ _, (occursAt_drop_iff h).mp ⟨hk.within, hk.leads⟩, ?_⟩
    intro j hj hat hoccurs
    obtain ⟨m, rfl⟩ := Nat.exists_eq_add_of_le hat
    exact hk.least m (by omega) ((occursAt_drop_iff h).mpr hoccurs).2
  · rintro ⟨hat, hoccurs, hleast⟩
    obtain ⟨k, rfl⟩ := Nat.exists_eq_add_of_le hat
    have hk := (occursAt_drop_iff h).mpr hoccurs
    refine ⟨k, ⟨hk.1, hk.2, ?_⟩, rfl⟩
    intro m hm hleads
    exact hleast (at_ + m) (by omega) (Nat.le_add_right _ _)
      ((occursAt_drop_iff h).mp ⟨by omega, hleads⟩)

theorem findNaive_drop_eq_none_iff {s needle : Bytes} {at_ : Nat} (h : at_ ≤ s.length) :
    findNaive needle (s.drop at_) at_ = none ↔ ∀ i, at_ ≤ i → ¬ OccursAt needle s i := by
  rw [findNaive_eq_none_iff]
  constructor
  · intro hnone i hi hoccurs
    obtain ⟨k, rfl⟩ := Nat.exists_eq_add_of_le hi
    have hk := (occursAt_drop_iff h).mpr hoccurs
    exact hnone k hk.1 hk.2
  · intro hnever k hk hleads
    exact hnever (at_ + k) (Nat.le_add_right _ _) ((occursAt_drop_iff h).mp ⟨hk, hleads⟩)

/-- Searching gives the least offset from the start on at which the needle stands, and nothing just
when there is none or the start lies outside. A window moved by a skip table finds what comparing at
every position finds. -/
theorem find_least (s needle : Bytes) (start : Int) :
    (∀ i : Nat, s.find needle start = some i ↔
      (0 ≤ start ∧ start ≤ s.length) ∧ start ≤ i ∧ OccursAt needle s i ∧
        ∀ j < i, start ≤ j → ¬ OccursAt needle s j) ∧
    (s.find needle start = none ↔
      (start < 0 ∨ start > s.length) ∨ ∀ i : Nat, start ≤ i → ¬ OccursAt needle s i) ∧
    ∀ (at_ : Nat) (_ : at_ ≤ s.length) (hsize : 2 ≤ needle.length ∧ needle.length ≤ 255),
      findSkip (SkipTable.ofNeedle needle ⟨by omega, by omega⟩) needle (s.drop at_) at_ =
        findNaive needle (s.drop at_) at_ := by
  refine and_assoc.mp ⟨?_, fun at_ _ hsize => findSkip_eq_findNaive _ _ _⟩
  by_cases hout : start < 0 ∨ start > s.length
  · have hnone : s.find needle start = none := by rw [find, if_pos hout]
    rw [hnone]
    refine ⟨fun i => ⟨nofun, ?_⟩, fun _ => .inl hout, fun _ => rfl⟩
    rintro ⟨hin, -⟩
    omega
  · obtain ⟨at_, rfl⟩ : ∃ n : Nat, start = n := ⟨start.toNat, by omega⟩
    have hat : at_ ≤ s.length := by omega
    rw [find_eq_findNaive hout, Int.toNat_natCast]
    simp only [Int.ofNat_le]
    constructor
    · intro i
      rw [findNaive_drop_iff hat]
      exact ⟨fun h => ⟨⟨by omega, hat⟩, h⟩, fun h => h.2⟩
    · rw [findNaive_drop_eq_none_iff hat]
      exact ⟨.inr, fun h => h.resolve_left hout⟩

/-- The octets before the last say where the window may stop next: it must not pass the second
`abcab` here, though the first is behind the start of the search. -/
theorem find_least_skipping :
    let s : Bytes := [97, 98, 99, 97, 98, 99, 97, 99, 97, 98, 120, 98, 97, 98, 99, 97, 98, 98, 97]
    let needle : Bytes := [97, 98, 99, 97, 98]
    s.find needle 1 = some 12 ∧ s.find needle 13 = none ∧
      2 ≤ needle.length ∧ needle.length ≤ 255 ∧ 13 ≤ s.length ∧
      findSkip (SkipTable.ofNeedle needle ⟨by decide, by decide⟩) needle (s.drop 13) 13 =
        findNaive needle (s.drop 13) 13 := by
  intro s needle
  have h := find_least s needle
  have hnone : ∀ i : Nat, (13 : Int) ≤ i → ¬ OccursAt needle s i := by
    intro i hi hoccurs
    have hle : i ≤ 19 := (occursAt_iff.mp hoccurs).1
    have hrest : ∀ i < 20, 13 ≤ i → ¬ OccursAt needle s i := by decide
    exact hrest i (by omega) (by omega) hoccurs
  exact ⟨((h 1).1 12).mpr (by decide), (h 13).2.1.mpr (.inr hnone), by decide, by decide, by decide,
    (h 13).2.2 13 (by decide) (by decide)⟩

section Backward

variable {q q' : Nat → Bool} {n n' i : Nat}

theorem lastBelow_eq_some_iff : lastBelow q n = some i ↔
    (i < n ∧ q i = true) ∧ ∀ j, i < j → ¬ (j < n ∧ q j = true) := by
  induction n with
  | zero => simp [lastBelow]
  | succ n ih =>
    rw [lastBelow]
    by_cases hn : q n = true
    · rw [if_pos hn, Option.some.injEq]
      constructor
      · rintro rfl
        exact ⟨⟨Nat.lt_succ_self n, hn⟩, fun j hj h => by omega⟩
      · rintro ⟨⟨hi, -⟩, hlast⟩
        by_cases hlt : i < n
        · exact absurd ⟨Nat.lt_succ_self n, hn⟩ (hlast n hlt)
        · omega
    · rw [if_neg hn, ih]
      constructor
      · rintro ⟨⟨hi, hq⟩, hlast⟩
        refine ⟨⟨by omega, hq⟩, ?_⟩
        rintro j hj ⟨hjn, hqj⟩
        by_cases hlt : j < n
        · exact hlast j hj ⟨hlt, hqj⟩
        · obtain rfl : j = n := by omega
          exact hn hqj
      · rintro ⟨⟨hi, hq⟩, hlast⟩
        have hne : i ≠ n := fun heq => hn (heq ▸ hq)
        exact ⟨⟨by omega, hq⟩, fun j hj h => hlast j hj ⟨by omega, h.2⟩⟩

theorem lastBelow_eq_none_iff : lastBelow q n = none ↔ ∀ j, ¬ (j < n ∧ q j = true) := by
  induction n with
  | zero => simp [lastBelow]
  | succ n ih =>
    rw [lastBelow]
    by_cases hn : q n = true
    · rw [if_pos hn]
      exact ⟨nofun, fun h => absurd ⟨Nat.lt_succ_self n, hn⟩ (h n)⟩
    · rw [if_neg hn, ih]
      constructor
      · rintro h j ⟨hj, hq⟩
        by_cases hlt : j < n
        · exact h j ⟨hlt, hq⟩
        · obtain rfl : j = n := by omega
          exact hn hq
      · exact fun h j hj => h j ⟨by omega, hj.2⟩

/-- Searches that try the same offsets with the same outcome find the same. -/
theorem lastBelow_congr (h : ∀ j, j < n ∧ q j = true ↔ j < n' ∧ q' j = true) :
    lastBelow q n = lastBelow q' n' := by
  apply Option.ext
  intro i
  simp only [lastBelow_eq_some_iff, h]

end Backward

end FrontEnd.Bytes
