import FrontEnd.Proofs.Utf8
import FrontEnd.Unicode.Compose

/-!
The characters that composition may change. A control and the byte-order mark are made of nothing
else, belong to no character before them and join nothing, and neither does an octet that is part
of no character. All other characters are pliant; what they are taken apart into and joined to is
pliant again. The tables are checked once for this, entry by entry.
-/
namespace FrontEnd.Utf8

theorem Sequence.lead_not_continuation {lead : Bytes} {v : Nat} (h : Sequence lead v) :
    ∃ b r, lead = b :: r ∧ isContinuation b = false := by
  have hnot : ∀ {b : UInt8}, b.toNat < 128 ∨ 191 < b.toNat → isContinuation b = false := by
    intro b hb
    rw [← Bool.not_eq_true, isContinuation_iff]
    omega
  cases h with
  | one ha =>
    rw [UInt8.lt_iff_toNat_lt] at ha
    exact ⟨_, _, rfl, hnot (.inl ha)⟩
  | two ha hb =>
    rw [UInt8.le_iff_toNat_le] at ha
    exact ⟨_, _, rfl, hnot (.inr (Nat.lt_of_lt_of_le (by decide) ha.1))⟩
  | three ha hb hc =>
    rw [UInt8.le_iff_toNat_le] at ha
    exact ⟨_, _, rfl, hnot (.inr (Nat.lt_of_lt_of_le (by decide) ha.1))⟩
  | four ha hb hc hd =>
    rw [UInt8.le_iff_toNat_le] at ha
    exact ⟨_, _, rfl, hnot (.inr (Nat.lt_of_lt_of_le (by decide) ha.1))⟩

/-- No octet of a character is a control, unless the character is. -/
theorem Sequence.not_control {lead : Bytes} {v : Nat} (h : Sequence lead v) (hv : 0x20 ≤ v) :
    ∀ b ∈ lead, 0x20 ≤ b := by
  rcases h.shape with ⟨b, rfl, hb⟩ | hhigh
  · cases h
    simpa [UInt8.le_iff_toNat_le] using hv
  · intro b hb
    exact UInt8.le_trans (by decide) (hhigh b hb)

theorem leads_of_between {a lo hi : UInt8} (h : lo ≤ a ∧ a ≤ hi) (hlo : 0xC2 ≤ lo)
    (hhi : hi < 0xF8) : ¬(a < 0xC2 ∨ a ≥ 0xF8) := by
  grind

theorem pieceSize?_of_decode? {s : Bytes} {c : Char} {n : Nat} (h : decode? s = some (c, n)) :
    pieceSize? s = some n := by
  obtain ⟨lead, rest, v, rfl, rfl, -, hseq⟩ := sequence_of_decode? h
  cases hseq with
  | one ha => exact if_pos (.inl (UInt8.lt_of_lt_of_le ha (by decide)))
  | two ha hb =>
    have hlead := leads_of_between ha (by decide) (by decide)
    have htwo := UInt8.lt_of_le_of_lt ha.2 (show 0xDF < 0xE0 by decide)
    simp [pieceSize?, hlead, htwo, hb]
  | three ha hb hc =>
    have hlead := leads_of_between ha (by decide) (by decide)
    have htwo := UInt8.not_lt.mpr ha.1
    have hthree := UInt8.lt_of_le_of_lt ha.2 (show 0xEF < 0xF0 by decide)
    have hb' := isContinuation_iff.mpr (secondOf3_iff.mp hb).1
    simp [pieceSize?, hlead, htwo, hthree, hb', hc]
  | four ha hb hc hd =>
    have hlead := leads_of_between ha (by decide) (by decide)
    have htwo := UInt8.not_lt.mpr (UInt8.le_trans (show 0xE0 ≤ 0xF0 by decide) ha.1)
    have hthree := UInt8.not_lt.mpr ha.1
    have hb' := isContinuation_iff.mpr (secondOf4_iff.mp hb).1
    simp [pieceSize?, hlead, htwo, hthree, hb', hc, hd]

/-- A piece that is said to encode a character does. -/
def Piece.Read (p : Piece) : Prop := ∀ c, p.char = some c → p.octets = encode c

theorem piecesOnto_eq (acc : List Piece) (s : Bytes) :
    ∃ ps, (piecesOnto acc s).1 = acc.reverse ++ ps ∧
      s = ps.flatMap Piece.octets ++ (piecesOnto acc s).2 ∧ ∀ p ∈ ps, p.Read := by
  fun_induction piecesOnto acc s with
  | case1 acc => exact ⟨[], by simp, rfl, nofun⟩
  | case2 acc b r _ => exact ⟨[], by simp, rfl, nofun⟩
  | case3 acc b r n hsize piece ih =>
    obtain ⟨ps, hps, hoctets, hread⟩ := ih
    refine ⟨piece :: ps, by rw [hps]; simp, ?_, List.forall_mem_cons.mpr ⟨?_, hread⟩⟩
    · rw [List.flatMap_cons, List.append_assoc, ← hoctets]
      simp [piece]
    · intro c hc
      obtain ⟨⟨c', m⟩, hdecode, rfl⟩ := Option.map_eq_some_iff.mp hc
      obtain ⟨rest, heq, hlen⟩ := encode_of_decode? hdecode
      rw [pieceSize?_of_decode? hdecode] at hsize
      obtain rfl := Option.some.inj hsize
      have htake : (b :: r).take (m - 1 + 1) = encode c' := by
        have hpos := (decode?_size hdecode).1
        rw [Nat.sub_add_cancel hpos, heq, hlen, List.take_left]
      exact htake

end FrontEnd.Utf8

namespace FrontEnd.Unicode

/-- Code points that composition may take apart, move or join. -/
def Pliant (n : Nat) : Prop := 0x20 ≤ n ∧ n ≠ 0xFEFF

instance (n : Nat) : Decidable (Pliant n) := inferInstanceAs (Decidable (_ ∧ _))

section Tables

variable {α : Type} {c : Char} {n : Nat}

theorem bisect_eq_some {table : Array α} {side : α → Ordering} {lo hi : Nat} {e : α}
    (h : bisect table side lo hi = some e) : e ∈ table.toList ∧ side e = .eq := by
  fun_induction bisect table side lo hi with
  | case1 lo hi _ mid _ => cases h
  | case2 lo hi _ mid entry hentry hside =>
    cases h
    exact ⟨Array.mem_toList_iff.mpr (Array.mem_of_getElem? hentry), hside⟩
  | case3 lo hi _ mid entry _ _ ih => exact ih h
  | case4 lo hi _ mid entry _ _ ih => exact ih h
  | case5 lo hi _ => cases h

theorem within_of_side {lo hi : Nat}
    (h : (if n < lo then Ordering.lt else if hi < n then .gt else .eq) = .eq) :
    lo ≤ n ∧ n ≤ hi := by
  split at h
  · cases h
  · split at h
    · cases h
    · omega

/-- A range that holds no control and not the mark. -/
theorem pliant_of_within {lo hi : Nat} (hrange : 0x20 ≤ lo ∧ (hi < 0xFEFF ∨ 0xFEFF < lo))
    (h : lo ≤ n ∧ n ≤ hi) : Pliant n := by
  unfold Pliant
  omega

set_option maxRecDepth 20000 in
/-- A character that is taken apart is pliant, and so are its parts; where they are joined again, so
is the first by the half that it is looked up by. -/
theorem decompositions_pliant : ∀ e ∈ decompositions.toList,
    (Pliant e.1 ∧ e.1.isValidChar) ∧ (Pliant e.2.1 ∧ e.2.1.isValidChar) ∧
      (e.2.2 = 0 ∨ Pliant (lowHalf e.2.1) ∧ Pliant e.2.2 ∧ e.2.2.isValidChar) := by
  decide +kernel

theorem combiningClass_of_not_pliant (h : ¬Pliant c.toNat) : combiningClass c = 0 := by
  have hranges : ∀ e ∈ combiningClasses.toList,
      0x20 ≤ e.1 ∧ (e.2.1 < 0xFEFF ∨ 0xFEFF < e.1) := by decide +kernel
  unfold combiningClass
  dsimp only
  split
  · rename_i lo hi k hfound
    obtain ⟨hmem, hside⟩ := bisect_eq_some hfound
    exact absurd (pliant_of_within (hranges _ hmem) (within_of_side hside)) h
  · rfl

theorem mayJoin_of_not_pliant (h : ¬Pliant c.toNat) : mayJoin c = false := by
  have hranges : ∀ e ∈ joiners.toList, 0x20 ≤ e.1 ∧ (e.2 < 0xFEFF ∨ 0xFEFF < e.1) := by
    decide +kernel
  rw [mayJoin, Ranges.contains, Option.isSome_eq_false_iff, Option.isNone_iff_eq_none]
  rw [Option.eq_none_iff_forall_ne_some]
  rintro ⟨lo, hi⟩ hfound
  obtain ⟨hmem, hside⟩ := bisect_eq_some hfound
  exact h (pliant_of_within (hranges _ hmem) (within_of_side hside))

theorem toNat_ofNat_of_valid (h : n.isValidChar) : (Char.ofNat n).toNat = n := by
  rw [Char.ofNat, dif_pos h]
  rfl

/-- What is found by key in the table of decompositions. -/
theorem decomposition_of_found {e : Nat × Nat × Nat}
    (h : bisect decompositions
      (fun (k, _, _) => if n < k then .lt else if k < n then .gt else .eq)
      0 decompositions.size = some e) : e ∈ decompositions.toList ∧ e.1 = n := by
  obtain ⟨hmem, hside⟩ := bisect_eq_some h
  have := within_of_side hside
  exact ⟨hmem, by omega⟩

theorem decomposePoint_pliant (depth : Nat) (h : Pliant n ∧ n.isValidChar) :
    decomposePoint depth n ≠ [] ∧ ∀ m ∈ decomposePoint depth n, Pliant m ∧ m.isValidChar := by
  induction depth generalizing n with
  | zero => simpa [decomposePoint] using h
  | succ depth ih =>
    rw [decomposePoint]
    split
    · simpa using h
    · rename_i a hfound
      have hentry := decompositions_pliant _ (decomposition_of_found hfound).1
      exact ih hentry.2.1
    · rename_i a b hb hfound
      have hentry := decompositions_pliant _ (decomposition_of_found hfound).1
      have hsecond := hentry.2.2.resolve_left hb
      obtain ⟨hne, hleft⟩ := ih hentry.2.1
      obtain ⟨-, hright⟩ := ih hsecond.2
      exact ⟨by simp [hne], List.forall_mem_append.mpr ⟨hleft, hright⟩⟩

theorem decomposePoint_length (depth n : Nat) :
    (decomposePoint depth n).length ≤ Nat.pow 2 depth := by
  induction depth generalizing n with
  | zero => exact Nat.le_refl 1
  | succ depth ih =>
    have hpos : 1 ≤ Nat.pow 2 depth := Nat.two_pow_pos depth
    have hdouble : Nat.pow 2 (depth + 1) = Nat.pow 2 depth * 2 := rfl
    rw [decomposePoint, hdouble]
    split
    · rw [List.length_singleton]
      omega
    · rename_i a _
      have := ih a
      omega
    · rename_i a b _ _
      have hleft := ih a
      have hright := ih b
      rw [List.length_append]
      omega

theorem isHangul_iff : isHangul n = true ↔ 0xAC00 ≤ n ∧ n < 0xD7A4 := by
  unfold isHangul
  rw [Bool.and_eq_true, decide_eq_true_eq, decide_eq_true_eq]
  rfl

/-- A Hangul letter or syllable. -/
theorem pliant_hangul (h : 0x1100 ≤ n ∧ n < 0xD7A4) : Pliant n ∧ n.isValidChar := by
  unfold Pliant Nat.isValidChar
  omega

theorem decompose_of_not_pliant (h : ¬Pliant c.toNat) : decompose c = [c] := by
  unfold decompose
  dsimp only
  split
  · rfl
  rename_i hlow
  have hmark : c.toNat = 0xFEFF := by
    unfold Pliant at h
    omega
  rw [hmark, if_neg (by decide), decomposePoint]
  split
  · rw [List.map_singleton, ← hmark, Char.ofNat_toNat]
  all_goals
    rename_i hfound
    obtain ⟨hmem, hkey⟩ := decomposition_of_found hfound
    exact absurd hkey (decompositions_pliant _ hmem).1.1.2

theorem decompose_pliant (h : Pliant c.toNat) :
    decompose c ≠ [] ∧ ∀ p ∈ decompose c, Pliant p.toNat := by
  unfold decompose
  dsimp only
  split
  · simpa using h
  split
  · rename_i hhangul
    have hpart : ∀ {m}, 0x1100 ≤ m ∧ m < 0xD7A4 → Pliant (Char.ofNat m).toNat := by
      intro m hm
      obtain ⟨hpliant, hvalid⟩ := pliant_hangul hm
      rw [toNat_ofNat_of_valid hvalid]
      exact hpliant
    have hplace : c.toNat - hangulBase < 11172 := by
      have := isHangul_iff.mp hhangul
      unfold hangulBase
      omega
    generalize c.toNat - hangulBase = i at hplace
    have hlead : 0x1100 ≤ leadBase + i / (vowelCount * trailCount) ∧
        leadBase + i / (vowelCount * trailCount) < 0xD7A4 := by
      unfold leadBase vowelCount trailCount
      omega
    have hvowel : 0x1100 ≤ vowelBase + i % (vowelCount * trailCount) / trailCount ∧
        vowelBase + i % (vowelCount * trailCount) / trailCount < 0xD7A4 := by
      unfold vowelBase vowelCount trailCount
      omega
    have htrail : 0x1100 ≤ trailBase + i % trailCount ∧ trailBase + i % trailCount < 0xD7A4 := by
      unfold trailBase trailCount
      omega
    split
    · simpa using ⟨hpart hlead, hpart hvowel⟩
    · simpa using ⟨hpart hlead, hpart hvowel, hpart htrail⟩
  · obtain ⟨hne, hparts⟩ := decomposePoint_pliant 4 ⟨h, c.valid⟩
    refine ⟨by simpa using hne, ?_⟩
    intro p hp
    obtain ⟨m, hm, rfl⟩ := List.mem_map.mp hp
    rw [toNat_ofNat_of_valid (hparts m hm).2]
    exact (hparts m hm).1

theorem decompose_length (c : Char) : (decompose c).length ≤ 16 := by
  unfold decompose
  dsimp only
  split
  · simp
  split
  · split <;> simp
  · rw [List.length_map]
    exact decomposePoint_length 4 c.toNat

theorem traits_before_le (c : Char) : (traits c).before ≤ 16 := by
  have hfew : ∀ e ∈ hiddenMarks.toList, e.2.2.1 ≤ 16 := by decide +kernel
  unfold traits
  dsimp only
  split
  · exact Nat.zero_le _
  · split
    · rename_i hfound
      exact hfew _ (bisect_eq_some hfound).1
    · exact Nat.le_trans (List.takeWhile_sublist isMark).length_le (decompose_length c)

theorem traits_of_not_pliant (h : ¬Pliant c.toNat) :
    (traits c).before = 0 ∧ (traits c).behind = 0 := by
  have hranges : ∀ e ∈ hiddenMarks.toList, 0x20 ≤ e.1 ∧ (e.2.1 < 0xFEFF ∨ 0xFEFF < e.1) := by
    decide +kernel
  unfold traits
  dsimp only
  split
  · exact ⟨rfl, rfl⟩
  have hjoins : isMark c = false := by
    rw [isMark, combiningClass_of_not_pliant h, mayJoin_of_not_pliant h]
    rfl
  split
  · rename_i lo hi before behind hfound
    obtain ⟨hmem, hside⟩ := bisect_eq_some hfound
    exact absurd (pliant_of_within (hranges _ hmem) (within_of_side hside)) h
  · simp [decompose_of_not_pliant h, hjoins]

/-- A pair that is joined starts with a pliant character, and so is what it is joined to. -/
theorem composite?_pliant {a b : Char} (h : composite? a b = some c) :
    Pliant a.toNat ∧ Pliant c.toNat := by
  obtain ⟨⟨x, y, k⟩, hfound, rfl⟩ := Option.map_eq_some_iff.mp h
  obtain ⟨hmem, hside⟩ := bisect_eq_some hfound
  simp only [compositions, List.mem_mergeSort, List.mem_map, Array.toList_filter, List.mem_filter,
    Bool.and_eq_true, bne_iff_ne] at hmem
  obtain ⟨⟨key, first, second⟩, ⟨hentry, hsecond, -⟩, heq⟩ := hmem
  cases heq
  obtain ⟨⟨hkey, hvalid⟩, -, hpair⟩ := decompositions_pliant _ hentry
  have hlow : Pliant (lowHalf first) := (hpair.resolve_left hsecond).1
  have hfirst : lowHalf a.toNat = lowHalf first := by
    dsimp only at hside
    grind
  rw [toNat_ofNat_of_valid hvalid]
  refine ⟨?_, hkey⟩
  -- the low half of a control or of the mark is that code point itself
  unfold Pliant lowHalf at *
  omega

theorem syllable?_pliant {a b : Char} (h : syllable? a b = some c) :
    Pliant a.toNat ∧ Pliant c.toNat := by
  have hmade : ∀ {m k}, 0x1100 ≤ m ∧ m < 0xD7A4 → 0x1100 ≤ k ∧ k < 0xD7A4 →
      Pliant m ∧ Pliant (Char.ofNat k).toNat := by
    intro m k hm hk
    rw [toNat_ofNat_of_valid (pliant_hangul hk).2]
    exact ⟨(pliant_hangul hm).1, (pliant_hangul hk).1⟩
  unfold syllable? at h
  dsimp only at h
  split at h
  · rename_i hletters
    rw [← Option.some.inj h]
    unfold leadBase vowelBase leadCount vowelCount at hletters
    refine hmade (by omega) ?_
    unfold hangulBase leadBase vowelBase vowelCount trailCount
    omega
  split at h
  · rename_i hletters
    rw [← Option.some.inj h]
    have hsyllable := isHangul_iff.mp hletters.1
    unfold hangulBase trailBase trailCount at hletters
    refine hmade (by omega) ?_
    unfold trailBase
    omega
  · cases h

end Tables

end FrontEnd.Unicode
