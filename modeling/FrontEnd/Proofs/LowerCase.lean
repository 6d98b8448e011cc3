import FrontEnd.Proofs.Search

/-!
Operations without regard to ASCII case. Each of them is the plain operation on the texts in lower
case, though it goes its own way: comparing takes what the texts have in common and then their
lengths, the beginning and the end are cut out before they are compared, and a search compares at
every offset, forwards or backwards, where the plain one may skip.
-/
namespace FrontEnd.Bytes

variable {r s : Bytes}

theorem length_lower (s : Bytes) : s.lower.length = s.length := List.length_map _

theorem lower_take (n : Nat) (s : Bytes) : lower (s.take n) = s.lower.take n := List.map_take

theorem lower_drop (n : Nat) (s : Bytes) : lower (s.drop n) = s.lower.drop n := List.map_drop

section Compare

theorem compareLowerAlong_eq (h : r.length = s.length) :
    compareLowerAlong r s = compare r.lower s.lower := by
  induction r generalizing s with
  | nil =>
    cases s with
    | nil => rfl
    | cons b s => cases h
  | cons a r ih =>
    cases s with
    | nil => cases h
    | cons b s =>
      have hrest := ih (Nat.succ.inj h)
      simp only [lower, List.map_cons, compareLowerAlong, compare] at hrest ⊢
      rw [hrest]

/-- Of two texts that agree as far as both go, the shorter sorts first. -/
theorem compare_eq_then (r s : Bytes) :
    compare r s =
      (compare (r.take (min r.length s.length)) (s.take (min r.length s.length))).then
        (Ord.compare r.length s.length) := by
  induction r generalizing s with
  | nil =>
    cases s with
    | nil => rfl
    | cons b s => simp [compare, Nat.compare_eq_ite_lt]
  | cons a r ih =>
    cases s with
    | nil => simp [compare, Nat.compare_eq_ite_lt]
    | cons b s =>
      have hsizes : Ord.compare (r.length + 1) (s.length + 1) = Ord.compare r.length s.length := by
        simp only [Nat.compare_eq_ite_lt, Nat.add_lt_add_iff_right]
      rw [List.length_cons, List.length_cons, Nat.add_min_add_right, hsizes, List.take_succ_cons,
        List.take_succ_cons, compare, compare, ih s]
      split
      · rfl
      · split <;> rfl

theorem compare_eq_eq_iff : compare r s = .eq ↔ r = s := by
  induction r generalizing s with
  | nil => cases s <;> simp [compare]
  | cons a r ih =>
    cases s with
    | nil => simp [compare]
    | cons b s =>
      rw [compare, List.cons.injEq, ← ih]
      by_cases hab : a = b
      · simp [hab]
      · rw [if_neg hab]
        split <;> simp [hab]

theorem compareLower_eq (r s : Bytes) : compareLower r s = compare r.lower s.lower := by
  have hsizes : (r.take (min r.length s.length)).length =
      (s.take (min r.length s.length)).length := by
    rw [List.length_take, List.length_take]
    omega
  rw [compareLower, compareLowerAlong_eq hsizes, compare_eq_then r.lower s.lower, length_lower,
    length_lower, lower_take, lower_take]

theorem equalsLower_iff : equalsLower r s = true ↔ r.lower = s.lower := by
  rw [equalsLower, compareLower_eq, Bool.and_eq_true, beq_iff_eq, beq_iff_eq, compare_eq_eq_iff]
  constructor
  · exact And.right
  · intro h
    exact ⟨by rw [← length_lower r, h, length_lower], h⟩

theorem compareLowerAlong_eq_iff (h : r.length = s.length) :
    (compareLowerAlong r s == .eq) = true ↔ r.lower = s.lower := by
  rw [beq_iff_eq, compareLowerAlong_eq h, compare_eq_eq_iff]

end Compare

section Ends

variable {lead tail : Bytes}

theorem startsWithLower_iff : startsWithLower r lead = true ↔ lead.lower <+: r.lower := by
  rw [startsWithLower, Bool.and_eq_true, decide_eq_true_eq]
  constructor
  · rintro ⟨hle, heq⟩
    rw [compareLowerAlong_eq_iff (List.length_take_of_le hle), lower_take] at heq
    rw [← heq]
    exact List.take_prefix _ _
  · intro hleads
    have hle := hleads.length_le
    rw [length_lower, length_lower] at hle
    refine ⟨hle, ?_⟩
    rw [compareLowerAlong_eq_iff (List.length_take_of_le hle), lower_take, ← length_lower lead]
    exact (List.prefix_iff_eq_take.mp hleads).symm

theorem endsWithLower_iff : endsWithLower r tail = true ↔ tail.lower <:+ r.lower := by
  rw [endsWithLower, Bool.and_eq_true, decide_eq_true_eq]
  have hsize : tail.length ≤ r.length → (r.drop (r.length - tail.length)).length = tail.length := by
    intro hle
    rw [List.length_drop]
    omega
  constructor
  · rintro ⟨hle, heq⟩
    rw [compareLowerAlong_eq_iff (hsize hle), lower_drop] at heq
    rw [← heq]
    exact List.drop_suffix _ _
  · intro htrails
    have hle := htrails.length_le
    rw [length_lower, length_lower] at hle
    refine ⟨hle, ?_⟩
    rw [compareLowerAlong_eq_iff (hsize hle), lower_drop, ← length_lower r, ← length_lower tail]
    exact (List.suffix_iff_eq_drop.mp htrails).symm

end Ends

section Searches

/-- Comparing at every offset without regard to case is comparing at every offset in lower case. -/
theorem findLowerFrom_eq (needle hay : Bytes) (i : Nat) :
    findLowerFrom needle hay i = findNaive needle.lower hay.lower i := by
  induction hay generalizing i with
  | nil => cases needle <;> rfl
  | cons b r ih =>
    rw [findLowerFrom]
    by_cases hroom : (b :: r).length < needle.length
    · rw [if_pos hroom, findNaive_of_lt (by rwa [length_lower, length_lower])]
    · rw [if_neg hroom]
      by_cases hleads : startsWithLower (b :: r) needle = true
      · rw [if_pos hleads, findNaive_of_leads (startsWithLower_iff.mp hleads)]
      · have hnot : ¬ needle.lower <+: lowerByte b :: lower r :=
          fun h => hleads (startsWithLower_iff.mpr h)
        rw [if_neg hleads, ih, ← findNaive_of_not_leads hnot]
        rfl

theorem findLower_eq (s needle : Bytes) (start : Int) :
    s.findLower needle start = s.lower.find needle.lower start := by
  by_cases hout : start < 0 ∨ start > s.length
  · have hout' : start < 0 ∨ start > s.lower.length := by rwa [length_lower]
    rw [findLower, if_pos hout, find, if_pos hout']
  · have hin : ¬ (start < 0 ∨ start > s.lower.length) := by rwa [length_lower]
    rw [findLower, if_neg hout, find_eq_findNaive hin, findLowerFrom_eq, lower_drop]

theorem rfindLower_eq (s needle : Bytes) : s.rfindLower needle = s.lower.rfind needle.lower := by
  apply lastBelow_congr
  intro j
  rw [equalsLower_iff, lower_take, lower_drop, List.isPrefixOf_iff_prefix, length_lower,
    List.prefix_iff_eq_take, length_lower]
  constructor
  · rintro ⟨hj, heq⟩
    exact ⟨by omega, heq.symm⟩
  · rintro ⟨hj, heq⟩
    have hroom := congrArg List.length heq
    rw [length_lower, List.length_take, List.length_drop, length_lower] at hroom
    exact ⟨by omega, heq.symm⟩

end Searches

/-- An operation that does not regard ASCII case is the plain one on the texts in lower case. -/
theorem caseless_eq_plain (r s : Bytes) (start : Int) :
    r.compareLower s = Bytes.compare r.lower s.lower ∧
      r.equalsLower s = (r.lower == s.lower) ∧
      r.startsWithLower s = r.lower.startsWith s.lower ∧
      r.endsWithLower s = r.lower.endsWith s.lower ∧
      r.containsLower s = Bytes.contains r.lower s.lower ∧
      r.findLower s start = r.lower.find s.lower start ∧
      r.rfindLower s = r.lower.rfind s.lower := by
  refine ⟨compareLower_eq r s, ?_, ?_, ?_, ?_, findLower_eq r s start, rfindLower_eq r s⟩
  · rw [Bool.eq_iff_iff, equalsLower_iff, beq_iff_eq]
  · rw [Bool.eq_iff_iff, startsWithLower_iff, startsWith, List.isPrefixOf_iff_prefix]
  · rw [Bool.eq_iff_iff, endsWithLower_iff, endsWith, List.isSuffixOf_iff_suffix]
  · rw [containsLower, findLower_eq]
    rfl

end FrontEnd.Bytes
