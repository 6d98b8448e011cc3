import FrontEnd.Diagnostic.Builder
import FrontEnd.Proofs.Numeral
import Mathlib.Data.List.Basic
import Mathlib.Data.List.Induction

/-!
Repetitions. Whoever remembers the keys of all that came before lets through the first of each key
and nothing else, so a bag and a filter in front of a reporter differ in their keys only. Both keys
have a span as it is spelled, which is as good as the span itself.
-/
namespace FrontEnd

namespace Bytes

theorem decimal_digit (n : Nat) : ∀ b ∈ decimal n, isDecimalDigit b = true := by
  have hdigit : ∀ d < 10, isDecimalDigit (48 + d.toUInt8) = true := by decide
  induction n using decimal.induct with
  | case1 n h =>
    rw [decimal, if_pos h]
    simpa using hdigit n h
  | case2 n h ih =>
    rw [decimal, if_neg h]
    intro b hb
    rcases List.mem_append.mp hb with hb | hb
    · exact ih b hb
    · rw [List.mem_singleton.mp hb]
      exact hdigit _ (Nat.mod_lt _ (by decide))

/-- One digit more. -/
theorem numeralValue_append_digit {radix d : Nat} {b : UInt8} (h : digitOf? radix b = some d)
    (ds : Bytes) : numeralValue radix (ds ++ [b]) = numeralValue radix ds * radix + d := by
  simp only [numeralValue, List.filterMap_append, List.filterMap_cons, h, List.filterMap_nil,
    List.reverse_append, List.reverse_singleton, List.singleton_append, Nat.ofDigits_cons]
  ring

theorem numeralValue_decimal (n : Nat) : numeralValue 10 (decimal n) = n := by
  have hdigit : ∀ d < 10, digitOf? 10 (48 + d.toUInt8) = some d := by decide
  induction n using decimal.induct with
  | case1 n h =>
    rw [decimal, if_pos h]
    have hone := numeralValue_append_digit (hdigit n h) []
    simpa [numeralValue] using hone
  | case2 n h ih =>
    rw [decimal, if_neg h, numeralValue_append_digit (hdigit _ (Nat.mod_lt _ (by decide))), ih]
    omega

theorem decimal_injective : Function.Injective decimal :=
  Function.LeftInverse.injective numeralValue_decimal

end Bytes

/-- The spelling of a span tells the span. -/
theorem Span.render_injective : Function.Injective Span.render := by
  have hnot : ∀ {b : UInt8} (n : Nat), Bytes.isDecimalDigit b = false → b ∉ Bytes.decimal n :=
    fun n hb hmem => by
      rw [Bytes.decimal_digit n _ hmem] at hb
      cases hb
  have hinj : ∀ {m n : UInt32}, Bytes.decimal m.toNat = Bytes.decimal n.toNat → m = n :=
    fun h => UInt32.toNat_inj.mp (Bytes.decimal_injective h)
  intro s s' h
  obtain ⟨file, start, stop⟩ := s
  obtain ⟨file', start', stop'⟩ := s'
  have hcolon : Bytes.ofString ":" = [58] := by decide
  have hdash : Bytes.ofString "-" = [45] := by decide
  have hbehind : 58 ∉ Bytes.decimal start.toNat ++ 45 :: Bytes.decimal stop.toNat := by
    simp [hnot (b := 58) _ rfl]
  simp only [render, hcolon, hdash, List.append_assoc, List.cons_append, List.nil_append] at h
  obtain ⟨hfile, -, hrest⟩ := (List.append_cons_inj_of_notMem (hnot _ rfl) hbehind).mp h
  obtain ⟨hstart, -, hstop⟩ := (List.append_cons_inj_of_notMem (hnot _ rfl) (hnot _ rfl)).mp hrest
  rw [hinj hfile, hinj hstart, hinj hstop]

section Firsts

variable {α κ : Type} [DecidableEq κ] {key : α → κ} {xs : List α} {x : α}

/-- The members of a list, in order, whose key no member before them has. -/
def firsts (key : α → κ) (xs : List α) : List α :=
  (xs.zipIdx.filter fun p : α × Nat => decide (∀ y ∈ xs.take p.2, key y ≠ key p.1)).map Prod.fst

theorem firsts_concat (key : α → κ) (xs : List α) (x : α) :
    firsts key (xs ++ [x]) =
      firsts key xs ++ if ∀ y ∈ xs, key y ≠ key x then [x] else [] := by
  have hbefore : ∀ p ∈ xs.zipIdx, (xs ++ [x]).take p.2 = xs.take p.2 := by
    intro p hp
    have hlt := List.snd_lt_of_mem_zipIdx hp
    exact List.take_append_of_le_length (by omega)
  have hold : (xs.zipIdx.filter fun p : α × Nat =>
        decide (∀ y ∈ (xs ++ [x]).take p.2, key y ≠ key p.1)) =
      xs.zipIdx.filter fun p : α × Nat => decide (∀ y ∈ xs.take p.2, key y ≠ key p.1) :=
    List.filter_congr fun p hp => by rw [hbefore p hp]
  have hnew : (xs ++ [x]).take (0 + xs.length) = xs := by simp
  rw [firsts, List.zipIdx_append, List.filter_append, List.map_append, hold, List.zipIdx_singleton,
    List.filter_singleton, hnew]
  by_cases h : ∀ y ∈ xs, key y ≠ key x
  · rw [if_pos h, decide_eq_true h]
    rfl
  · rw [if_neg h, decide_eq_false h]
    rfl

theorem firsts_concat_new (h : ∀ y ∈ xs, key y ≠ key x) :
    firsts key (xs ++ [x]) = firsts key xs ++ [x] := by
  rw [firsts_concat, if_pos h]

theorem firsts_concat_old (h : ¬ ∀ y ∈ xs, key y ≠ key x) :
    firsts key (xs ++ [x]) = firsts key xs := by
  rw [firsts_concat, if_neg h, List.append_nil]

theorem firsts_sublist (key : α → κ) (xs : List α) : (firsts key xs).Sublist xs := by
  have hsub := (List.filter_sublist
    (p := fun p : α × Nat => decide (∀ y ∈ xs.take p.2, key y ≠ key p.1))
    (l := xs.zipIdx)).map Prod.fst
  rwa [List.zipIdx_map_fst] at hsub

theorem firsts_distinct (key : α → κ) (xs : List α) :
    (firsts key xs).Pairwise fun x y => key x ≠ key y := by
  induction xs using List.reverseRecOn with
  | nil => exact .nil
  | append_singleton xs x ih =>
    by_cases h : ∀ y ∈ xs, key y ≠ key x
    · rw [firsts_concat_new h, List.pairwise_append]
      refine ⟨ih, List.pairwise_singleton _ _, ?_⟩
      intro y hy z hz
      rw [List.mem_singleton.mp hz]
      exact h y ((firsts_sublist key xs).subset hy)
    · rwa [firsts_concat_old h]

/-- Of each key it is the first member that is left. -/
theorem find?_firsts (key : α → κ) (xs : List α) (k : κ) :
    (firsts key xs).find? (key · = k) = xs.find? (key · = k) := by
  induction xs using List.reverseRecOn with
  | nil => rfl
  | append_singleton xs x ih =>
    by_cases h : ∀ y ∈ xs, key y ≠ key x
    · rw [firsts_concat_new h, List.find?_append, List.find?_append, ih]
    · rw [firsts_concat_old h, ih, List.find?_append]
      by_cases hx : key x = k
      · obtain ⟨y, hy, hyx⟩ : ∃ y ∈ xs, key y = key x := by simpa using h
        have hsome : (xs.find? (key · = k)).isSome = true := by
          rw [List.find?_isSome]
          exact ⟨y, hy, by simpa using hyx.trans hx⟩
        rw [Option.or_of_isSome hsome]
      · simp [hx]

theorem firsts_eq_self (h : xs.Pairwise fun x y => key x ≠ key y) : firsts key xs = xs := by
  induction xs using List.reverseRecOn with
  | nil => rfl
  | append_singleton xs x ih =>
    obtain ⟨hxs, -, hx⟩ := List.pairwise_append.mp h
    rw [firsts_concat_new fun y hy => hx y hy x (List.mem_singleton.mpr rfl), ih hxs]

/-- It does not matter what the keys are, only which of them are the same. -/
theorem firsts_congr {κ' : Type} [DecidableEq κ'] {key' : α → κ'}
    (h : ∀ x y, key x = key y ↔ key' x = key' y) (xs : List α) :
    firsts key xs = firsts key' xs := by
  simp only [firsts, ne_eq, h]

variable [BEq κ] [Hashable κ] {seen : Std.HashSet κ}

/-- The set has the keys of a list and no others. -/
def Keys (key : α → κ) (seen : Std.HashSet κ) (xs : List α) : Prop :=
  ∀ k, k ∈ seen ↔ ∃ x ∈ xs, key x = k

omit [DecidableEq κ] in
theorem Keys.empty : Keys key ∅ ([] : List α) := by simp [Keys]

/-- What has been seen is not among the firsts, and nothing new is to be remembered. -/
theorem Keys.old (h : Keys key seen xs) (hx : key x ∈ seen) :
    Keys key seen (xs ++ [x]) ∧ firsts key (xs ++ [x]) = firsts key xs := by
  obtain ⟨y, hy, hyx⟩ := (h (key x)).mp hx
  refine ⟨fun k => ?_, firsts_concat_old fun hall => hall y hy hyx⟩
  rw [h k]
  constructor
  · rintro ⟨z, hz, hzk⟩
    exact ⟨z, List.mem_append_left _ hz, hzk⟩
  · rintro ⟨z, hz, hzk⟩
    rcases List.mem_append.mp hz with hz | hz
    · exact ⟨z, hz, hzk⟩
    · rw [List.mem_singleton.mp hz] at hzk
      exact ⟨y, hy, hyx.trans hzk⟩

theorem Keys.new [LawfulBEq κ] (h : Keys key seen xs) (hx : key x ∉ seen) :
    Keys key (seen.insert (key x)) (xs ++ [x]) ∧
      firsts key (xs ++ [x]) = firsts key xs ++ [x] := by
  refine ⟨fun k => ?_, firsts_concat_new fun y hy hyx => hx ((h _).mpr ⟨y, hy, hyx⟩)⟩
  simp only [Std.HashSet.mem_insert, beq_iff_eq, h k, List.mem_append, List.mem_singleton,
    or_and_right, exists_or, exists_eq_left]
  exact or_comm

end Firsts

namespace Bag

theorem key_injective {d e : Diagnostic} (h : key d = key e) :
    d.code = e.code ∧ d.primary = e.primary :=
  ⟨congrArg Prod.fst h, Span.render_injective (congrArg Prod.snd h)⟩

/-- What is kept of some diagnostics goes on with what is kept of those that follow. -/
theorem dedupFrom_eq_firsts {seen : Std.HashSet (Code × Bytes)} {es : List Diagnostic}
    (h : Keys key seen es) (ds : List Diagnostic) :
    dedupFrom seen (firsts key es).reverse ds = firsts key (es ++ ds) := by
  induction ds generalizing seen es with
  | nil => rw [dedupFrom, List.reverse_reverse, List.append_nil]
  | cons d ds ih =>
    rw [dedupFrom, List.append_cons]
    by_cases hd : key d ∈ seen
    · obtain ⟨hkeys, hfirsts⟩ := h.old hd
      rw [if_pos (by simpa using hd), ← ih hkeys, hfirsts]
    · obtain ⟨hkeys, hfirsts⟩ := h.new hd
      rw [if_neg (by simpa using hd), ← ih hkeys, hfirsts, List.reverse_append]
      rfl

theorem dedup_eq_firsts (b : Bag) :
    b.dedup = { b with items := (firsts key b.items.toList).toArray } := by
  have hnone : Keys key ∅ ([] : List Diagnostic) := Keys.empty
  have hall := dedupFrom_eq_firsts hnone b.items.toList
  rw [List.nil_append] at hall
  exact congrArg (fun ds : List Diagnostic => { b with items := ds.toArray }) hall

/-- Diagnostics with keys of their own all stay. -/
theorem dedup_eq {b : Bag} (h : b.items.toList.Pairwise fun d e => key d ≠ key e) :
    b.dedup = b := by
  rw [dedup_eq_firsts, firsts_eq_self h]

theorem firsts_key (ds : List Diagnostic) :
    firsts key ds = firsts (fun d => (d.code, d.primary)) ds :=
  firsts_congr (fun d e => by simp [key, Span.render_injective.eq_iff]) ds

end Bag

namespace SeenKeys

/-- A filter goes on as if the firsts alone had been reported so far. -/
theorem foldl_filter {σ : Type} (next : Reporter σ) (s : σ) {seen : SeenKeys}
    {es : List Diagnostic} (h : Keys key seen es) (ds : List Diagnostic) :
    (ds.foldl (filter next) (seen, (firsts key es).foldl next s)).2 =
      (firsts key (es ++ ds)).foldl next s := by
  induction ds generalizing seen es with
  | nil => rw [List.foldl_nil, List.append_nil]
  | cons d ds ih =>
    rw [List.foldl_cons, List.append_cons]
    by_cases hd : key d ∈ seen
    · obtain ⟨hkeys, hfirsts⟩ := h.old hd
      have hstep : filter next (seen, (firsts key es).foldl next s) d =
          (seen, (firsts key es).foldl next s) := if_pos (by simpa using hd)
      rw [hstep, ← ih hkeys, hfirsts]
    · obtain ⟨hkeys, hfirsts⟩ := h.new hd
      have hstep : filter next (seen, (firsts key es).foldl next s) d =
          (seen.insert (key d), next ((firsts key es).foldl next s) d) :=
        if_neg (by simpa using hd)
      rw [hstep, ← ih hkeys, hfirsts, List.foldl_append]
      rfl

theorem firsts_key (ds : List Diagnostic) :
    firsts key ds = firsts (fun d => (d.code, d.primary, d.message)) ds :=
  firsts_congr (fun d e => by simp [key, Span.render_injective.eq_iff]) ds

end SeenKeys

/-- Only repetitions are dropped, and all of them. A bag keeps, in order, the first diagnostic of
each code and primary span, and has nothing to drop after that; a filter passes on, in order, the
first diagnostic of each code, primary span and message. No two spans are spelled alike. -/
theorem Diagnostic.repetitions_dropped :
    (∀ b : Bag,
        b.dedup.items.toList = firsts (fun d => (d.code, d.primary)) b.items.toList ∧
          b.dedup.limit = b.limit ∧ b.dedup.dropped = b.dropped ∧ b.dedup.dedup = b.dedup) ∧
      (∀ {σ : Type} (next : Reporter σ) (s : σ) (ds : List Diagnostic),
        (ds.foldl (SeenKeys.filter next) (∅, s)).2 =
          (firsts (fun d => (d.code, d.primary, d.message)) ds).foldl next s) ∧
      ∀ s s' : Span, s.render = s'.render → s = s' := by
  refine ⟨fun b => ?_, fun next s ds => ?_, fun s s' h => Span.render_injective h⟩
  · have hitems : b.dedup.items.toList = firsts Bag.key b.items.toList := by
      rw [Bag.dedup_eq_firsts]
    have hdistinct := firsts_distinct Bag.key b.items.toList
    rw [← hitems] at hdistinct
    exact ⟨hitems.trans (Bag.firsts_key _), rfl, rfl, Bag.dedup_eq hdistinct⟩
  · rw [← SeenKeys.firsts_key]
    exact SeenKeys.foldl_filter next s Keys.empty ds

end FrontEnd
