import FrontEnd.Proofs.Attribution
import FrontEnd.Proofs.Showing
import Mathlib.Data.Prod.Lex

/-!
The accounts of a bag. Whatever is added, sorted and freed of repetitions, a bag stays within its
limit, and everything ever added is in it, was refused, or was a repetition. A report cuts the bag
once more, and its two numbers add up to those of the bag.
-/
namespace FrontEnd

namespace Bag

/-- Where a diagnostic belongs in a sorted bag: by file, start and stop, the more severe first,
then by code. -/
def place (d : Diagnostic) : ℕ ×ₗ ℕ ×ₗ ℕ ×ₗ ℕᵒᵈ ×ₗ ℕ :=
  toLex (d.primary.file.toNat, toLex (d.primary.start.toNat, toLex (d.primary.stop.toNat,
    toLex (OrderDual.toDual d.severity.level.toNat, d.code.number.toNat))))

theorem isLE_compare_iff (x y : Diagnostic) : (compare x y).isLE = true ↔ place x ≤ place y := by
  simp only [compare, place, Ordering.isLE_then_iff_or, Std.compare_eq_lt, Std.compare_eq_iff_eq,
    Std.isLE_compare, Prod.Lex.toLex_le_toLex, OrderDual.toDual_lt_toDual, OrderDual.toDual_inj,
    UInt32.lt_iff_toNat_lt, UInt8.lt_iff_toNat_lt, UInt16.le_iff_toNat_le, UInt32.toNat_inj,
    UInt8.toNat_inj, eq_comm (a := y.severity.level)]

/-- The second list is the first put in order, where those of one place keep their order. -/
structure Sorts (xs ys : List Diagnostic) : Prop where
  perm : ys.Perm xs
  ordered : ys.Pairwise fun x y => place x ≤ place y
  stable : ∀ p, ys.filter (place · = p) = xs.filter (place · = p)

theorem sort_sorts (b : Bag) : Sorts b.items.toList b.sort.items.toList := by
  have htrans : ∀ x y z : Diagnostic, (compare x y).isLE = true → (compare y z).isLE = true →
      (compare x z).isLE = true := by
    simp only [isLE_compare_iff]
    exact fun x y z => le_trans
  have htotal : ∀ x y : Diagnostic, ((compare x y).isLE || (compare y x).isLE) = true := by
    simp only [Bool.or_eq_true, isLE_compare_iff]
    exact fun x y => le_total _ _
  have hperm := List.mergeSort_perm b.items.toList fun x y => (compare x y).isLE
  refine ⟨hperm, ?_, fun p => ?_⟩
  · exact (List.pairwise_mergeSort htrans htotal b.items.toList).imp (isLE_compare_iff _ _).mp
  · -- those of one place are a sorted part of the bag, and a sort keeps such a part in order
    have hpart : (b.items.toList.filter (place · = p)).Pairwise fun x y =>
        (compare x y).isLE = true := by
      refine List.pairwise_filter.mpr (List.pairwise_of_forall fun x y hx hy => ?_)
      simp only [decide_eq_true_eq] at hx hy
      exact (isLE_compare_iff x y).mpr (hx.trans hy.symm).le
    have hkept :=
      (List.sublist_mergeSort htrans htotal hpart List.filter_sublist).filter (place · = p)
    rw [List.filter_filter] at hkept
    simp only [Bool.and_self] at hkept
    exact (hkept.eq_of_length (hperm.filter _).length_eq.symm).symm

/-- The second list is the first without repetitions: the first diagnostic of each code and primary
span is left. -/
structure Dedups (xs ys : List Diagnostic) : Prop where
  sublist : ys.Sublist xs
  distinct : ys.Pairwise fun x y => ¬(x.code = y.code ∧ x.primary = y.primary)
  first : ∀ code span, ys.find? (fun d => d.code = code ∧ d.primary = span) =
    xs.find? fun d => d.code = code ∧ d.primary = span

theorem dedup_dedups (b : Bag) : Dedups b.items.toList b.dedup.items.toList := by
  rw [dedup_eq_firsts, firsts_key]
  refine ⟨firsts_sublist _ _, (firsts_distinct _ _).imp ?_, ?_⟩
  · intro d e hne hsame
    exact hne (Prod.ext hsame.1 hsame.2)
  · intro code span
    have hfirst := find?_firsts (fun d : Diagnostic => (d.code, d.primary)) b.items.toList
      (code, span)
    simpa only [Prod.mk.injEq] using hfirst

/-- What is asked of a bag. -/
inductive Call where
  | add (d : Diagnostic)
  | sort
  | dedup

namespace Call

def perform (b : Bag) : Call → Bag
  | .add d => (b.add d).1
  | .sort => b.sort
  | .dedup => b.dedup

def isAdd : Call → Bool
  | .add _ => true
  | _ => false

/-- How many diagnostics the call takes out of the bag as repetitions. -/
def removed (b : Bag) : Call → Nat
  | .dedup => b.size - b.dedup.size
  | _ => 0

end Call

/-- The bag after all the calls, made one after the other. -/
def run (b : Bag) (calls : List Call) : Bag := calls.foldl Call.perform b

/-- How many diagnostics the calls took out as repetitions. -/
def removed (b : Bag) : List Call → Nat
  | [] => 0
  | call :: calls => call.removed b + removed (call.perform b) calls

/-- How the bag `b` became the bag `c`: it is still within the limit if it was, and all that was
added is in it, was refused or was taken out. -/
structure Booked (b c : Bag) (added removed : Nat) : Prop where
  limit : c.limit = b.limit
  fits : b.size ≤ b.limit.toNat → c.size ≤ c.limit.toNat
  total : c.size + c.dropped + removed = b.size + b.dropped + added

theorem Booked.trans {b c d : Bag} {m m' n n' : Nat} (h : Booked b c m n) (h' : Booked c d m' n') :
    Booked b d (m + m') (n + n') where
  limit := h'.limit.trans h.limit
  fits := h'.fits ∘ h.fits
  total := by
    have ht := h.total
    have ht' := h'.total
    omega

theorem add_full {b : Bag} (h : b.size = b.limit.toNat) (d : Diagnostic) :
    b.add d = ({ b with dropped := b.dropped + 1 }, false) :=
  if_pos h

theorem add_room {b : Bag} (h : b.size ≠ b.limit.toNat) (d : Diagnostic) :
    b.add d = ({ b with items := b.items.push d }, true) :=
  if_neg h

theorem add_booked (b : Bag) (d : Diagnostic) : Booked b (b.add d).1 1 0 := by
  by_cases hfull : b.size = b.limit.toNat
  · rw [add_full hfull]
    exact ⟨rfl, id, Nat.add_assoc _ _ _⟩
  · rw [add_room hfull]
    have hsize : size { b with items := b.items.push d } = b.size + 1 := Array.size_push _
    refine ⟨rfl, fun hle => ?_, ?_⟩
    · rw [hsize]
      exact Nat.lt_of_le_of_ne hle hfull
    · exact (congrArg (· + b.dropped) hsize).trans (Nat.add_right_comm _ _ _)

theorem sort_booked (b : Bag) : Booked b b.sort 0 0 := by
  have hsize : b.sort.size = b.size := by simpa [size] using (sort_sorts b).perm.length_eq
  exact ⟨rfl, hsize.le.trans, congrArg (· + b.dropped) hsize⟩

theorem dedup_booked (b : Bag) : Booked b b.dedup 0 (b.size - b.dedup.size) := by
  have hsize : b.dedup.size ≤ b.size := by simpa [size] using (dedup_dedups b).sublist.length_le
  have hdropped : b.dedup.dropped = b.dropped := rfl
  exact ⟨rfl, hsize.trans, by omega⟩

theorem Call.perform_booked (b : Bag) (call : Call) :
    Booked b (call.perform b) (if call.isAdd then 1 else 0) (call.removed b) := by
  cases call with
  | add d => exact add_booked b d
  | sort => exact sort_booked b
  | dedup => exact dedup_booked b

theorem run_booked (b : Bag) (calls : List Call) :
    Booked b (run b calls) (calls.countP Call.isAdd) (removed b calls) := by
  induction calls generalizing b with
  | nil => exact ⟨rfl, id, rfl⟩
  | cons call calls ih =>
    rw [List.countP_cons, Nat.add_comm]
    exact (call.perform_booked b).trans (ih (call.perform b))

end Bag

namespace Report

variable {o : Options} {fs : FileSet}

/-- The files are in the set that the diagnostic names where it is shown. -/
structure Known (o : Options) (fs : FileSet) (d : Diagnostic) : Prop where
  primary : d.primary.file.toNat < fs.files.size
  notes : o.notes = true → ∀ n ∈ d.notes, n.span.file.toNat < fs.files.size

/-- The entry has all of the diagnostic, its notes if they are asked for. -/
structure Entry.Shows (o : Options) (d : Diagnostic) (e : Entry) : Prop where
  severity : e.severity = d.severity
  code : e.code = d.code
  message : e.message = d.message
  args : e.args = d.args.map Arg.render
  span : e.location.span = d.primary
  notes : e.notes.map (fun n => (n.message, n.location.span)) =
    if o.notes then d.notes.map fun n => (n.message, n.span) else []

theorem locate_ok_iff {s : Span} : (∃ l, locate o fs s = .ok l) ↔ s.file.toNat < fs.files.size := by
  unfold locate FileSet.get
  by_cases h : s.file.toNat < fs.files.size
  · simp [h, Except.map]
  · simp [h, Except.map]

theorem span_of_locate {s : Span} {l : Location} (h : locate o fs s = .ok l) : l.span = s := by
  unfold locate at h
  cases hget : fs.get s.file with
  | error e => simp [hget, Except.map] at h
  | ok f =>
    simp only [hget, Except.map, Except.ok.injEq] at h
    exact h ▸ rfl

theorem noteEntry_ok_iff {n : Note} :
    (∃ e, noteEntry o fs n = .ok e) ↔ n.span.file.toNat < fs.files.size := by
  rw [← locate_ok_iff (o := o) (s := n.span)]
  unfold noteEntry
  cases locate o fs n.span <;> simp [Except.map]

theorem shows_of_noteEntry {n : Note} {e : NoteEntry} (h : noteEntry o fs n = .ok e) :
    (e.message, e.location.span) = (n.message, n.span) := by
  unfold noteEntry at h
  cases hl : locate o fs n.span with
  | error e => simp [hl, Except.map] at h
  | ok l =>
    simp only [hl, Except.map, Except.ok.injEq] at h
    subst h
    rw [span_of_locate hl]

theorem entry_eq_ok_iff {d : Diagnostic} {e : Entry} :
    entry o fs d = .ok e ↔ ∃ l ns, locate o fs d.primary = .ok l ∧
      (if o.notes then d.notes.mapM (noteEntry o fs) else .ok []) = .ok ns ∧
      e = ⟨d.severity, d.code, d.message, d.args.map Arg.render, l, ns⟩ := by
  unfold entry
  cases locate o fs d.primary with
  | error e => simp [bind, Except.bind]
  | ok l =>
    by_cases hn : o.notes = true
    · cases d.notes.mapM (noteEntry o fs) <;>
        simp [hn, bind, Except.bind, pure, Except.pure, eq_comm]
    · simp [hn, bind, Except.bind, pure, Except.pure, eq_comm]

theorem entry_ok_iff {d : Diagnostic} : (∃ e, entry o fs d = .ok e) ↔ Known o fs d := by
  have hnotes : (∃ ns, (if o.notes then d.notes.mapM (noteEntry o fs) else .ok []) = .ok ns) ↔
      (o.notes = true → ∀ n ∈ d.notes, n.span.file.toNat < fs.files.size) := by
    by_cases hn : o.notes = true
    · simp only [hn, if_true, mapM_ok_iff, noteEntry_ok_iff, true_implies]
    · simp [hn]
  constructor
  · rintro ⟨e, h⟩
    obtain ⟨l, ns, hl, hns, -⟩ := entry_eq_ok_iff.mp h
    exact ⟨locate_ok_iff.mp ⟨l, hl⟩, hnotes.mp ⟨ns, hns⟩⟩
  · rintro ⟨hprimary, hn⟩
    obtain ⟨l, hl⟩ := locate_ok_iff.mpr hprimary
    obtain ⟨ns, hns⟩ := hnotes.mpr hn
    exact ⟨_, entry_eq_ok_iff.mpr ⟨l, ns, hl, hns, rfl⟩⟩

theorem shows_of_entry {d : Diagnostic} {e : Entry} (h : entry o fs d = .ok e) : e.Shows o d := by
  obtain ⟨l, ns, hl, hns, rfl⟩ := entry_eq_ok_iff.mp h
  refine ⟨rfl, rfl, rfl, rfl, span_of_locate hl, ?_⟩
  by_cases hn : o.notes = true
  · rw [if_pos hn] at hns ⊢
    have hsame := (forall₂_of_mapM_ok hns).imp fun _ _ => shows_of_noteEntry
    rw [← List.forall₂_eq_eq_eq, List.forall₂_map_left_iff, List.forall₂_map_right_iff]
    exact hsame.flip
  · rw [if_neg hn] at hns ⊢
    cases hns
    rfl

/-- The report lists the first `n` diagnostics of the bag, and whatever else the bag was given and
did not take out itself counts as dropped. -/
structure Lists (o : Options) (bag : Bag) (n : Nat) (r : Report) : Prop where
  entries : List.Forall₂ (Entry.Shows o) (bag.items.toList.take n) r.entries
  count : r.count = n
  total : r.count + r.dropped = bag.size + bag.dropped

theorem keep_le (max : Int) (n : Nat) : keep max n ≤ n := by
  unfold keep
  split
  · exact Nat.min_le_left _ _
  · exact Nat.le_refl n

theorem build_eq_ok_iff {bag : Bag} {r : Report} :
    build o fs bag = .ok r ↔
      ∃ es, (bag.items.toList.take (keep o.max bag.size)).mapM (entry o fs) = .ok es ∧
        r = ⟨es, bag.dropped + bag.size - keep o.max bag.size⟩ := by
  unfold build
  dsimp only
  cases (bag.items.toList.take (keep o.max bag.size)).mapM (entry o fs) <;>
    simp [bind, Except.bind, pure, Except.pure, eq_comm]

theorem build_ok_iff {bag : Bag} : (∃ r, build o fs bag = .ok r) ↔
    ∀ d ∈ bag.items.toList.take (keep o.max bag.size), Known o fs d := by
  simp only [← entry_ok_iff, ← mapM_ok_iff, build_eq_ok_iff]
  constructor
  · rintro ⟨r, es, hes, -⟩
    exact ⟨es, hes⟩
  · rintro ⟨es, hes⟩
    exact ⟨_, es, hes, rfl⟩

theorem lists_of_build {bag : Bag} {r : Report} (h : build o fs bag = .ok r) :
    Lists o bag (keep o.max bag.size) r := by
  obtain ⟨es, hes, rfl⟩ := build_eq_ok_iff.mp h
  have hshows := (forall₂_of_mapM_ok hes).imp fun _ _ => shows_of_entry
  have hle := keep_le o.max bag.size
  have hcount : es.length = keep o.max bag.size := by
    rw [← hshows.length_eq, List.length_take]
    exact Nat.min_eq_left hle
  refine ⟨hshows, hcount, ?_⟩
  change es.length + (bag.dropped + bag.size - keep o.max bag.size) = _
  omega

end Report

namespace Bag

/-- The accounts of a bag with a limit, after any calls: it holds no more than the limit and refuses
what is added when it holds that many and only then; a sort is stable and by place; of what was
added, all is accounted for; and a report of any length lists the first diagnostics and accounts for
the others. -/
theorem run_accounts (limit : Int) (hpos : 0 ≤ limit) (hle : limit ≤ 65535) :
    ∃ b, Bag.new limit = .ok b ∧ ∀ calls : List Call,
      let c := run b calls
      c.size ≤ limit ∧
        (∀ d, c.size = limit ∧ c.add d = ({ c with dropped := c.dropped + 1 }, false) ∨
          c.size < limit ∧ c.add d = ({ c with items := c.items.push d }, true)) ∧
        Sorts c.items.toList c.sort.items.toList ∧
        Dedups c.items.toList c.dedup.items.toList ∧
        c.size + c.dropped + removed b calls = calls.countP Call.isAdd ∧
        ∀ (o : Report.Options) (fs : FileSet),
          let n := if 0 < o.max then min c.size o.max.toNat else c.size
          ((∃ r, Report.build o fs c = .ok r) ↔
              ∀ d ∈ c.items.toList.take n, Report.Known o fs d) ∧
            ∀ r, Report.build o fs c = .ok r → Report.Lists o c n r := by
  refine ⟨{ limit := limit.toNat.toUInt16 }, if_pos ⟨hpos, by omega⟩, fun calls => ?_⟩
  intro c
  have hbooked := run_booked { limit := limit.toNat.toUInt16 } calls
  have hlimit : (c.limit.toNat : Int) = limit := by
    have hmod : limit.toNat.toUInt16.toNat = limit.toNat := Nat.mod_eq_of_lt (by omega)
    rw [hbooked.limit, hmod]
    exact Int.toNat_of_nonneg hpos
  have hfits : c.size ≤ c.limit.toNat := hbooked.fits (Nat.zero_le _)
  refine ⟨by omega, fun d => ?_, sort_sorts c, dedup_dedups c, ?_, ?_⟩
  · by_cases hfull : c.size = c.limit.toNat
    · exact .inl ⟨by omega, add_full hfull d⟩
    · exact .inr ⟨by omega, add_room hfull d⟩
  · exact hbooked.total.trans (Nat.zero_add _)
  · exact fun o fs => ⟨Report.build_ok_iff, fun r => Report.lists_of_build⟩

/-- Two that are alike, one too many, and then room for it again. -/
def crowding : List Call :=
  let d : Diagnostic :=
    { severity := Severity.error, code := .emptyChar, message := [], primary := ⟨0, 3, 5⟩ }
  let e : Diagnostic := { d with severity := Severity.warning, primary := ⟨0, 0, 1⟩ }
  [.add d, .add d, .add e, .dedup, .add e, .sort]

theorem run_accounts_crowding : ∃ b, Bag.new 2 = .ok b ∧ (run b crowding).size ≤ (2 : Int) ∧
    (run b crowding).size + (run b crowding).dropped + removed b crowding = 4 := by
  obtain ⟨b, hb, hall⟩ := run_accounts 2 (by decide) (by decide)
  obtain ⟨hsize, -, -, -, htotal, -⟩ := hall crowding
  exact ⟨b, hb, hsize, htotal⟩

end Bag

end FrontEnd
