import FrontEnd.Proofs.Loading

/-!
Work on a file in steps: it is loaded, the cache is asked, the file is scanned, and its stream is
stored. Between two steps others may change the disk. Four steps that nothing interrupts are the
work as a whole.
-/
namespace FrontEnd.Work

open Trace (Hub)

/-- How far the work on a file has come. -/
inductive Stage where
  | loading
  /-- The cache has not been asked yet. -/
  | loaded (l : Loaded)
  /-- The cache had nothing for the file. -/
  | missed (l : Loaded)
  | scanned (l : Loaded) (ts : List Token) (bag : Bag)
  | ended (outcome : Except TokenizeError Tokenized)

/-- How many steps have been made; a stream from the cache makes two of them needless. -/
def Stage.rank : Stage → Nat
  | .loading => 0
  | .loaded _ => 1
  | .missed _ => 2
  | .scanned .. => 3
  | .ended _ => 4

section

variable {σ : Type}

/-- The next step. -/
def advance (w : Work σ) (c : Trace.Context) (opts : TokenizeOptions σ) (path : Bytes) :
    Stage → Stage × Work σ
  | .loading => match w.openFile c opts path with
    | (.error e, w) => (.ended (.error e), w)
    | (.ok l, w) => (.loaded l, w)
  | .loaded l => match w.fromCache l.context opts.cache l.file with
    | (some ts, w) =>
      let (r, w) := w.closeFile path l ts true l.bag
      (.ended (.ok r), w)
    | (none, w) => (.missed l, w)
  | .missed l => match w.scan l.context opts l.files l.file l.bag with
    | .error e => (.ended (.error (.report e)), w.endSpan l.span)
    | .ok (ts, bag, w) => (.scanned l ts bag, w)
  | .scanned l ts bag =>
    let (r, w) := (w.toCache l.context opts.cache l.file bag ts).closeFile path l ts false bag
    (.ended (.ok r), w)
  | .ended outcome => (.ended outcome, w)

/-- Some steps that nothing interrupts. -/
def proceed (c : Trace.Context) (opts : TokenizeOptions σ) (path : Bytes) :
    Nat → Stage × Work σ → Stage × Work σ
  | 0, x => x
  | n + 1, x => proceed c opts path n (x.2.advance c opts path x.1)

end

variable {σ : Type} {opts : TokenizeOptions σ} {c : Trace.Context} {path : Bytes} {bag : Bag}

theorem proceed_ended (n : Nat) (w : Work σ) (outcome : Except TokenizeError Tokenized) :
    proceed c opts path n (.ended outcome, w) = (.ended outcome, w) := by
  induction n with
  | zero => rfl
  | succ n ih => exact ih

theorem rank_advance (w : Work σ) (c : Trace.Context) (opts : TokenizeOptions σ) (path : Bytes)
    (s : Stage) : min 4 (s.rank + 1) ≤ (w.advance c opts path s).1.rank := by
  cases s with
  | loading =>
    rw [advance]
    split <;> simp [Stage.rank]
  | loaded l =>
    rw [advance]
    split <;> simp [Stage.rank]
  | missed l =>
    rw [advance]
    split <;> simp [Stage.rank]
  | scanned l ts bag => exact Nat.le_refl 4
  | ended outcome => exact Nat.le_refl 4

theorem rank_proceed (c : Trace.Context) (opts : TokenizeOptions σ) (path : Bytes) (n : Nat)
    (x : Stage × Work σ) : min 4 (x.1.rank + n) ≤ (proceed c opts path n x).1.rank := by
  induction n generalizing x with
  | zero => exact Nat.min_le_right _ _
  | succ n ih =>
    have hstep := x.2.rank_advance c opts path x.1
    have hrest := ih (x.2.advance c opts path x.1)
    rw [proceed]
    omega

/-- From wherever the work has come to, four steps lead to its end. -/
theorem proceed_ends (c : Trace.Context) (opts : TokenizeOptions σ) (path : Bytes)
    (x : Stage × Work σ) : ∃ outcome, (proceed c opts path 4 x).1 = .ended outcome := by
  have hrank := rank_proceed c opts path 4 x
  cases hs : (proceed c opts path 4 x).1 with
  | ended outcome => exact ⟨outcome, rfl⟩
  | loading | loaded | missed | scanned =>
    rw [hs] at hrank
    simp only [Stage.rank] at hrank
    omega

/-- Without interruption the steps are the whole work. -/
theorem proceed_loading (w : Work σ) (c : Trace.Context) (opts : TokenizeOptions σ) (path : Bytes) :
    proceed c opts path 4 (.loading, w) =
      (.ended (w.tokenize c opts path).1, (w.tokenize c opts path).2) := by
  unfold tokenize
  rw [proceed, advance]
  cases hopen : w.openFile c opts path with
  | mk opened w₁ =>
    cases opened with
    | error e => exact proceed_ended 3 w₁ _
    | ok l =>
      dsimp only
      unfold tokensOf
      rw [proceed, advance]
      cases hfrom : w₁.fromCache l.context opts.cache l.file with
      | mk found w₂ =>
        cases found with
        | some ts => exact proceed_ended 2 _ _
        | none =>
          obtain ⟨w₃, hscan⟩ := w₂.scan_eq l.context opts l.files l.file l.bag
          dsimp only
          rw [proceed, advance, hscan]
          rfl

theorem advance_loading (w : Work σ) (c : Trace.Context) (path : Bytes)
    (hcancel : opts.cancelled = false) (hbag : Bag.new (kept opts.limit) = .ok bag) :
    (∃ e w', w.advance c opts path .loading = (.ended (.error (.ofLoad e)), w') ∧
      w.hub.Traced w'.hub) ∨
    ∃ l w', w.advance c opts path .loading = (.loaded l, w') ∧ l.bag = bag ∧
      opts.fileSet.Loads (w.readingDisk c path) path l.files l.file ∧ w.hub.Traced w'.hub := by
  rcases FileSet.load_cases opts.fileSet (w.readingDisk c path) path with ⟨e, he⟩ | ⟨files, f, hf⟩
  · obtain ⟨w', heq, htraced⟩ := w.openFile_of_error he
    exact .inl ⟨e, w', by rw [advance, heq], htraced⟩
  · obtain ⟨l, w', heq, rfl, rfl, hl, htraced⟩ := w.openFile_of_loads hf hcancel hbag
    exact .inr ⟨l, w', by rw [advance, heq], hl, hf, htraced⟩

theorem advance_loaded (w : Work σ) (c : Trace.Context) (opts : TokenizeOptions σ) (path : Bytes)
    (l : Loaded) :
    (∃ k r w', opts.cache = some k ∧ k.get w.hub.disk l.file = .ok (some r.tokens) ∧
      w.advance c opts path (.loaded l) = (.ended (.ok r), w') ∧ r.file = l.file ∧
      r.bag = l.bag ∧ r.cached = true ∧ w.hub.Traced w'.hub) ∨
    ∃ w', w.advance c opts path (.loaded l) = (.missed l, w') ∧ w.hub.Traced w'.hub := by
  rcases w.fromCache_cases l.context opts.cache l.file with
    ⟨k, ts, hcache, hget, hfrom⟩ | ⟨w', hfrom, htraced⟩
  · exact .inl ⟨k, (w.closeFile path l ts true l.bag).1, _, hcache, hget, by rw [advance, hfrom],
      rfl, rfl, rfl, w.closeFile_traced path l ts true l.bag⟩
  · exact .inr ⟨w', by rw [advance, hfrom], htraced⟩

theorem advance_missed (w : Work σ) (c : Trace.Context) (hquiet : opts.Quiet) (path : Bytes)
    (l : Loaded) :
    ∃ w', w.advance c opts path (.missed l) =
      (.scanned l l.file.stream (l.bag.addAll l.file.faults), w') ∧ w.hub.Traced w'.hub := by
  obtain ⟨w', hscan⟩ := w.scan_eq l.context opts l.files l.file l.bag
  exact ⟨w', by rw [advance, hscan], scan_traced hquiet hscan⟩

theorem advance_scanned (w : Work σ) (c : Trace.Context) (opts : TokenizeOptions σ) (path : Bytes)
    (l : Loaded) (hclean : bag.size = 0 → l.file.faults = []) :
    ∃ r w', w.advance c opts path (.scanned l l.file.stream bag) = (.ended (.ok r), w') ∧
      r.file = l.file ∧ r.tokens = l.file.stream ∧ r.bag = bag ∧ r.cached = false ∧
      Handled opts.cache l.file w.hub w'.hub :=
  ⟨_, _, rfl, rfl, rfl, rfl, rfl, .trans (w.toCache_handled l.context opts.cache hclean)
    (.traced (closeFile_traced _ path l _ false bag))⟩

end FrontEnd.Work
