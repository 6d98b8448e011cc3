import FrontEnd.Proofs.Batch
import FrontEnd.Proofs.Finishing

/-!
What a batch tells of its progress. The work on a path tells what belongs to its outcome and nothing
else, so a batch tells the events of its entries. A board that follows them counts the paths, each
by the outcome of its last entry; these are the entries if no path is given twice.
-/
namespace FrontEnd

open Progress (Ending Tale Message Board queued)

/-- The ending that an outcome stands for; there is none if the work broke off. -/
def Progress.Ending.of? : Except TokenizeError Tokenized → Option Ending
  | .ok r => some (.scanned r.bag.hasErrors)
  | .error (.load cause) => some (.unloaded (some cause.message))
  | .error _ => none

namespace Work

variable {σ : Type} {w w' : Work σ} {c : Trace.Context} {opts : TokenizeOptions σ} {files : FileSet}
  {f : File} {bag : Bag} {path : Bytes} {k : Ending}

@[simp]
theorem toList_progress_tell (e : Progress.Event) :
    (w.tell e).progress.toList = w.progress.toList ++ [e] := Array.toList_push

/-! Scanning and the cache tell nothing. -/

theorem progress_fromCache (cache : Option TokenCache) :
    (w.fromCache c cache f).2.progress = w.progress := by
  unfold fromCache
  split
  · rfl
  · split <;> rfl

theorem progress_toCache (cache : Option TokenCache) (ts : List Token) :
    (w.toCache c cache f bag ts).progress = w.progress := by
  unfold toCache
  split
  · rfl
  · split
    · split <;> rfl
    · rfl

theorem progress_scan {ts : List Token} {bag' : Bag}
    (h : w.scan c opts files f bag = .ok (ts, bag', w')) : w'.progress = w.progress := by
  unfold scan at h
  dsimp only at h
  generalize Lexer.allTelling _ _ = r at h
  cases r with
  | error e => cases h
  | ok x =>
    simp only [Except.map, Except.ok.injEq, Prod.mk.injEq] at h
    rw [← h.2.2]

theorem progress_tokensOf {x : List Token × Bool × Bag}
    (h : w.tokensOf c opts files f bag = .ok (x, w')) : w'.progress = w.progress := by
  have hfrom : (w.fromCache c opts.cache f).2.progress = w.progress := progress_fromCache _
  unfold tokensOf at h
  split at h
  · rename_i w₁ heq
    rw [heq] at hfrom
    cases h
    exact hfrom
  · rename_i w₁ heq
    rw [heq] at hfrom
    cases hscan : w₁.scan c opts files f bag with
    | error e =>
      rw [hscan] at h
      cases h
    | ok y =>
      obtain ⟨ts, bag', w₂⟩ := y
      rw [hscan] at h
      cases h
      rw [progress_toCache, progress_scan hscan, hfrom]

/-- A file that is loaded has had its first event. -/
theorem loadFile_tells {x : Trace.Timer × FileSet × File}
    (h : w.loadFile c opts path = (.ok x, w')) :
    w'.progress.toList =
      w.progress.toList ++ [{ file := path, stage := .load, status := .working }] := by
  unfold loadFile at h
  dsimp only at h
  split at h
  · split at h <;> cases h
  · split at h
    · cases h
    · cases h
      rw [← toList_progress_tell]

/-- A file that could not be loaded has had both its events. -/
theorem loadFile_error_tells {e : LoadError} (h : w.loadFile c opts path = (.error (.load e), w')) :
    w'.progress.toList =
      w.progress.toList ++ (⟨path, .unloaded (some e.message)⟩ : Tale).work := by
  unfold loadFile at h
  dsimp only at h
  split at h
  · split at h
    · cases h
    · cases h
      rw [toList_progress_tell]
      dsimp only
      rw [toList_progress_tell, List.append_assoc]
      rfl
  · split at h <;> cases h

theorem beginScan_tells {timer : Trace.Timer} {x : Bag × Nat × Trace.Timer}
    (h : w.beginScan opts path timer = (.ok x, w')) :
    w'.progress.toList =
      w.progress.toList ++ [{ file := path, stage := .lex, status := .working }] := by
  unfold beginScan at h
  split at h
  · cases h
  · split at h
    · cases h
    · cases h
      rw [← toList_progress_tell]

theorem beginScan_error {timer : Trace.Timer} (e : LoadError) :
    w.beginScan opts path timer ≠ (.error (.load e), w') := by
  unfold beginScan
  split
  · simp
  · split <;> simp

theorem openFile_tells {l : Loaded} (h : w.openFile c opts path = (.ok l, w')) :
    w'.progress.toList = w.progress.toList ++
      [{ file := path, stage := .load, status := .working },
        { file := path, stage := .lex, status := .working }] := by
  unfold openFile at h
  dsimp only at h
  split at h
  · cases h
  · rename_i hload
    split at h
    · cases h
    · rename_i hscan
      cases h
      rw [beginScan_tells hscan, loadFile_tells hload, List.append_assoc]
      rfl

theorem openFile_error_tells {e : LoadError} (h : w.openFile c opts path = (.error (.load e), w')) :
    w'.progress.toList =
      w.progress.toList ++ (⟨path, .unloaded (some e.message)⟩ : Tale).work := by
  unfold openFile at h
  dsimp only at h
  split at h
  · rename_i hload
    cases h
    have htold := loadFile_error_tells hload
    exact htold
  · split at h
    · rename_i hscan
      cases h
      exact absurd hscan (beginScan_error e)
    · cases h

/-- The work on a path tells what belongs to its outcome. -/
theorem tokenize_tells (h : Ending.of? (w.tokenize c opts path).1 = some k) :
    (w.tokenize c opts path).2.progress.toList =
      w.progress.toList ++ (⟨path, k⟩ : Tale).work := by
  revert h
  unfold tokenize
  split
  · rename_i e w₁ hopen
    intro h
    cases e with
    | load e =>
      cases h
      exact openFile_error_tells hopen
    | broken | cancelled | limit | report => cases h
  · rename_i hopen
    split
    · intro h
      cases h
    · rename_i htokens
      intro h
      cases h
      unfold closeFile endSpan
      dsimp only
      rw [toList_progress_tell]
      dsimp only
      rw [progress_tokensOf htokens, openFile_tells hopen, List.append_assoc]
      rfl

/-- Work that has room for its diagnostics and is not called off comes to an ending, unless it
breaks off. -/
theorem tokenize_ends (hopts : opts.Usual bag) (hwhole : fatal? (w.tokenize c opts path).1 = none) :
    ∃ k, Ending.of? (w.tokenize c opts path).1 = some k := by
  rcases FileSet.load_cases opts.fileSet (w.readingDisk c path) path with ⟨e, he⟩ | ⟨files, f, hf⟩
  · obtain ⟨w', heq, -⟩ := w.tokenize_of_error opts he
    rw [heq] at hwhole ⊢
    by_cases hfatal : e.isFatal = true
    · rw [TokenizeError.ofLoad_fatal hfatal] at hwhole
      cases hwhole
    · rw [TokenizeError.ofLoad_usual hfatal]
      exact ⟨_, rfl⟩
  · obtain ⟨r, w', heq, -⟩ := w.tokenize_gathered opts hf hopts.live hopts.room
    exact ⟨_, by rw [heq]; rfl⟩

end Work

namespace BatchEntry

/-- What a board is told of an entry of a batch. -/
def tale? (e : BatchEntry) : Option Tale := (Ending.of? e.outcome).map (⟨e.path, ·⟩)

/-- There is no result, or one with errors. -/
def failed (e : BatchEntry) : Bool :=
  match e.outcome with
  | .ok r => r.bag.hasErrors
  | .error _ => true

theorem failed_tale {e : BatchEntry} {x : Tale} (h : e.tale? = some x) : x.failed = e.failed := by
  obtain ⟨path, e | r⟩ := e
  · cases e with
    | load cause =>
      cases h
      rfl
    | broken | cancelled | limit | report => cases h
  · cases h
    cases hr : r.bag.hasErrors <;> simp [Tale.failed_eq, Tale.last, failed, hr]

/-- As many entries failed as are told to have. -/
theorem length_failed {es : List BatchEntry} {tales : List Tale}
    (h : List.Forall₂ (fun e x => e.tale? = some x) es tales) :
    (tales.filter Tale.failed).length = (es.filter failed).length := by
  induction h with
  | nil => rfl
  | @cons e x es tales hx _ ih =>
    rw [List.filter_cons, List.filter_cons, failed_tale hx]
    split
    · rw [List.length_cons, List.length_cons, ih]
    · exact ih

/-- An entry is told of under its own path. -/
theorem path_tale {e : BatchEntry} {x : Tale} (h : e.tale? = some x) : x.path = e.path := by
  obtain ⟨k, -, rfl⟩ := Option.map_eq_some_iff.mp h
  rfl

theorem filter_path {es : List BatchEntry} {tales : List Tale}
    (h : List.Forall₂ (fun e x => e.tale? = some x) es tales) (path : Bytes) :
    List.Forall₂ (fun e x => e.tale? = some x) (es.filter (·.path = path))
      (tales.filter (·.path = path)) :=
  List.rel_filter (fun _ _ hx => by simp [path_tale hx]) h

theorem any_failed_getLast? {es : List BatchEntry} {tales : List Tale}
    (h : List.Forall₂ (fun e x => e.tale? = some x) es tales) (path : Bytes) :
    (es.filter (·.path = path)).getLast?.any failed =
      (tales.filter (·.path = path)).getLast?.any Tale.failed := by
  have hback := List.forall₂_reverse_iff.mpr (filter_path h path)
  rw [List.getLast?_eq_head?_reverse, List.getLast?_eq_head?_reverse]
  generalize (es.filter (·.path = path)).reverse = later at hback ⊢
  generalize (tales.filter (·.path = path)).reverse = told at hback ⊢
  cases hback with
  | nil => rfl
  | cons hx _ =>
    rw [List.head?_cons, List.head?_cons, Option.any_some, Option.any_some, failed_tale hx]

end BatchEntry

namespace Work

variable {σ : Type} {opts : TokenizeOptions σ} {bag : Bag}

theorem tokenizeEach_tells (hopts : opts.Usual bag) {c : Trace.Context} {acc es : List BatchEntry}
    {w w' : Work σ} {ps : List Bytes} (h : tokenizeEach c opts acc w ps = (.done es, w')) :
    ∃ es' tales, es = acc.reverse ++ es' ∧
      List.Forall₂ (fun e x => e.tale? = some x) es' tales ∧ tales.map Tale.path = ps ∧
      w'.progress.toList = w.progress.toList ++ tales.flatMap Tale.work := by
  induction ps generalizing acc w with
  | nil =>
    cases h
    exact ⟨[], [], (List.append_nil _).symm, .nil, rfl, (List.append_nil _).symm⟩
  | cons p ps ih =>
    rw [tokenizeEach] at h
    dsimp only at h
    split at h
    · cases h
    · rename_i hwhole
      obtain ⟨k, hk⟩ := tokenize_ends hopts hwhole
      obtain ⟨es', tales, rfl, htales, hpaths, htold⟩ := ih h
      refine ⟨⟨p, (w.tokenize c opts p).1⟩ :: es', ⟨p, k⟩ :: tales, ?_, ?_, ?_, ?_⟩
      · rw [List.reverse_cons, List.append_assoc]
        rfl
      · refine .cons ?_ htales
        rw [BatchEntry.tale?, hk]
        rfl
      · rw [List.map_cons, hpaths]
      · rw [htold, tokenize_tells hk, List.append_assoc]
        rfl

theorem toList_progress_batchStart (w : Work σ) (c : Trace.Context) (jobs processors : Int)
    (paths : List Bytes) : (w.batchStart c jobs processors paths).2.progress.toList =
      w.progress.toList ++ paths.map queued := by
  change (paths.foldl (fun w p => w.tell (queued p)) w).progress.toList = _
  induction paths generalizing w with
  | nil => simp
  | cons p ps ih => rw [List.foldl_cons, ih, toList_progress_tell, List.append_assoc]; rfl

/-- A batch that does not break off tells the events of its entries, those of each in their order:
first what is told before the work, then the work on each entry. -/
theorem tokenizeAll_tells (hopts : opts.Usual bag) {w w' : Work σ} {c : Trace.Context}
    {jobs processors : Int} {paths : List Bytes} {es : List BatchEntry}
    (h : w.tokenizeAll c opts jobs processors paths = (.done es, w')) :
    ∃ tales, List.Forall₂ (fun e x => e.tale? = some x) es tales ∧ tales.map Tale.path = paths ∧
      w'.progress.toList =
        w.progress.toList ++ (tales.map (queued ·.path) ++ tales.flatMap Tale.work) := by
  by_cases hpaths : paths = []
  · subst hpaths
    cases h
    exact ⟨[], .nil, rfl, by simp⟩
  · rw [tokenizeAll_eq hopts w c jobs processors hpaths] at h
    dsimp only at h
    split at h
    · cases h
    · rename_i heach
      cases h
      obtain ⟨es', tales, rfl, htales, rfl, htold⟩ := tokenizeEach_tells hopts heach
      refine ⟨tales, htales, rfl, ?_⟩
      unfold endSpan
      dsimp only
      rw [htold, toList_progress_batchStart, List.append_assoc, List.map_map]
      rfl

/-- A board that follows a batch to its end counts the paths, and as failed those whose last entry
failed. This is the count of the entries if no path is given twice. -/
theorem tokenizeAll_shown (hopts : opts.Usual bag) {w w' : Work σ} (hw : w.progress = #[])
    {c : Trace.Context} {jobs processors : Int} (title : Bytes) {paths : List Bytes}
    {es : List BatchEntry} (h : w.tokenizeAll c opts jobs processors paths = (.done es, w')) :
    let b := w'.progress.foldl (fun b e => b.update (.event e)) (Board.new title paths)
    b.finished = (paths.dedup.length, (paths.dedup.filter fun path =>
      (es.filter (·.path = path)).getLast?.any BatchEntry.failed).length) ∧
    (paths.Nodup → b.finished = (es.length, (es.filter BatchEntry.failed).length)) := by
  intro b
  obtain ⟨tales, htales, rfl, htold⟩ := tokenizeAll_tells hopts h
  rw [hw, List.nil_append] at htold
  have hb : b = (Board.new title (tales.map Tale.path)).follow (w'.progress.toList.map .event) := by
    rw [Board.follow, List.foldl_map, Array.foldl_toList]
  have hturn : Interleaves (tales.map Tale.events)
      ((w'.progress.toList.map Message.event).filterMap Message.event?) := by
    rw [Progress.filterMap_event, htold]
    exact Progress.interleaves_inTurn tales
  refine ⟨?_, ?_⟩
  · rw [hb, Board.finished_new hturn, Progress.filterMap_event, htold]
    congr 2
    refine List.filter_congr fun path hpath => ?_
    rw [Progress.failedLast_inTurn (List.mem_dedup.mp hpath), BatchEntry.any_failed_getLast? htales]
  · intro hnodup
    rw [hb, Board.finished_of_nodup hturn hnodup, htales.length_eq, BatchEntry.length_failed htales]

end Work

end FrontEnd
