import FrontEnd.Proofs.LineBreak
import FrontEnd.Proofs.Loading
import FrontEnd.Proofs.SharedCache
import FrontEnd.Proofs.Showing
import FrontEnd.Workspace.Batch

/-!
Verdicts on files that are worked on in turn. Each file is read from the disk that the work before
it left. What a run tells of a path is right about that disk: there is a failure when the file
cannot be loaded, and else a result whose bag has errors just when a scan of the file finds
something wrong. That a stream may come from the cache makes no difference as long as the cache is
genuine, and the work itself keeps it so.
-/
namespace FrontEnd

open Trace (Hub)

namespace Disk

variable {d : Disk} {path : Bytes} {files : FileSet} {f : File}

/-- The file at a path, as it is loaded. -/
def file? (d : Disk) (path : Bytes) : Option File :=
  match FileSet.load {} d path with
  | .error _ => none
  | .ok (files, id) => (files.get id).toOption

theorem file?_of_loads (h : FileSet.Loads {} d path files f) : d.file? path = some f := by
  simp only [file?, h.load, h.get, Except.toOption]

theorem file?_of_error {e : LoadError} (h : FileSet.load {} d path = .error e) :
    d.file? path = none := by
  simp only [file?, h]

/-- A path has a file, and a scan of it reports nothing. -/
def Clean (d : Disk) (path : Bytes) : Prop :=
  ∃ f ts, d.file? path = some f ∧ f.scan = .ok (ts, [])

theorem clean_iff (h : d.file? path = some f) : d.Clean path ↔ f.faults = [] := by
  constructor
  · rintro ⟨g, ts, hg, hscan⟩
    cases h.symm.trans hg
    rw [f.scan_eq] at hscan
    exact (Prod.mk.inj (Except.ok.inj hscan)).2
  · intro hfaults
    exact ⟨f, f.stream, h, by rw [f.scan_eq, hfaults]⟩

theorem not_clean (h : d.file? path = none) : ¬ d.Clean path := by
  rintro ⟨f, ts, hf, -⟩
  cases h.symm.trans hf

theorem TooLarge.file? (h : d.TooLarge path) : d.file? path = none := by
  obtain ⟨e, he, -⟩ := (FileSet.load_fatal_iff {} (by decide) d path).mpr h
  exact file?_of_error he

theorem TooLarge.not_clean (h : d.TooLarge path) : ¬ d.Clean path := Disk.not_clean h.file?

theorem not_tooLarge (h : d.file? path = some f) : ¬ d.TooLarge path := by
  intro hlarge
  cases h.symm.trans hlarge.file?

end Disk

/-- A cache that has no directory for its entries is empty. -/
theorem TokenCache.isEmpty_of_find? {k : TokenCache} {d : Disk} {base : List Bytes}
    (hplace : d.place (k.pathOf []) = base ++ [Bytes.ofString "tokens", Bytes.ofString ".mp"])
    (hnone : d.root.find? (base ++ [Bytes.ofString "tokens"]) = none) : k.IsEmpty d := by
  intro digest b hb
  obtain ⟨base', hbase⟩ := k.place_pathOf d
  have hsame : base' = base := (List.append_inj_left' ((hbase []).symm.trans hplace) rfl)
  rw [Holds, hbase, hsame, List.append_cons, Tree.find?_append, hnone] at hb
  cases hb

/-- A result that can be shown: its tokens and diagnostics are on a file of its set. -/
structure Tokenized.Shows (r : Tokenized) (f : File) : Prop where
  get : r.files.get f.id = .ok f
  tokens : ∀ t ∈ r.tokens, t.span.file = f.id
  items : ∀ d ∈ r.bag.items, d.On f

/-- Options for files that are worked on by themselves, with a bag for the diagnostics of each. -/
structure TokenizeOptions.Usual {σ : Type} (opts : TokenizeOptions σ) (bag : Bag) : Prop where
  shared : opts.shared = none
  baseDir : opts.baseDir = []
  live : opts.cancelled = false
  room : Bag.new (Work.kept opts.limit) = .ok bag
  quiet : opts.Quiet

theorem TokenizeOptions.Usual.fileSet {σ : Type} {opts : TokenizeOptions σ} {bag : Bag}
    (h : opts.Usual bag) : opts.fileSet = {} := by
  rw [TokenizeOptions.fileSet, h.shared, h.baseDir]
  rfl

namespace Work

variable {σ : Type} {opts : TokenizeOptions σ} {bag : Bag} {seen : File → Prop}

/-- What a run tells of a path is what a disk has there. -/
def Judges (d : Disk) (path : Bytes) : Except TokenizeError Tokenized → Prop
  | .error e => ¬ d.Clean path ∧ (e.isFatal = true ↔ d.TooLarge path)
  | .ok r => (r.bag.hasErrors = false ↔ d.Clean path) ∧ (∃ f, r.Shows f) ∧ ¬ d.TooLarge path

/-- What breaks the work off is a file that is too large, and nothing else. -/
theorem Judges.fatal? {d : Disk} {path : Bytes} {outcome : Except TokenizeError Tokenized}
    (h : Judges d path outcome) : (∃ e, FrontEnd.fatal? outcome = some e) ↔ d.TooLarge path := by
  cases outcome with
  | ok r => simp [FrontEnd.fatal?, h.2.2]
  | error e =>
    rw [← h.2]
    by_cases hfatal : e.isFatal = true <;> simp [FrontEnd.fatal?, hfatal]

/-- The cache of the options is genuine, if there is one. -/
def Trusted (opts : TokenizeOptions σ) (seen : File → Prop) (h : Hub) : Prop :=
  ∀ k, opts.cache = some k → k.Genuine h seen

theorem Trusted.traced {h h' : Hub} (hk : Trusted opts seen h) (ht : h.Traced h') :
    Trusted opts seen h' :=
  fun k hcache => (hk k hcache).traced ht

theorem Trusted.handled {h h' : Hub} {f : File} (hk : Trusted opts seen h) (hseen : seen f)
    (hh : Handled opts.cache f h h') : Trusted opts seen h' :=
  fun k hcache => (hk k hcache).handled hcache hseen hh

/-- However tokens and a bag came about, they are on the file, and the bag has errors just when the
file has faults. -/
theorem Gathered.on {h : Hub} {f : File} {ts : List Token} {bag' : Bag} (hbag : bag.Fresh)
    (hk : Trusted opts seen h) (hseen : seen f) (hg : Gathered opts.cache h f bag ts bag') :
    (∀ t ∈ ts, t.span.file = f.id) ∧ (∀ d ∈ bag'.items, d.On f) ∧
      (bag'.hasErrors = false ↔ f.faults = []) := by
  cases hg with
  | found hcache htraced hget =>
    obtain ⟨hclean, rfl⟩ := ((hk _ hcache).traced htraced).found hseen hget
    have hcut : ∀ t ∈ f.stream.map (Token.cutFrom f), t.span.file = f.id := by
      intro t ht
      obtain ⟨u, -, rfl⟩ := List.mem_map.mp ht
      rfl
    refine ⟨hcut, fun d hd => absurd hd (hbag.not_mem d), ?_⟩
    simp [hclean, Bag.hasErrors, Bag.hasAtLeast, Array.eq_empty_of_size_eq_zero hbag.empty]
  | scanned =>
    have herrors := hbag.hasErrors_addAll fun d hd => (f.faults_on d hd).severity
    exact ⟨fun t ht => (f.stream_isStream.within t ht).1,
      fun d hd => f.faults_on d (hbag.mem_addAll hd),
      Bool.eq_false_iff.trans ((not_congr herrors).trans Classical.not_not)⟩

/-- One file: the verdict on it is right about the disk that it is read from, and the cache stays
genuine. -/
theorem tokenize_judges (hopts : opts.Usual bag) {w : Work σ} {c : Trace.Context} {path : Bytes}
    (hk : Trusted opts seen w.hub)
    (hseen : ∀ f, (w.readingDisk c path).file? path = some f → seen f) :
    Judges (w.readingDisk c path) path (w.tokenize c opts path).1 ∧
      Trusted opts seen (w.tokenize c opts path).2.hub := by
  rcases FileSet.load_cases {} (w.readingDisk c path) path with ⟨e, he⟩ | ⟨files, f, hf⟩
  · obtain ⟨w', heq, htraced⟩ := w.tokenize_of_error opts (hopts.fileSet ▸ he)
    rw [heq]
    refine ⟨⟨Disk.not_clean (Disk.file?_of_error he), ?_⟩, hk.traced htraced⟩
    rw [TokenizeError.isFatal_ofLoad]
    exact FileSet.isFatal_iff (by decide) he
  · have hfile := Disk.file?_of_loads hf
    obtain ⟨r, w', heq, hfiles, -, hgathered, hhandled⟩ :=
      w.tokenize_gathered opts (hopts.fileSet ▸ hf) hopts.live hopts.room
    obtain ⟨htokens, hitems, herrors⟩ :=
      hgathered.on (fresh_of_new hopts.room) hk (hseen f hfile)
    rw [heq]
    have hget : r.files.get f.id = .ok f := by
      rw [hfiles]
      exact hf.get
    exact ⟨⟨herrors.trans (Disk.clean_iff hfile).symm, ⟨f, hget, htokens, hitems⟩,
      Disk.not_tooLarge hfile⟩, hk.handled (hseen f hfile) (hhandled hopts.quiet)⟩

/-- The disks that files are read from which are worked on in turn, each with the path. -/
def readings (c : Trace.Context) (opts : TokenizeOptions σ) :
    Work σ → List Bytes → List (Bytes × Disk)
  | _, [] => []
  | w, p :: ps => (p, w.readingDisk c p) :: readings c opts (w.tokenize c opts p).2 ps

theorem readings_fst (c : Trace.Context) (opts : TokenizeOptions σ) (w : Work σ) (ps : List Bytes) :
    (readings c opts w ps).map Prod.fst = ps := by
  induction ps generalizing w with
  | nil => rfl
  | cons p ps ih => rw [readings, List.map_cons, ih]

/-- Files read from some disks are among those that the cache is about. -/
def Covers (seen : File → Prop) (readings : List (Bytes × Disk)) : Prop :=
  ∀ x ∈ readings, ∀ f, x.2.file? x.1 = some f → seen f

/-- How a batch ended says what the disks have that its files were read from: there is a right
verdict on each of them, unless one is too large. -/
def Ends (readings : List (Bytes × Disk)) : BatchOutcome → Prop
  | .done es => List.Forall₂ (fun x e => Judges x.2 x.1 e.outcome) readings es ∧
      ∀ x ∈ readings, ¬ x.2.TooLarge x.1
  | .broken _ => ∃ x ∈ readings, x.2.TooLarge x.1
  | .cancelled => False

/-- Files in turn: each verdict is right about the disk that its file is read from. -/
theorem tokenizeEach_ends (hopts : opts.Usual bag) (c : Trace.Context) {acc : List BatchEntry}
    {before : List (Bytes × Disk)} (hacc : Ends before (.done acc.reverse))
    {w : Work σ} {ps : List Bytes} (hk : Trusted opts seen w.hub)
    (hseen : Covers seen (readings c opts w ps)) :
    Ends (before ++ readings c opts w ps) (tokenizeEach c opts acc w ps).1 := by
  induction ps generalizing acc w before with
  | nil =>
    rw [readings, List.append_nil]
    exact hacc
  | cons p ps ih =>
    obtain ⟨hhere, hrest⟩ := List.forall_mem_cons.mp hseen
    obtain ⟨hjudges, hk'⟩ := tokenize_judges hopts hk hhere
    rw [tokenizeEach, readings]
    dsimp only
    split
    · rename_i e he
      exact ⟨_, List.mem_append_right _ List.mem_cons_self, hjudges.fatal?.mp ⟨e, he⟩⟩
    · rename_i he
      have hsmall : ¬ (w.readingDisk c p).TooLarge p := by
        rw [← hjudges.fatal?, he]
        simp
      rw [List.append_cons]
      refine ih ?_ hk' hrest
      rw [List.reverse_cons]
      exact ⟨List.rel_append hacc.1 (.cons hjudges .nil),
        List.forall_mem_append.mpr ⟨hacc.2, List.forall_mem_singleton.mpr hsmall⟩⟩

/-- Where nothing is cached and no stream goes to a file, work on files leaves the disk alone. -/
theorem Handled.still {h h' : Hub} {f : File} (hh : Handled none f h h')
    (hnone : ∀ p, ¬ h.WritesTo p) : h'.disk = h.disk ∧ ∀ p, ¬ h'.WritesTo p := by
  induction hh with
  | traced ht => exact ht.unwritten hnone
  | stored hcache => cases hcache
  | trans _ _ ih₁ ih₂ =>
    obtain ⟨hdisk, hnone'⟩ := ih₁ hnone
    obtain ⟨hdisk', hnone''⟩ := ih₂ hnone'
    exact ⟨hdisk'.trans hdisk, hnone''⟩

theorem tokenize_still (hopts : opts.Usual bag) (hcache : opts.cache = none) (w : Work σ)
    (c : Trace.Context) (path : Bytes) (hnone : ∀ p, ¬ w.hub.WritesTo p) :
    (w.tokenize c opts path).2.hub.disk = w.hub.disk ∧
      ∀ p, ¬ (w.tokenize c opts path).2.hub.WritesTo p := by
  rcases FileSet.load_cases opts.fileSet (w.readingDisk c path) path with ⟨e, he⟩ | ⟨files, f, hf⟩
  · obtain ⟨w', heq, htraced⟩ := w.tokenize_of_error opts he
    rw [heq]
    exact htraced.unwritten hnone
  · obtain ⟨r, w', heq, -, -, -, hhandled⟩ :=
      w.tokenize_gathered opts hf hopts.live hopts.room
    rw [heq]
    exact (hcache ▸ hhandled hopts.quiet).still hnone

/-- Then all files are read from one disk. -/
theorem readings_still (hopts : opts.Usual bag) (hcache : opts.cache = none) (c : Trace.Context)
    {w : Work σ} {ps : List Bytes} (hnone : ∀ p, ¬ w.hub.WritesTo p) :
    ∀ x ∈ readings c opts w ps, x.2 = w.hub.disk := by
  induction ps generalizing w with
  | nil => exact List.forall_mem_nil _
  | cons p ps ih =>
    obtain ⟨hdisk, hnone'⟩ := tokenize_still hopts hcache w c p hnone
    refine List.forall_mem_cons.mpr ⟨w.readingDisk_eq c p hnone, ?_⟩
    intro x hx
    rw [ih hnone' x hx, hdisk]

/-- The context and the span of a batch, and the work before its first file. -/
def batchStart (w : Work σ) (c : Trace.Context) (jobs processors : Int) (paths : List Bytes) :
    (Trace.Context × Option Trace.Span) × Work σ :=
  let w := paths.foldl (fun w p => w.tell { file := p, stage := .load, status := .queued }) w
  let ((c, span), hub) := w.hub.start c .driver "tokenize_files"
  let hub := hub.note span "files" (Bytes.decimal paths.length)
  let hub := hub.note span "jobs" (Bytes.decimalInt (if jobs ≤ 0 then processors else jobs))
  ((c, span), { w with hub })

theorem batchStart_traced (w : Work σ) (c : Trace.Context) (jobs processors : Int)
    (paths : List Bytes) : w.hub.Traced (w.batchStart c jobs processors paths).2.hub := by
  have htold : ∀ (ps : List Bytes) (w : Work σ),
      (ps.foldl (fun w p => w.tell { file := p, stage := .load, status := .queued }) w).hub =
        w.hub := by
    intro ps
    induction ps with
    | nil => exact fun _ => rfl
    | cons p ps ih => exact fun w => ih _
  have hstart := w.hub.start_traced c .driver "tokenize_files"
  unfold batchStart
  dsimp only
  rw [htold]
  exact (hstart.trans (Hub.note_traced _ _ _ _)).trans (Hub.note_traced _ _ _ _)

/-- A batch that was not called off works on its files in turn, and then ends its span unless it
broke off. -/
theorem tokenizeAll_eq (hopts : opts.Usual bag) (w : Work σ) (c : Trace.Context)
    (jobs processors : Int) {paths : List Bytes} (hpaths : paths ≠ []) :
    w.tokenizeAll c opts jobs processors paths =
      let b := w.batchStart c jobs processors paths
      match tokenizeEach b.1.1 opts [] b.2 paths with
      | (.broken e, w) => (.broken e, w)
      | (r, w) => (r, w.endSpan b.1.2) := by
  have hself : { opts with shared := none } = opts := by
    obtain ⟨limit, report, baseDir, shared, cache, cancelled⟩ := opts
    cases hopts.shared
    rfl
  unfold tokenizeAll
  rw [if_neg (by simpa using hpaths)]
  dsimp only
  rw [if_neg (by simp [hopts.live]), hself]
  rfl

/-- The disks that the files of a batch are read from, each with the path. -/
def batchReadings (w : Work σ) (c : Trace.Context) (opts : TokenizeOptions σ)
    (jobs processors : Int) (paths : List Bytes) : List (Bytes × Disk) :=
  let ((c, _), w) := w.batchStart c jobs processors paths
  readings c opts w paths

/-- A batch: each verdict is right about the disk that its file is read from. -/
theorem tokenizeAll_ends (hopts : opts.Usual bag) (w : Work σ) (c : Trace.Context)
    (jobs processors : Int) {paths : List Bytes} (hpaths : paths ≠ [])
    (hk : Trusted opts seen w.hub)
    (hseen : Covers seen (w.batchReadings c opts jobs processors paths)) :
    Ends (w.batchReadings c opts jobs processors paths)
      (w.tokenizeAll c opts jobs processors paths).1 := by
  have hk' := hk.traced (w.batchStart_traced c jobs processors paths)
  have hnone : Ends [] (.done [].reverse) := ⟨.nil, List.forall_mem_nil _⟩
  have heach := tokenizeEach_ends hopts (w.batchStart c jobs processors paths).1.1 hnone hk' hseen
  rw [tokenizeAll_eq hopts w c jobs processors hpaths]
  dsimp only
  split
  · rename_i heq
    rw [heq] at heach
    exact heach
  · rename_i heq
    rw [heq] at heach
    exact heach

end Work

end FrontEnd
