import FrontEnd.Proofs.Tokenize
import FrontEnd.Proofs.Tracing
import FrontEnd.Proofs.Versions

/-!
What becomes of a path. A file is read from the disk as the events told before left it. Where it
cannot be loaded that is the outcome, and the work breaks off for what is too large. Where it can be
loaded there is a result, unless more diagnostics are to be kept than a bag can count. On the way
the hub changes by tracing only, and by storing the stream of the file in the cache when the file
has no faults.
-/
namespace FrontEnd

/-- What a path has does not go into a set of files: in normal form it is too long for offsets of 32
bits, or it has no end. -/
def Disk.TooLarge (d : Disk) (path : Bytes) : Prop :=
  (∃ raw, d.read path = .ok raw ∧ ¬ FitsOffsets (normalize raw).1) ∨
    d.get path = .ok (.device .full)

namespace FileSet

variable {fs fs' : FileSet} {d : Disk} {path content : Bytes} {flags : FileFlags} {id : FileId}
  {f : File}

/-- A set becomes another one with a file more, when that is loaded from a disk. -/
structure Loads (fs : FileSet) (d : Disk) (path : Bytes) (fs' : FileSet) (f : File) : Prop where
  load : fs.load d path = .ok (fs', f.id)
  get : fs'.get f.id = .ok f

theorem ok_of_mapError {ε ε' α : Type} {x : Except ε α} {why : ε → ε'} {a : α}
    (h : x.mapError why = .ok a) : x = .ok a := by
  cases x with
  | error e => cases h
  | ok b =>
    cases h
    rfl

theorem loads_of_load (h : fs.load d path = .ok (fs', id)) : ∃ f, fs.Loads d path fs' f := by
  have hadd : ∃ content flags, fs.add path content flags = .ok (fs', id) := by
    unfold load at h
    split at h
    · cases h
    · cases h
    · split at h
      · cases h
      · rename_i raw _
        exact ⟨(normalize raw).1, (normalize raw).2, ok_of_mapError h⟩
  obtain ⟨content, flags, hadd⟩ := hadd
  obtain ⟨f, hf, rfl, -⟩ := get_of_add hadd
  exact ⟨f, h, hf⟩

/-- A path is loaded or it is not. -/
theorem load_cases (fs : FileSet) (d : Disk) (path : Bytes) :
    (∃ e, fs.load d path = .error e) ∨ ∃ fs' f, fs.Loads d path fs' f := by
  cases h : fs.load d path with
  | error e => exact .inl ⟨e, rfl⟩
  | ok x =>
    obtain ⟨f, hf⟩ := loads_of_load h
    exact .inr ⟨x.1, f, hf⟩

/-- Of what can be read, the normal form is stored if it fits; what cannot be read is no matter of
size, unless it has no end. -/
theorem load_fatal_iff (fs : FileSet) (hroom : fs.files.size < 0x100000000) (d : Disk)
    (path : Bytes) :
    (∃ e, fs.load d path = .error e ∧ e.isFatal = true) ↔ d.TooLarge path := by
  unfold Disk.TooLarge
  cases hread : d.read path with
  | ok raw =>
    have hfull : d.get path ≠ .ok (.device .full) := by
      intro hget
      simp [Disk.read, hget] at hread
    rw [fs.load_of_read hread]
    simp only [hfull, or_false, Except.ok.injEq, exists_eq_left']
    rcases fs.add_stores path (normalize raw).1 (normalize raw).2 with
      ⟨hfits, e, he⟩ | ⟨hfits, hadd⟩
    · exact iff_of_true ⟨_, by rw [he]; rfl, rfl⟩ fun h => hfits ⟨hroom, h⟩
    · refine iff_of_false ?_ (not_not_intro hfits.2)
      rintro ⟨e, he, -⟩
      rw [hadd] at he
      cases he
  | error cause =>
    simp only [reduceCtorEq, false_and, exists_false, false_or]
    have hfailed := hread
    unfold load Disk.stat
    unfold Disk.read at hread
    cases hget : d.get path with
    | error f =>
      simp only [reduceCtorEq, iff_false, not_exists, not_and]
      rintro e ⟨⟩
      split <;> simp [LoadError.isFatal]
    | ok t =>
      rw [hget] at hread
      cases t with
      | dir es => simp [Except.mapError, LoadError.isFatal]
      | file c => cases hread
      | device e =>
        cases e with
        | null => cases hread
        | full =>
          cases hread
          exact iff_of_true ⟨_, by rw [hfailed]; rfl, rfl⟩ rfl

theorem isFatal_iff (hroom : fs.files.size < 0x100000000) {e : LoadError}
    (h : fs.load d path = .error e) : e.isFatal = true ↔ d.TooLarge path := by
  rw [← fs.load_fatal_iff hroom]
  simp [h]

end FileSet

/-- What becomes of a failure to load. -/
def TokenizeError.ofLoad (e : LoadError) : TokenizeError := if e.isFatal then .broken e else .load e

theorem TokenizeError.ofLoad_fatal {e : LoadError} (h : e.isFatal = true) : ofLoad e = .broken e :=
  if_pos h

theorem TokenizeError.ofLoad_usual {e : LoadError} (h : e.isFatal ≠ true) : ofLoad e = .load e :=
  if_neg h

theorem TokenizeError.isFatal_ofLoad (e : LoadError) : (ofLoad e).isFatal = e.isFatal := by
  unfold ofLoad
  split
  · rename_i h
    rw [h]
    rfl
  · rename_i h
    rw [Bool.eq_false_iff.mpr h]
    rfl

/-- The set that a run adds its file to. -/
def TokenizeOptions.fileSet {σ : Type} (opts : TokenizeOptions σ) : FileSet :=
  opts.shared.getD { baseDir := opts.baseDir }

/-- Reporting does no more to the hub than tracing does. -/
def TokenizeOptions.Quiet {σ : Type} (opts : TokenizeOptions σ) : Prop :=
  ∀ files (h : Trace.Hub) s d, h.Traced (opts.report files (h, s) d).1

namespace Work

open Trace (Hub)

variable {σ : Type}

/-- The disk that a file is read from under its span: the one that the opening of its first phase
leaves. -/
def loadingDisk (w : Work σ) (c : Trace.Context) : Disk :=
  (({ context := c } : Trace.Timer).begin w.hub "load").2.2.disk

/-- The disk that a file is read from. -/
def readingDisk (w : Work σ) (c : Trace.Context) (path : Bytes) : Disk :=
  let ((c, _), hub) := w.hub.start c .file path
  { w with hub }.loadingDisk c

/-- Where no stream goes to a file, files are read from the disk as it is. -/
theorem readingDisk_eq (w : Work σ) (c : Trace.Context) (path : Bytes)
    (h : ∀ p, ¬ w.hub.WritesTo p) : w.readingDisk c path = w.hub.disk :=
  ((w.hub.start_traced c .file path).trans (Trace.Timer.begin_traced _ _ _)).still h

/-- All that work on a file does to the hub. -/
inductive Handled (cache : Option TokenCache) (f : File) : Hub → Hub → Prop
  | traced {h h' : Hub} : h.Traced h' → Handled cache f h h'
  | stored {h : Hub} {c : TokenCache} {d : Disk} (hcache : cache = some c) (hclean : f.faults = [])
      (hput : c.put h.disk f.digest f.stream = .ok d) : Handled cache f h { h with disk := d }
  | trans {h₁ h₂ h₃ : Hub} : Handled cache f h₁ h₂ → Handled cache f h₂ h₃ → Handled cache f h₁ h₃

/-- Where tokens and a bag of diagnostics are from: the cache, or a scan of the file. -/
inductive Gathered (cache : Option TokenCache) (h : Hub) (f : File) (bag : Bag) :
    List Token → Bag → Prop
  | found {c : TokenCache} {h' : Hub} {ts : List Token} (hcache : cache = some c)
      (htraced : h.Traced h') (hget : c.get h'.disk f = .ok (some ts)) :
      Gathered cache h f bag ts bag
  | scanned : Gathered cache h f bag f.stream (bag.addAll f.faults)

theorem Gathered.of_traced {cache : Option TokenCache} {h h' : Hub} {f : File} {bag bag' : Bag}
    {ts : List Token} (htraced : h.Traced h') (hg : Gathered cache h' f bag ts bag') :
    Gathered cache h f bag ts bag' := by
  cases hg with
  | found hcache ht hget => exact .found hcache (htraced.trans ht) hget
  | scanned => exact .scanned

variable {opts : TokenizeOptions σ} {c : Trace.Context} {path : Bytes} {files : FileSet} {f : File}
  {bag : Bag}

theorem scan_traced {w w' : Work σ} {ts : List Token} {bag' : Bag} (hquiet : opts.Quiet)
    (h : w.scan c opts files f bag = .ok (ts, bag', w')) : w.hub.Traced w'.hub := by
  unfold scan at h
  dsimp only at h
  generalize heach : (if (c.tracer.level w.hub).admits .token = true then _ else _) = each at h
  generalize hb : ({ report := _, sink := (bag, w.hub, w.sink) } : Builder (Bag × Hub × σ)) = b at h
  have htell : ∀ t (s : Bag × Hub × σ), w.hub.Traced s.2.1 → w.hub.Traced (each t s).2.1 := by
    intro t s hs
    rw [← heach]
    split
    · exact hs.trans (s.2.1.point_traced _ _ _ _ _)
    · exact hs
  have hreport : ∀ (s : Bag × Hub × σ) d, w.hub.Traced s.2.1 → w.hub.Traced (b.report s d).2.1 := by
    intro s d hs
    rw [← hb]
    exact hs.trans (hquiet files s.2.1 s.2.2 d)
  have hidle : ∀ x ∈ some b, x.pending = none := by simp [← hb]
  obtain ⟨last, hlast, hbuilder⟩ := Lexer.allTelling_new each f hidle
  have hstart : w.hub.Traced b.sink.2.1 := by rw [← hb]; exact .refl _
  have hsink : w.hub.Traced (b.followAll each f.id f.reading).sink.2.1 :=
    Builder.followAll_sink (P := fun s : Bag × Hub × σ => w.hub.Traced s.2.1) hreport htell f.id
      f.reading hstart
  rw [hlast] at h
  simp only [Except.map, hbuilder, Option.map_some, Option.getD_some, Except.ok.injEq,
    Prod.mk.injEq] at h
  obtain ⟨-, -, rfl⟩ := h
  exact hsink

theorem cacheFailed_traced (w : Work σ) (c : Trace.Context) (e : CacheError) :
    w.hub.Traced (w.cacheFailed c e).hub :=
  w.hub.point_traced _ _ _ _ _

/-- The cache has a stream for a file, or it was asked and nothing came of it. -/
theorem fromCache_cases (w : Work σ) (c : Trace.Context) (cache : Option TokenCache) (f : File) :
    (∃ k ts, cache = some k ∧ k.get w.hub.disk f = .ok (some ts) ∧
      w.fromCache c cache f = (some ts, w)) ∨
    ∃ w', w.fromCache c cache f = (none, w') ∧ w.hub.Traced w'.hub := by
  cases cache with
  | none => exact .inr ⟨w, rfl, .refl _⟩
  | some k =>
    cases hget : k.get w.hub.disk f with
    | error e =>
      exact .inr ⟨w.cacheFailed c e, by simp only [fromCache, hget], w.cacheFailed_traced c e⟩
    | ok found =>
      cases found with
      | none => exact .inr ⟨w, by simp only [fromCache, hget], .refl _⟩
      | some ts => exact .inl ⟨k, ts, rfl, hget, by simp only [fromCache, hget]⟩

/-- Only the stream of a file without faults is stored. -/
theorem toCache_handled (w : Work σ) (c : Trace.Context) (cache : Option TokenCache) {bag : Bag}
    (hclean : bag.size = 0 → f.faults = []) :
    Handled cache f w.hub (w.toCache c cache f bag f.stream).hub := by
  cases cache with
  | none => exact .traced (.refl _)
  | some k =>
    unfold toCache
    dsimp only
    split
    · rename_i hsize
      split
      · rename_i d hput
        exact .stored rfl (hclean hsize) hput
      · exact .traced (w.cacheFailed_traced c _)
    · exact .traced (.refl _)

/-- The tokens of a file are found or scanned, and never is there a failure. -/
theorem tokensOf_gathered (w : Work σ) (c : Trace.Context) (opts : TokenizeOptions σ)
    (files : FileSet) (f : File) (hbag : bag.Fresh) :
    ∃ ts cached bag' w', w.tokensOf c opts files f bag = .ok ((ts, cached, bag'), w') ∧
      Gathered opts.cache w.hub f bag ts bag' ∧
      (opts.Quiet → Handled opts.cache f w.hub w'.hub) := by
  unfold tokensOf
  rcases w.fromCache_cases c opts.cache f with ⟨k, ts, hcache, hget, hfrom⟩ | ⟨w₁, hfrom, htraced⟩
  · rw [hfrom]
    exact ⟨ts, true, bag, w, rfl, .found hcache (.refl _) hget, fun _ => .traced (.refl _)⟩
  · obtain ⟨w₂, hscan⟩ := w₁.scan_eq c opts files f bag
    simp only [hfrom, hscan, Except.map]
    refine ⟨_, _, _, _, rfl, .scanned, ?_⟩
    intro hquiet
    exact .trans (.traced (htraced.trans (scan_traced hquiet hscan)))
      (w₂.toCache_handled c opts.cache hbag.addAll_size)

theorem loadFile_of_error (w : Work σ) {e : LoadError}
    (h : opts.fileSet.load (w.loadingDisk c) path = .error e) :
    ∃ w', w.loadFile c opts path = (.error (.ofLoad e), w') ∧ w.hub.Traced w'.hub := by
  have hbegin := Trace.Timer.begin_traced { context := c } w.hub "load"
  unfold loadFile
  unfold loadingDisk TokenizeOptions.fileSet at h
  dsimp only [tell] at h ⊢
  rw [h]
  dsimp only
  by_cases hfatal : e.isFatal = true
  · rw [if_pos hfatal, TokenizeError.ofLoad, if_pos hfatal]
    exact ⟨_, rfl, hbegin⟩
  · rw [if_neg hfatal, TokenizeError.ofLoad, if_neg hfatal]
    exact ⟨_, rfl, hbegin.trans (Trace.Timer.finish_traced _ _ _ _)⟩

theorem loadFile_of_loads (w : Work σ)
    (h : opts.fileSet.Loads (w.loadingDisk c) path files f) :
    ∃ timer w', w.loadFile c opts path = (.ok (timer, files, f), w') ∧ w.hub.Traced w'.hub := by
  have hbegin := Trace.Timer.begin_traced { context := c } w.hub "load"
  have hload := h.load
  unfold loadFile
  unfold loadingDisk TokenizeOptions.fileSet at hload
  dsimp only [tell] at hload ⊢
  rw [hload]
  dsimp only
  rw [h.get]
  exact ⟨_, _, rfl, hbegin.trans (Trace.Timer.finish_traced _ _ _ _)⟩

theorem endSpan_traced (w : Work σ) (span : Option Trace.Span) :
    w.hub.Traced (w.endSpan span).hub :=
  w.hub.endSpan_traced span []

theorem openFile_of_error (w : Work σ) {e : LoadError}
    (h : opts.fileSet.load (w.readingDisk c path) path = .error e) :
    ∃ w', w.openFile c opts path = (.error (.ofLoad e), w') ∧ w.hub.Traced w'.hub := by
  have hstart := w.hub.start_traced c .file path
  obtain ⟨w₁, heq, htraced⟩ := loadFile_of_error
    { w with hub := (w.hub.start c .file path).2 } (c := (w.hub.start c .file path).1.1) h
  unfold openFile
  dsimp only
  rw [heq]
  exact ⟨_, rfl, (hstart.trans htraced).trans (w₁.endSpan_traced _)⟩

/-- A file that can be loaded is opened, if there is a bag for its diagnostics. -/
theorem openFile_of_loads (w : Work σ)
    (h : opts.fileSet.Loads (w.readingDisk c path) path files f) (hcancel : opts.cancelled = false)
    (hbag : Bag.new (kept opts.limit) = .ok bag) :
    ∃ l w', w.openFile c opts path = (.ok l, w') ∧ l.files = files ∧ l.file = f ∧ l.bag = bag ∧
      w.hub.Traced w'.hub := by
  have hstart := w.hub.start_traced c .file path
  obtain ⟨timer, w₁, heq, htraced⟩ := loadFile_of_loads
    { w with hub := (w.hub.start c .file path).2 } (c := (w.hub.start c .file path).1.1) h
  have hbegin := timer.begin_traced w₁.hub "lex"
  unfold openFile beginScan
  dsimp only
  rw [heq]
  dsimp only
  rw [if_neg (by simp [hcancel]), hbag]
  exact ⟨_, _, rfl, rfl, rfl, rfl, (hstart.trans htraced).trans hbegin⟩

/-- A bag that cannot be had is the end of the work. -/
theorem openFile_limit (w : Work σ)
    (h : opts.fileSet.Loads (w.readingDisk c path) path files f) (hcancel : opts.cancelled = false)
    {e : BagError} (hbag : Bag.new (kept opts.limit) = .error e) :
    ∃ w', w.openFile c opts path = (.error (.limit e), w') := by
  obtain ⟨timer, w₁, heq, -⟩ := loadFile_of_loads
    { w with hub := (w.hub.start c .file path).2 } (c := (w.hub.start c .file path).1.1) h
  unfold openFile beginScan
  dsimp only
  rw [heq]
  dsimp only
  rw [if_neg (by simp [hcancel]), hbag]
  exact ⟨_, rfl⟩

theorem closeFile_traced (w : Work σ) (path : Bytes) (l : Loaded) (ts : List Token) (cached : Bool)
    (bag : Bag) : w.hub.Traced (w.closeFile path l ts cached bag).2.hub := by
  unfold closeFile
  refine .trans ?_ (endSpan_traced _ l.span)
  exact Trace.Timer.finish_traced _ _ _ _

/-- A path that cannot be loaded has that failure for its outcome. -/
theorem tokenize_of_error (w : Work σ) (opts : TokenizeOptions σ) {e : LoadError}
    (h : opts.fileSet.load (w.readingDisk c path) path = .error e) :
    ∃ w', w.tokenize c opts path = (.error (.ofLoad e), w') ∧ w.hub.Traced w'.hub := by
  obtain ⟨w₁, heq, htraced⟩ := w.openFile_of_error h
  unfold tokenize
  rw [heq]
  exact ⟨w₁, rfl, htraced⟩

/-- A file that can be loaded has a result, if there is a bag for its diagnostics. -/
theorem tokenize_gathered (w : Work σ) (opts : TokenizeOptions σ)
    (h : opts.fileSet.Loads (w.readingDisk c path) path files f) (hcancel : opts.cancelled = false)
    (hbag : Bag.new (kept opts.limit) = .ok bag) :
    ∃ r w', w.tokenize c opts path = (.ok r, w') ∧ r.files = files ∧ r.file = f ∧
      Gathered opts.cache w.hub f bag r.tokens r.bag ∧
      (opts.Quiet → Handled opts.cache f w.hub w'.hub) := by
  obtain ⟨l, w₁, heq, rfl, rfl, rfl, htraced⟩ := w.openFile_of_loads h hcancel hbag
  obtain ⟨ts, cached, bag', w₂, htokens, hgathered, hhandled⟩ :=
    w₁.tokensOf_gathered l.context opts l.files l.file (fresh_of_new hbag)
  unfold tokenize
  rw [heq]
  dsimp only
  rw [htokens]
  refine ⟨_, _, rfl, rfl, rfl, hgathered.of_traced htraced, ?_⟩
  intro hquiet
  exact .trans (.traced htraced)
    (.trans (hhandled hquiet) (.traced (w₂.closeFile_traced path l ts cached bag')))

/-- A stream that the cache has for a file is what the work on it comes to. -/
theorem tokenize_found {w : Work σ} (opts : TokenizeOptions σ) {k : TokenCache} {ts : List Token}
    (hloads : opts.fileSet.Loads (w.readingDisk c path) path files f)
    (hcancel : opts.cancelled = false) (hbag : Bag.new (kept opts.limit) = .ok bag)
    (hcache : opts.cache = some k) (hsilent : ∀ p, ¬ w.hub.WritesTo p)
    (hget : k.get w.hub.disk f = .ok (some ts)) :
    ∃ r, (w.tokenize c opts path).1 = .ok r ∧ r.cached = true := by
  obtain ⟨l, w₁, hopen, -, rfl, -, htraced⟩ := w.openFile_of_loads hloads hcancel hbag
  have hfrom : w₁.fromCache l.context opts.cache l.file = (some ts, w₁) := by
    rw [hcache, fromCache, htraced.still hsilent, hget]
  rw [tokenize, hopen]
  dsimp only
  rw [tokensOf, hfrom]
  exact ⟨_, rfl, rfl⟩

/-- A file that can be loaded has no result, if there is no bag for its diagnostics. -/
theorem tokenize_limit (w : Work σ) (opts : TokenizeOptions σ)
    (h : opts.fileSet.Loads (w.readingDisk c path) path files f) (hcancel : opts.cancelled = false)
    {e : BagError} (hbag : Bag.new (kept opts.limit) = .error e) :
    (w.tokenize c opts path).1 = .error (.limit e) := by
  obtain ⟨w₁, heq⟩ := w.openFile_limit h hcancel hbag
  unfold tokenize
  rw [heq]

end Work

end FrontEnd
