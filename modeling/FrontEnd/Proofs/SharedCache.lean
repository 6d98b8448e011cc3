import FrontEnd.Proofs.Stages
import FrontEnd.Proofs.TokenCache

/-!
Runs that share a cache of token streams. Each takes the steps of the work on its file; between
these steps others may look, store and empty the cache. Every entry is at all times the stream of a
file without faults, so that a run has the result that it has without the cache, except that a
stream from the cache has its texts cut anew.
-/
namespace FrontEnd

namespace TokenCache

variable {c : TokenCache} {d d' : Disk} {f : File} {digest : Bytes}

/-- The entry for a digest is a file with the given content. -/
def Holds (c : TokenCache) (d : Disk) (digest b : Bytes) : Prop :=
  d.root.find? (d.place (c.pathOf digest)) = some (.file b)

def IsEmpty (c : TokenCache) (d : Disk) : Prop := ∀ digest b, ¬ c.Holds d digest b

/-- A disk with no entry that was not there before. -/
def NoNewEntry (c : TokenCache) (d d' : Disk) : Prop :=
  ∀ digest b, c.Holds d' digest b → c.Holds d digest b

theorem name_tokens : Path.Name "tokens" := by constructor <;> decide

theorem name_entry (digest : Bytes) : Path.Name (Bytes.hex digest ++ Bytes.ofString ".mp") := by
  have hlast : (Bytes.hex digest ++ Bytes.ofString ".mp").getLast? = some 112 := by
    rw [List.getLast?_append]
    rfl
  refine ⟨?_, ?_, ?_, ?_⟩
  · intro h
    rw [h] at hlast
    cases hlast
  · intro h
    rw [h] at hlast
    revert hlast
    decide
  · intro h
    rw [h] at hlast
    revert hlast
    decide
  · have hend : Path.slash ∉ Bytes.ofString ".mp" := by decide
    simp [Bytes.slash_not_mem_hex, hend]

/-- All entries stand in one directory, each under the name that its digest gives. -/
theorem place_pathOf (c : TokenCache) (d : Disk) :
    ∃ base, ∀ digest, d.place (c.pathOf digest) =
      base ++ [Bytes.ofString "tokens", Bytes.hex digest ++ Bytes.ofString ".mp"] := by
  refine ⟨(((if Path.isAbsolute c.dir then [[]] else []) ++ Path.elements c.dir).foldl Disk.follow
    (if Path.isAbsolute c.dir then [] else d.cwd.reverse)).reverse, ?_⟩
  intro digest
  have hname := name_entry digest
  have hnames : ∀ n ∈ [Bytes.ofString "tokens", Bytes.hex digest ++ Bytes.ofString ".mp"],
      Path.Name n := List.forall_mem_cons.mpr ⟨name_tokens, by simpa using hname⟩
  have hplain : ∀ e ∈ Path.elements c.dir ++
      [Bytes.ofString "tokens", Bytes.hex digest ++ Bytes.ofString ".mp"],
      e ≠ [] ∧ Path.slash ∉ e := by
    intro e he
    rcases List.mem_append.mp he with he | he
    · exact Path.elements_plain c.dir e he
    · exact ⟨(hnames e he).ne_nil, (hnames e he).plain⟩
  rw [pathOf, Path.join_names c.dir hnames (.inr (by simp)), Disk.place, Disk.start,
    Path.pieces_spell _ (by simp) fun e he => (hplain e he).2,
    Path.isAbsolute_spell _ (by simp) hplain,
    ← List.append_assoc, List.foldl_append]
  simp [Disk.follow, name_tokens.ne_nil, name_tokens.ne_dot, name_tokens.ne_dotDot, hname.ne_dot,
    hname.ne_dotDot, -List.append_eq_nil_iff, hname.ne_nil]

theorem place_pathOf_inj {k k' : Bytes} (h : d.place (c.pathOf k) = d.place (c.pathOf k')) :
    k = k' := by
  obtain ⟨base, hbase⟩ := c.place_pathOf d
  rw [hbase, hbase] at h
  have hhex : Bytes.hex k = Bytes.hex k' := by simpa using h
  rw [← Bytes.ofHex_hex k, hhex, Bytes.ofHex_hex]

/-- Where there are no directories, there are no entries. -/
theorem isEmpty_of_flat (h : ∀ e ∈ d.root.entries, e.2.entries = []) : c.IsEmpty d := by
  intro digest b hb
  obtain ⟨base, hbase⟩ := c.place_pathOf d
  obtain ⟨n, m, ns, hns⟩ : ∃ n m ns, d.place (c.pathOf digest) = n :: m :: ns := by
    rw [hbase]
    rcases base with _ | ⟨n, _ | ⟨m, ns⟩⟩ <;> exact ⟨_, _, _, rfl⟩
  rw [Holds, hns, Tree.find?] at hb
  split at hb
  · rename_i t ht
    obtain ⟨l₁, l₂, hl, -⟩ := List.lookup_eq_some_iff.mp ht
    rw [Tree.find?, h (n, t) (by simp [hl])] at hb
    cases hb
  · cases hb

theorem noNewEntry_of_noNewFile (h : Disk.NoNewFile d d') : c.NoNewEntry d d' := by
  intro digest b hb
  have hplace := Disk.place_congr h.cwd (c.pathOf digest)
  rw [Holds, hplace] at hb
  exact h.old _ _ hb

/-- Putting makes the entry for the digest and no other. -/
theorem holds_put {ts : List Token} (h : c.put d digest ts = .ok d') {k b : Bytes}
    (hb : c.Holds d' k b) :
    k = digest ∧ b = (StoredStream.ofTokens ts).encode ∨ c.Holds d k b := by
  obtain ⟨d₁, hdirs, hmove⟩ := put_eq h
  rw [Disk.replaceFile_eq hmove] at hb
  change (d₁.root.put _ _).find? (d₁.place (c.pathOf k)) = _ at hb
  rcases Tree.find?_put_file hb with ⟨r, hplace, hr⟩ | hold
  · left
    cases r with
    | nil =>
      rw [List.append_nil] at hplace
      cases hr
      exact ⟨place_pathOf_inj hplace, rfl⟩
    | cons n r => cases hr
  · exact .inr (noNewEntry_of_noNewFile hdirs k b hold)

theorem clear_noNewEntry (h : c.clear d = .ok d') : c.NoNewEntry d d' := by
  apply noNewEntry_of_noNewFile
  have hdirs := (d.removeAll_noNewFile c.dir).trans ((d.removeAll c.dir).makeDirs_noNewFile c.dir)
  unfold clear at h
  split at h
  · cases h
    exact Disk.NoNewFile.refl d
  · cases h
  · split at h
    · cases h
    · rename_i heq
      cases h
      rwa [heq] at hdirs

/-- A stream that is found comes from the entry for the digest. -/
theorem holds_of_get {ts : List Token} (h : c.get d f = .ok (some ts)) :
    ∃ b s, c.Holds d f.digest b ∧ StoredStream.decode? b = some s ∧ s.tokens? f = some ts := by
  unfold get at h
  dsimp only at h
  split at h
  · split at h
    · cases h
    · split at h <;> cases h
  · rename_i b hread
    split at h
    · cases h
    · rename_i s hs
      have hb : b ≠ [] := by
        rintro rfl
        simp [StoredStream.decode?, Pack.decode?, Pack.decodeDeep] at hs
      exact ⟨b, s, Disk.read_eq hread hb, hs, Except.ok.inj h⟩

end TokenCache

namespace File

variable {f g : File}

theorem reading_congr (h : g.content = f.content) : g.reading = f.reading := by
  unfold reading
  rw [h]

/-- Files with the same content are stored alike. -/
theorem ofTokens_congr (h : g.content = f.content) :
    StoredStream.ofTokens g.stream = StoredStream.ofTokens f.stream := by
  unfold stream
  rw [reading_congr h]
  simp [StoredStream.ofTokens, Reading.tokens, Placed.token, Function.comp_def]

theorem faults_eq_nil_congr (h : g.content = f.content) : g.faults = [] ↔ f.faults = [] := by
  unfold faults
  rw [reading_congr h]
  simp [Reading.diagnostics, Placed.diagnostics]

theorem span_cutFrom {t : Token} (ht : t ∈ f.stream) : (t.cutFrom f).span = t.span := by
  rw [Token.cutFrom, ← (f.stream_isStream.within t ht).1]

end File

open Trace (Hub)

namespace TokenCache

/-- Every entry is the stream of a file without faults. -/
def Faithful (k : TokenCache) (d : Disk) (seen : File → Prop) : Prop :=
  ∀ digest b, k.Holds d digest b →
    ∃ f, seen f ∧ f.digest = digest ∧ f.faults = [] ∧ b = (StoredStream.ofTokens f.stream).encode

/-- No stream of a hub goes to an entry. -/
def Apart (k : TokenCache) (h : Hub) : Prop :=
  ∀ p, h.WritesTo p → ∀ digest, h.disk.place p ≠ h.disk.place (k.pathOf digest)

/-- A cache in which every entry is the stream of a file without faults, among files of which no two
have the same digest and another content. No stream of the hub goes to an entry. -/
structure Genuine (k : TokenCache) (h : Hub) (seen : File → Prop) : Prop where
  distinct : ∀ f g, seen f → seen g → f.digest = g.digest → f.content = g.content
  entries : k.Faithful h.disk seen
  apart : k.Apart h

namespace Genuine

variable {k : TokenCache} {h h' : Hub} {seen : File → Prop} {f : File}

theorem traced (hk : k.Genuine h seen) (ht : h.Traced h') : k.Genuine h' seen where
  distinct := hk.distinct
  entries digest b hb := by
    have hplace := Disk.place_congr ht.cwd (k.pathOf digest)
    rw [Holds, hplace] at hb
    rcases ht.old _ b hb with hold | ⟨p, hp, hentry⟩
    · exact hk.entries digest b hold
    · exact absurd hentry.symm (hk.apart p hp digest)
  apart p hp digest := by
    rw [Disk.place_congr ht.cwd, Disk.place_congr ht.cwd]
    exact hk.apart p (ht.targets p hp) digest

theorem stored (hk : k.Genuine h seen) (hseen : seen f) (hclean : f.faults = []) {d : Disk}
    (hput : k.put h.disk f.digest f.stream = .ok d) : k.Genuine { h with disk := d } seen where
  distinct := hk.distinct
  entries digest b hb := by
    rcases holds_put hput hb with ⟨rfl, rfl⟩ | hold
    · exact ⟨f, hseen, rfl, hclean, rfl⟩
    · exact hk.entries digest b hold
  apart p hp digest := by
    have hcwd : d.cwd = h.disk.cwd := by
      obtain ⟨d₁, hdirs, hmove⟩ := put_eq hput
      rw [Disk.replaceFile_eq hmove]
      exact hdirs.cwd
    have hplace := Disk.place_congr hcwd
    change d.place p ≠ d.place (k.pathOf digest)
    rw [hplace, hplace]
    exact hk.apart p hp digest

theorem handled {cache : Option TokenCache} (hcache : cache = some k) (hk : k.Genuine h seen)
    (hseen : seen f) (hh : Work.Handled cache f h h') : k.Genuine h' seen := by
  induction hh with
  | traced ht => exact hk.traced ht
  | stored hsome hclean hput =>
    cases hcache.symm.trans hsome
    exact hk.stored hseen hclean hput
  | trans _ _ ih₁ ih₂ => exact ih₂ (ih₁ hk)

/-- A stream is found only for a file without faults, and it is the stream of that file. -/
theorem found (hk : k.Genuine h seen) (hseen : seen f) {ts : List Token}
    (hget : k.get h.disk f = .ok (some ts)) :
    f.faults = [] ∧ ts = f.stream.map (Token.cutFrom f) := by
  obtain ⟨b, stored, hb, hdecode, htokens⟩ := holds_of_get hget
  obtain ⟨g, hg, hdigest, hclean, rfl⟩ := hk.entries _ b hb
  have hcontent : f.content = g.content := hk.distinct f g hseen hg hdigest.symm
  rw [StoredStream.decode?_encode (StoredStream.ofTokens_short _)] at hdecode
  cases hdecode
  rw [← File.ofTokens_congr hcontent, StoredStream.tokens?_ofTokens rfl] at htokens
  exact ⟨(File.faults_eq_nil_congr hcontent).mpr hclean, (Option.some.inj htokens).symm⟩

end Genuine

end TokenCache

namespace SharedCache

/-- A run: what it is asked for, and the file that is at its path. It uses the cache, is not called
off, keeps a number of diagnostics that a bag has room for, and reports to nothing that would change
the disk. -/
structure Run (σ : Type) (cache : TokenCache) where
  options : TokenizeOptions σ
  path : Bytes
  file : File
  sharing : options.cache = some cache
  live : options.cancelled = false
  bounded : options.limit < 65536
  quiet : options.Quiet

/-- The disk that runs share, and how far each has come. -/
structure State (ι : Type) where
  disk : Disk
  stage : ι → Work.Stage

/-- All runs before their first step. -/
def State.start {ι : Type} (d : Disk) : State ι := ⟨d, fun _ => .loading⟩

variable {ι σ : Type} {cache : TokenCache}

namespace Run

variable (r : Run σ cache)

/-- The bag that a run starts with. -/
def bag : Bag := { limit := (Work.kept r.options.limit).toNat.toUInt16 }

/-- The options of the same run without the cache. -/
def uncached : TokenizeOptions σ := { r.options with cache := none }

/-- The next step of a run. -/
def advance (w : Work σ) (c : Trace.Context) : Work.Stage → Work.Stage × Work σ :=
  w.advance c r.options r.path

/-- What a run loads is its file. -/
def Finds : Work.Stage → Prop
  | .loaded l => l.file = r.file
  | _ => True

/-- What is so of a run by how far it has come. -/
def Reaches : Work.Stage → Prop
  | .loading => True
  | .loaded l | .missed l => l.file = r.file ∧ l.bag = r.bag
  | .scanned l ts bag => l.file = r.file ∧ ts = r.file.stream ∧ bag = r.bag.addAll r.file.faults
  | .ended (.error e) => ∃ cause, e = .ofLoad cause
  | .ended (.ok t) => t.file = r.file ∧ t.bag = r.bag.addAll r.file.faults ∧
      t.tokens = if t.cached then r.file.stream.map (Token.cutFrom r.file) else r.file.stream

theorem new_bag : Bag.new (Work.kept r.options.limit) = .ok r.bag := by
  have hpos := Work.kept_pos r.options.limit
  have hlt : Work.kept r.options.limit < 65536 := by
    have hbounded := r.bounded
    unfold Work.kept
    split <;> omega
  rw [Bag.new, if_pos ⟨by omega, hlt⟩]
  rfl

/-- One step of a run: all that it does to the hub is to trace, and to store the stream of its file
if that has no faults. -/
theorem reaches_advance {seen : File → Prop} {w : Work σ} (c : Trace.Context)
    (hk : cache.Genuine w.hub seen) (hseen : seen r.file) {s : Work.Stage} (hs : r.Reaches s)
    (hfile : r.Finds (r.advance w c s).1) :
    r.Reaches (r.advance w c s).1 ∧
      Work.Handled (some cache) r.file w.hub (r.advance w c s).2.hub := by
  unfold advance at hfile ⊢
  cases s with
  | loading =>
    rcases w.advance_loading c r.path r.live r.new_bag with
      ⟨e, w', heq, htraced⟩ | ⟨l, w', heq, hbag, -, htraced⟩
    · rw [heq]
      exact ⟨⟨e, rfl⟩, .traced htraced⟩
    · rw [heq] at hfile ⊢
      exact ⟨⟨hfile, hbag⟩, .traced htraced⟩
  | loaded l =>
    obtain ⟨hl, hbag⟩ := hs
    rcases w.advance_loaded c r.options r.path l with
      ⟨k, t, w', hcache, hget, heq, ht, htbag, hcached, htraced⟩ | ⟨w', heq, htraced⟩
    · cases r.sharing.symm.trans hcache
      rw [hl] at hget
      obtain ⟨hclean, htokens⟩ := hk.found hseen hget
      rw [heq]
      refine ⟨⟨ht.trans hl, ?_, ?_⟩, .traced htraced⟩
      · rw [htbag, hbag, hclean]
        rfl
      · rw [hcached, if_pos rfl, htokens]
    · rw [heq]
      exact ⟨⟨hl, hbag⟩, .traced htraced⟩
  | missed l =>
    obtain ⟨hl, hbag⟩ := hs
    obtain ⟨w', heq, htraced⟩ := w.advance_missed c r.quiet r.path l
    rw [heq, hl, hbag]
    exact ⟨⟨hl, rfl, rfl⟩, .traced htraced⟩
  | scanned l ts bag =>
    obtain ⟨hl, rfl, rfl⟩ := hs
    -- a bag that has room and is empty was given nothing
    have hclean : (r.bag.addAll r.file.faults).size = 0 → r.file.faults = [] :=
      (Work.fresh_of_new r.new_bag).addAll_size
    rw [← hl] at hclean ⊢
    obtain ⟨t, w', heq, ht, htokens, htbag, hcached, hhandled⟩ :=
      w.advance_scanned c r.options r.path l hclean
    rw [heq]
    rw [r.sharing] at hhandled
    exact ⟨⟨ht.trans hl, by rw [htbag, hl], by rw [hcached, htokens, hl]; rfl⟩, hhandled⟩
  | ended outcome => exact ⟨hs, .traced (.refl _)⟩

end Run

variable {runs : ι → Run σ cache} {s s' : State ι} {i : ι}

/-- The files of the runs. -/
def Concerns (runs : ι → Run σ cache) (f : File) : Prop := ∃ i, (runs i).file = f

/-- Equal digests are digests of equal contents. -/
def Collisionless (runs : ι → Run σ cache) : Prop :=
  ∀ i j, (runs i).file.digest = (runs j).file.digest → (runs i).file.content = (runs j).file.content

/-- What holds of the system at all times. -/
structure Sound (runs : ι → Run σ cache) (s : State ι) : Prop where
  entries : cache.Faithful s.disk (Concerns runs)
  stages : ∀ i, (runs i).Reaches (s.stage i)

theorem sound_start {d : Disk} (h : cache.IsEmpty d) : Sound runs (.start d) :=
  ⟨fun _ b hb => absurd hb (h _ b), fun _ => trivial⟩

theorem Sound.noNewEntry (h : Sound runs s) {d : Disk} (hd : cache.NoNewEntry s.disk d) :
    Sound runs { s with disk := d } :=
  ⟨fun digest b hb => h.entries digest b (hd _ b hb), h.stages⟩

theorem Sound.genuine (hdigest : Collisionless runs) (h : Sound runs s) {w : Work σ}
    (hdisk : w.hub.disk = s.disk) (hapart : cache.Apart w.hub) :
    cache.Genuine w.hub (Concerns runs) where
  distinct := by
    rintro _ _ ⟨i, rfl⟩ ⟨j, rfl⟩ hsame
    exact hdigest i j hsame
  entries := by
    rw [hdisk]
    exact h.entries
  apart := hapart

variable [DecidableEq ι]

namespace State

/-- A run has come to another stage, and left the disk of its work. -/
def move (s : State ι) (i : ι) (x : Work.Stage × Work σ) : State ι :=
  ⟨x.2.hub.disk, fun j => if j = i then x.1 else s.stage j⟩

theorem stage_move (s : State ι) (i : ι) (x : Work.Stage × Work σ) : (s.move i x).stage i = x.1 :=
  if_pos rfl

theorem stage_move_ne (s : State ι) {i j : ι} (h : j ≠ i) (x : Work.Stage × Work σ) :
    (s.move i x).stage j = s.stage j :=
  if_neg h

theorem move_move (s : State ι) (i : ι) (x y : Work.Stage × Work σ) :
    (s.move i x).move i y = s.move i y := by
  have hstage : ((s.move i x).move i y).stage = (s.move i y).stage := by
    funext j
    by_cases hj : j = i
    · rw [hj, stage_move, stage_move]
    · rw [stage_move_ne _ hj, stage_move_ne _ hj, stage_move_ne _ hj]
  exact congrArg (State.mk _) hstage

/-- A run that has not moved. -/
theorem move_self (s : State ι) (i : ι) {w : Work σ} (h : w.hub.disk = s.disk) :
    s.move i (s.stage i, w) = s := by
  have hstage : (s.move i (s.stage i, w)).stage = s.stage := by
    funext j
    by_cases hj : j = i
    · rw [hj, stage_move]
    · rw [stage_move_ne _ hj]
  obtain ⟨disk, stage⟩ := s
  cases h
  exact congrArg (State.mk _) hstage

end State

/-- One step of the system: of a run, with any hub on the disk that is shared, of one that empties
the cache, or of anything else that makes no entry. The files of the runs stay what they are. -/
inductive Step (runs : ι → Run σ cache) : State ι → State ι → Prop
  | work {s : State ι} (i : ι) {w : Work σ} (c : Trace.Context) (hdisk : w.hub.disk = s.disk)
      (hapart : cache.Apart w.hub) (hfile : (runs i).Finds ((runs i).advance w c (s.stage i)).1) :
      Step runs s (s.move i ((runs i).advance w c (s.stage i)))
  | drop {s : State ι} {d : Disk} (hclear : cache.clear s.disk = .ok d) :
      Step runs s { s with disk := d }
  | besides {s : State ι} {d : Disk} (hquiet : cache.NoNewEntry s.disk d) :
      Step runs s { s with disk := d }

inductive Steps (runs : ι → Run σ cache) : State ι → State ι → Prop
  | refl (s : State ι) : Steps runs s s
  | tail {s₁ s₂ s₃ : State ι} : Steps runs s₁ s₂ → Step runs s₂ s₃ → Steps runs s₁ s₃

theorem Steps.trans {s'' : State ι} (h : Steps runs s s') (h' : Steps runs s' s'') :
    Steps runs s s'' := by
  induction h' with
  | refl => exact h
  | tail _ hstep ih => exact .tail ih hstep

/-- A step of a run keeps what holds of the system, and no stream goes to an entry after it. -/
theorem Sound.work (hdigest : Collisionless runs) (h : Sound runs s) {w : Work σ}
    (c : Trace.Context) (hdisk : w.hub.disk = s.disk) (hapart : cache.Apart w.hub)
    (hfile : (runs i).Finds ((runs i).advance w c (s.stage i)).1) :
    Sound runs (s.move i ((runs i).advance w c (s.stage i))) ∧
      cache.Apart ((runs i).advance w c (s.stage i)).2.hub := by
  have hk := h.genuine hdigest hdisk hapart
  have hseen : Concerns runs (runs i).file := ⟨i, rfl⟩
  obtain ⟨hreaches, hhandled⟩ := (runs i).reaches_advance c hk hseen (h.stages i) hfile
  have hk' := hk.handled rfl hseen hhandled
  refine ⟨⟨hk'.entries, ?_⟩, hk'.apart⟩
  intro j
  by_cases hj : j = i
  · rw [hj, State.stage_move]
    exact hreaches
  · rw [State.stage_move_ne _ hj]
    exact h.stages j

theorem Sound.step (hdigest : Collisionless runs) (h : Sound runs s) (hstep : Step runs s s') :
    Sound runs s' := by
  cases hstep with
  | work i c hdisk hapart hfile => exact (h.work hdigest c hdisk hapart hfile).1
  | drop hclear => exact h.noNewEntry (TokenCache.clear_noNewEntry hclear)
  | besides hquiet => exact h.noNewEntry hquiet

theorem Sound.steps (hdigest : Collisionless runs) (h : Sound runs s) (hsteps : Steps runs s s') :
    Sound runs s' := by
  induction hsteps with
  | refl => exact h
  | tail _ hstep ih => exact ih.step hdigest hstep

/-- A run that has loaded its file does not load again. -/
theorem Run.finds_advance (r : Run σ cache) {w : Work σ} {c : Trace.Context} {st : Work.Stage}
    (h : 0 < st.rank) : r.Finds (r.advance w c st).1 := by
  have hrank := w.rank_advance c r.options r.path st
  unfold advance
  cases hst : (w.advance c r.options r.path st).1 with
  | loaded l =>
    rw [hst] at hrank
    change min 4 (st.rank + 1) ≤ 1 at hrank
    omega
  | loading | missed | scanned | ended => trivial

/-- Some steps of a run that nothing interrupts are steps of the system. -/
theorem Sound.proceed (hdigest : Collisionless runs) (h : Sound runs s) (n : Nat) {w : Work σ}
    (c : Trace.Context) (hdisk : w.hub.disk = s.disk) (hapart : cache.Apart w.hub)
    (hfile : (runs i).Finds ((runs i).advance w c (s.stage i)).1) :
    Steps runs s (s.move i
      (Work.proceed c (runs i).options (runs i).path n (s.stage i, w))) := by
  induction n generalizing s w with
  | zero =>
    rw [Work.proceed, State.move_self s i hdisk]
    exact .refl s
  | succ n ih =>
    have hstep : Step runs s _ := .work i c hdisk hapart hfile
    obtain ⟨hsound, hapart'⟩ := h.work hdigest c hdisk hapart hfile
    have hrank := w.rank_advance c (runs i).options (runs i).path (s.stage i)
    have hlater : 0 < ((runs i).advance w c (s.stage i)).1.rank := by
      unfold Run.advance
      omega
    have hrest := ih (s := s.move i ((runs i).advance w c (s.stage i)))
      (w := ((runs i).advance w c (s.stage i)).2) hsound rfl hapart'
    rw [State.stage_move, State.move_move] at hrest
    exact (Steps.tail (.refl s) hstep).trans (hrest ((runs i).finds_advance hlater))

/-- A run that nothing interrupts takes the steps of the system. -/
theorem Sound.tokenize (hdigest : Collisionless runs) (h : Sound runs s)
    (hstage : s.stage i = .loading) {w : Work σ} {c : Trace.Context} {files : FileSet}
    (hdisk : w.hub.disk = s.disk) (hapart : cache.Apart w.hub)
    (hloads : (runs i).options.fileSet.Loads (w.readingDisk c (runs i).path) (runs i).path files
      (runs i).file) :
    let x := w.tokenize c (runs i).options (runs i).path
    Steps runs s (s.move i (.ended x.1, x.2)) := by
  have hfile : (runs i).Finds ((runs i).advance w c (s.stage i)).1 := by
    obtain ⟨l, w', heq, -, hl, -⟩ := w.openFile_of_loads hloads (runs i).live (runs i).new_bag
    rw [hstage, Run.advance, Work.advance, heq]
    exact hl
  have hsteps := h.proceed hdigest 4 c hdisk hapart hfile
  rw [hstage, Work.proceed_loading] at hsteps
  exact hsteps

/-- A run that is underway gets to its end. -/
theorem Sound.ends (hdigest : Collisionless runs) (h : Sound runs s) (hstage : s.stage i ≠ .loading)
    {w : Work σ} (c : Trace.Context) (hdisk : w.hub.disk = s.disk) (hapart : cache.Apart w.hub) :
    ∃ outcome w', Steps runs s (s.move i (.ended outcome, (w' : Work σ))) := by
  have hrank : 0 < (s.stage i).rank := by
    cases hs : s.stage i with
    | loading => exact absurd hs hstage
    | loaded | missed | scanned | ended => exact Nat.succ_pos _
  have hproceed := h.proceed hdigest 4 c hdisk hapart ((runs i).finds_advance hrank)
  obtain ⟨outcome, hended⟩ := Work.proceed_ends c (runs i).options (runs i).path (s.stage i, w)
  have hlast : Work.proceed c (runs i).options (runs i).path 4 (s.stage i, w) =
      (.ended outcome, _) := Prod.ext hended rfl
  rw [hlast] at hproceed
  exact ⟨outcome, _, hproceed⟩

/-- A result is that of a run without the cache, up to the texts of a stream that is from the
cache. -/
structure Agrees (r r' : Tokenized) : Prop where
  bag : r.bag = r'.bag
  kinds : r.tokens.map Token.kind = r'.tokens.map Token.kind
  spans : r.tokens.map Token.span = r'.tokens.map Token.span
  tokens : r.tokens = if r.cached then r'.tokens.map (Token.cutFrom r'.file) else r'.tokens

theorem agrees_of_reaches {run : Run σ cache} {r r' : Tokenized} (hr : run.Reaches (.ended (.ok r)))
    (hfile : r'.file = run.file) (htokens : r'.tokens = run.file.stream)
    (hbag : r'.bag = run.bag.addAll run.file.faults) : Agrees r r' := by
  obtain ⟨-, hrbag, hrtokens⟩ := hr
  rw [← htokens, ← hfile] at hrtokens
  refine ⟨hrbag.trans hbag.symm, ?_, ?_, hrtokens⟩
  · rw [hrtokens]
    split
    · rw [List.map_map]
      rfl
    · rfl
  · rw [hrtokens]
    split
    · rw [List.map_map]
      refine List.map_congr_left fun t ht => ?_
      rw [htokens, ← hfile] at ht
      exact File.span_cutFrom ht
    · rfl

/-- Without the cache, a run that loads the file has a result, and that is the one to agree with. -/
theorem Run.Reaches.agrees {run : Run σ cache} {r : Tokenized} (hr : run.Reaches (.ended (.ok r)))
    (w : Work σ) (c : Trace.Context) {files : FileSet}
    (hloads : run.options.fileSet.Loads (w.readingDisk c run.path) run.path files run.file) :
    ∃ r' w', w.tokenize c run.uncached run.path = (.ok r', w') ∧ Agrees r r' := by
  obtain ⟨r', w', heq, -, hfile, hgathered, -⟩ :=
    w.tokenize_gathered run.uncached hloads run.live run.new_bag
  refine ⟨r', w', heq, ?_⟩
  generalize htokens : r'.tokens = ts at hgathered
  generalize hbag : r'.bag = bag at hgathered
  cases hgathered with
  | found hcache => cases hcache
  | scanned => exact agrees_of_reaches hr hfile htokens hbag

/-- Runs share a cache that is empty at first, and take their steps in any order. A run that has
come to its end has the result of the run without the cache, for every disk from which that loads
the same file; it fails only if its file cannot be loaded. A run that is let do all its work at once
does what tokenizing with the cache does, and one that is underway gets to its end. -/
theorem agrees_uncached (hdigest : Collisionless runs) {d : Disk} (hempty : cache.IsEmpty d)
    (hsteps : Steps runs (.start d) s) (i : ι) :
    (∀ r, s.stage i = .ended (.ok r) → ∀ (w : Work σ) (c : Trace.Context) (files : FileSet),
      (runs i).options.fileSet.Loads (w.readingDisk c (runs i).path) (runs i).path files
        (runs i).file →
      ∃ r' w', w.tokenize c (runs i).uncached (runs i).path = (.ok r', w') ∧ Agrees r r') ∧
    (∀ e, s.stage i = .ended (.error e) → ∃ cause, e = .ofLoad cause) ∧
    (∀ (w : Work σ) (c : Trace.Context), w.hub.disk = s.disk → cache.Apart w.hub →
      (s.stage i = .loading → ∀ files,
        (runs i).options.fileSet.Loads (w.readingDisk c (runs i).path) (runs i).path files
          (runs i).file →
        let x := w.tokenize c (runs i).options (runs i).path
        Steps runs s (s.move i (.ended x.1, x.2))) ∧
      (s.stage i ≠ .loading → ∃ outcome w',
        Steps runs s (s.move i (.ended outcome, (w' : Work σ))))) := by
  have hsound := (sound_start hempty).steps hdigest hsteps
  have hreaches := hsound.stages i
  refine ⟨?_, ?_, ?_⟩
  · intro r hended w c files hloads
    rw [hended] at hreaches
    exact hreaches.agrees w c hloads
  · intro e hended
    rw [hended] at hreaches
    exact hreaches
  · intro w c hdisk hapart
    constructor
    · intro hstage files hloads
      exact hsound.tokenize hdigest hstage hdisk hapart hloads
    · intro hstage
      exact hsound.ends hdigest hstage c hdisk hapart

/-- The second of two runs on a file that holds a string: it has the stream that the first has
stored. -/
theorem agrees_uncached_second :
    let cache : TokenCache := ⟨"cache"⟩
    let disk : Disk := ⟨.dir [("a.kj", .file (Bytes.ofString "\"hi\""))], []⟩
    let work (d : Disk) : Work Unit := ⟨{ disk := d }, (), #[]⟩
    let first := (work disk).tokenize {} { cache := some cache } "a.kj"
    let second := (work first.2.hub.disk).tokenize {} { limit := 1, cache := some cache } "a.kj"
    let plain := (work disk).tokenize {} { limit := 1 } "a.kj"
    ∃ r r', second.1 = .ok r ∧ r.cached = true ∧ plain.1 = .ok r' ∧ Agrees r r' := by
  intro cache disk work first second plain
  have hsilent : ∀ d p, ¬ (work d).hub.WritesTo p := fun d => Hub.not_writesTo rfl
  have hapart : ∀ d, cache.Apart (work d).hub := fun d p hp => absurd hp (hsilent d p)
  let f : File := File.make 0 "a.kj" (Bytes.ofString "\"hi\"") 0 (by decide)
  -- the file is the same on both disks, because the first run left it alone
  have hloads : ∀ d : Disk, d.read "a.kj" = .ok (Bytes.ofString "\"hi\"") →
      ∃ files, FileSet.Loads {} ((work d).readingDisk {} "a.kj") "a.kj" files f := by
    intro d hd
    rw [(work d).readingDisk_eq {} "a.kj" (hsilent d)]
    exact ⟨_, by rw [FileSet.load_of_read _ hd]; rfl, rfl⟩
  obtain ⟨files, hf⟩ := hloads disk (by decide +kernel)
  obtain ⟨files', hf'⟩ := hloads first.2.hub.disk (by decide +kernel)
  have hget : cache.get first.2.hub.disk f = .ok (some (f.stream.map (Token.cutFrom f))) :=
    TokenCache.get_of_read rfl (by decide +kernel)
  let runs : Bool → Run Unit cache := fun second =>
    { options := { limit := if second then 1 else 0, cache := some cache }
      path := "a.kj", file := f
      sharing := rfl, live := rfl, bounded := by cases second <;> decide
      quiet := fun _ h _ _ => .refl h }
  have hdigest : Collisionless runs := fun _ _ _ => rfl
  have hempty : cache.IsEmpty disk := TokenCache.isEmpty_of_flat (by decide)
  let s₁ : State Bool := (State.start disk).move false (.ended first.1, first.2)
  have hfirst : Steps runs (.start disk) s₁ :=
    ((agrees_uncached hdigest hempty (.refl _) false).2.2 (work disk) {} rfl (hapart _)).1
      rfl files hf
  clear_value first
  let s₂ : State Bool := s₁.move true (.ended second.1, second.2)
  have hsecond : Steps runs s₁ s₂ :=
    ((agrees_uncached hdigest hempty hfirst true).2.2 (work first.2.hub.disk) {} rfl (hapart _)).1
      rfl files' hf'
  obtain ⟨r, hr, hcached⟩ :=
    Work.tokenize_found (runs true).options hf' rfl (runs true).new_bag rfl (hsilent _) hget
  obtain ⟨r', w', hplain, hagrees⟩ :=
    (agrees_uncached hdigest hempty (hfirst.trans hsecond) true).1 r
    ((s₁.stage_move true _).trans (congrArg Work.Stage.ended hr)) (work disk) {} files hf
  exact ⟨r, r', hr, hcached, congrArg Prod.fst hplain, hagrees⟩

end SharedCache

end FrontEnd
