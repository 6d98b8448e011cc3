import FrontEnd.Proofs.Lexeme
import FrontEnd.Scan.Lexer

/-!
A whole scan as one value. The lexemes of a text, each with its place, follow from the text alone;
the tokens and the diagnostics of a file are read off them. The lexer, taken one token at a time and
with whatever is told to its sink on the way, gives exactly these: it never fails, and the number of
steps it allows itself is always enough.
-/
namespace FrontEnd

/-- The diagnostic of a finding on a lexeme at `off`. -/
def Finding.diagnostic (file : FileId) (off : Nat) (f : Finding) : Diagnostic where
  severity := Severity.error
  code := f.code
  message := (Template.expand f.code.template f.args).toOption.getD []
  primary := ⟨file, (off + f.start).toUInt32, (off + f.start + f.size).toUInt32⟩
  args := f.args

theorem Builder.emit_finding {σ : Type} {b : Builder σ} (hidle : b.pending = none) {f : Finding}
    (hf : f.Reportable) (file : FileId) (off : Nat) :
    b.emit f.code ⟨file, (off + f.start).toUInt32, (off + f.start + f.size).toUInt32⟩ f.args =
      .ok (b.handOn (f.diagnostic file off)) := by
  obtain ⟨message, hm⟩ := hf
  rw [Builder.emit_eq hidle hm]
  simp [Finding.diagnostic, hm, Except.toOption]

/-- A lexeme and where it starts. -/
structure Placed where
  off : Nat
  lexeme : Lexeme
  deriving DecidableEq, Repr

namespace Placed

def stop (p : Placed) : Nat := p.off + p.lexeme.size

def token (file : FileId) (p : Placed) : Token :=
  ⟨p.lexeme.kind, ⟨file, p.off.toUInt32, p.stop.toUInt32⟩, p.lexeme.text⟩

def diagnostics (file : FileId) (p : Placed) : List Diagnostic :=
  p.lexeme.findings.map (Finding.diagnostic file p.off)

end Placed

namespace Lexeme

/-- The blanks at the front of a text. -/
def gap (s : Bytes) : Nat := (s.takeWhile isBlank).length

theorem gap_le (s : Bytes) : gap s ≤ s.length := (List.takeWhile_prefix _).length_le

/-- What a lexeme leaves of the text is shorter than the text. -/
theorem rest_lt {s : Bytes} {m : Lexeme} (h : front? (s.drop (gap s)) = some m) :
    ((s.drop (gap s)).drop m.size).length < s.length := by
  have hf := front?_fronts h
  have hpos := hf.size_pos
  have hle := hf.size_le
  simp only [List.length_drop] at *
  omega

end Lexeme

/-- The lexemes of a text, and where it ends. -/
structure Reading where
  lexemes : List Placed
  stop : Nat
  deriving DecidableEq, Repr

namespace Reading

/-- Reads a text that stands at `off`: blanks, a lexeme, and then the rest. -/
def ofText (off : Nat) (s : Bytes) : Reading :=
  match _h : Lexeme.front? (s.drop (Lexeme.gap s)) with
  | none => ⟨[], off + Lexeme.gap s⟩
  | some m =>
    let place := off + Lexeme.gap s
    let rest := ofText (place + m.size) ((s.drop (Lexeme.gap s)).drop m.size)
    ⟨⟨place, m⟩ :: rest.lexemes, rest.stop⟩
termination_by s.length
decreasing_by exact Lexeme.rest_lt _h

theorem ofText_none {off : Nat} {s : Bytes} (h : Lexeme.front? (s.drop (Lexeme.gap s)) = none) :
    ofText off s = ⟨[], off + Lexeme.gap s⟩ := by
  rw [ofText]
  split
  · rfl
  · rename_i hm
    rw [h] at hm
    cases hm

theorem ofText_some {off : Nat} {s : Bytes} {m : Lexeme}
    (h : Lexeme.front? (s.drop (Lexeme.gap s)) = some m) :
    ofText off s =
      ⟨⟨off + Lexeme.gap s, m⟩ ::
          (ofText (off + Lexeme.gap s + m.size) ((s.drop (Lexeme.gap s)).drop m.size)).lexemes,
        (ofText (off + Lexeme.gap s + m.size) ((s.drop (Lexeme.gap s)).drop m.size)).stop⟩ := by
  rw [ofText]
  split
  · rename_i hm
    rw [h] at hm
    cases hm
  · rename_i m' hm
    cases h.symm.trans hm
    rfl

/-- Reading follows the text: at its end there is nothing, and else a lexeme and a shorter text. -/
@[elab_as_elim]
theorem induction {motive : Nat → Bytes → Prop}
    (stop : ∀ off s, Lexeme.front? (s.drop (Lexeme.gap s)) = none → motive off s)
    (more : ∀ off s m, Lexeme.front? (s.drop (Lexeme.gap s)) = some m →
      motive (off + Lexeme.gap s + m.size) ((s.drop (Lexeme.gap s)).drop m.size) → motive off s)
    (off : Nat) (s : Bytes) : motive off s := by
  cases h : Lexeme.front? (s.drop (Lexeme.gap s)) with
  | none => exact stop off s h
  | some m => exact more off s m h (induction stop more _ _)
termination_by s.length
decreasing_by exact Lexeme.rest_lt h

/-- Every lexeme takes an octet. -/
theorem length_ofText (off : Nat) (s : Bytes) : (ofText off s).lexemes.length ≤ s.length := by
  induction off, s using induction with
  | stop off s h => simp [ofText_none h]
  | more off s m h ih =>
    have hlt := Lexeme.rest_lt h
    rw [ofText_some h, List.length_cons]
    omega

/-- A reading of what a content holds from `off` on: lexemes in order and apart, each at the front
of what is left at its place. -/
structure Within (content : Bytes) (off : Nat) (r : Reading) : Prop where
  fronts : ∀ p ∈ r.lexemes, p.lexeme.Fronts (content.drop p.off)
  after : ∀ p ∈ r.lexemes, off ≤ p.off
  before : ∀ p ∈ r.lexemes, p.stop ≤ r.stop
  apart : r.lexemes.Pairwise fun p q => p.stop ≤ q.off
  off_le : off ≤ r.stop
  stop_le : r.stop ≤ content.length

theorem ofText_within (content : Bytes) {off : Nat} (hoff : off ≤ content.length) :
    Within content off (ofText off (content.drop off)) := by
  generalize hs : content.drop off = s
  induction off, s using induction with
  | stop off s h =>
    have hgap := Lexeme.gap_le s
    subst hs
    rw [List.length_drop] at hgap
    rw [ofText_none h]
    refine ⟨List.forall_mem_nil _, List.forall_mem_nil _, List.forall_mem_nil _, .nil, ?_, ?_⟩
    · exact Nat.le_add_right _ _
    · dsimp only
      omega
  | more off s m h ih =>
    subst hs
    have hf := Lexeme.front?_fronts h
    have hgap := Lexeme.gap_le (content.drop off)
    have hpos := hf.size_pos
    have hle := hf.size_le
    rw [List.drop_drop] at hf
    rw [List.length_drop, List.length_drop] at hle
    rw [List.length_drop] at hgap
    have hw := ih (by omega) (by rw [List.drop_drop, List.drop_drop, Nat.add_assoc])
    rw [ofText_some h]
    have hlow := hw.off_le
    refine ⟨List.forall_mem_cons.mpr ⟨hf, hw.fronts⟩, List.forall_mem_cons.mpr ⟨?_, ?_⟩,
      List.forall_mem_cons.mpr ⟨hlow, hw.before⟩, List.pairwise_cons.mpr ⟨hw.after, hw.apart⟩, ?_,
      hw.stop_le⟩
    · exact Nat.le_add_right _ _
    · intro p hp
      have := hw.after p hp
      omega
    · dsimp only
      omega

/-- Every lexeme of a reading is the one at the front of what is left at its place. -/
theorem ofText_front (content : Bytes) (off : Nat) :
    ∀ p ∈ (ofText off (content.drop off)).lexemes,
      Lexeme.front? (content.drop p.off) = some p.lexeme := by
  generalize hs : content.drop off = s
  induction off, s using induction with
  | stop off s h => simp [ofText_none h]
  | more off s m h ih =>
    subst hs
    rw [ofText_some h]
    refine List.forall_mem_cons.mpr ⟨?_, ih ?_⟩
    · rw [← List.drop_drop]
      exact h
    · rw [List.drop_drop, List.drop_drop, Nat.add_assoc]

/-- The tokens of a reading in a file, the end included. -/
def tokens (file : FileId) (r : Reading) : List Token :=
  r.lexemes.map (Placed.token file) ++ [⟨.eof, ⟨file, r.stop.toUInt32, r.stop.toUInt32⟩, []⟩]

def diagnostics (file : FileId) (r : Reading) : List Diagnostic :=
  r.lexemes.flatMap (Placed.diagnostics file)

end Reading

namespace File

def reading (f : File) : Reading := .ofText 0 f.content

theorem front?_of_mem (f : File) {p : Placed} (hp : p ∈ f.reading.lexemes) :
    Lexeme.front? (f.content.drop p.off) = some p.lexeme :=
  Reading.ofText_front f.content 0 p hp

/-- The tokens of a file. -/
def stream (f : File) : List Token := f.reading.tokens f.id

/-- What is wrong with a file, in the order it is found. -/
def faults (f : File) : List Diagnostic := f.reading.diagnostics f.id

end File

namespace Lexer

variable {σ : Type}

/-- No diagnostic is in flight, if there is a builder at all. -/
def Idle (lx : Lexer σ) : Prop := ∀ b ∈ lx.builder, b.pending = none

/-- Where the lexer stands when nothing was looked at: before the end, with all of its text left. -/
structure Ready (lx : Lexer σ) : Prop where
  look : lx.look = none
  done : lx.done = false
  idle : lx.Idle

/-- Findings that can be reported reach the builder as diagnostics, in order. -/
theorem report_eq {lx : Lexer σ} (hi : lx.Idle) (off : Nat) {fs : List Finding}
    (hf : ∀ f ∈ fs, f.Reportable) :
    lx.report off fs = .ok { lx with
      builder := lx.builder.map fun b =>
        (fs.map (Finding.diagnostic lx.file off)).foldl Builder.handOn b } := by
  obtain ⟨file, pos, rest, look, done, builder⟩ := lx
  cases builder with
  | none => cases fs <;> rfl
  | some b =>
    induction fs generalizing b with
    | nil => rfl
    | cons f fs ih =>
      have he := Builder.emit_finding (hi b rfl) (hf f (by simp)) file off
      simp only [report, spanAt, he]
      exact ih (fun g hg => hf g (by simp [hg])) _ (by simp [Idle])

/-- The lexer after a lexeme with some of its text left. -/
def past (lx : Lexer σ) (m : Lexeme) : Lexer σ :=
  { lx with
    off := lx.off + Lexeme.gap lx.rest + m.size
    rest := (lx.rest.drop (Lexeme.gap lx.rest)).drop m.size
    builder := lx.builder.map fun b =>
      (Placed.diagnostics lx.file ⟨lx.off + Lexeme.gap lx.rest, m⟩).foldl Builder.handOn b }

/-- The lexer after the end. -/
def atEnd (lx : Lexer σ) : Lexer σ :=
  { lx with
    off := lx.off + Lexeme.gap lx.rest
    rest := lx.rest.drop (Lexeme.gap lx.rest)
    done := true }

theorem next_of_none {lx : Lexer σ} (hr : lx.Ready)
    (h : Lexeme.front? (lx.rest.drop (Lexeme.gap lx.rest)) = none) :
    lx.next = .ok (lx.atEnd.endToken, lx.atEnd) := by
  rw [next, hr.look]
  change lx.scan = _
  unfold Lexeme.gap at h
  rw [scan, if_neg (by simp [hr.done])]
  dsimp only
  rw [h]
  rfl

theorem next_of_some {lx : Lexer σ} (hr : lx.Ready) {m : Lexeme}
    (h : Lexeme.front? (lx.rest.drop (Lexeme.gap lx.rest)) = some m) :
    lx.next = .ok (Placed.token lx.file ⟨lx.off + Lexeme.gap lx.rest, m⟩, lx.past m) := by
  have hrep := report_eq hr.idle (lx.off + Lexeme.gap lx.rest)
    fun _ hf => (Lexeme.front?_fronts h).reportable hf
  rw [next, hr.look]
  change lx.scan = _
  unfold Lexeme.gap at h
  rw [scan, if_neg (by simp [hr.done])]
  dsimp only
  rw [h]
  change (lx.report (lx.off + Lexeme.gap lx.rest) m.findings).map _ = _
  rw [hrep]
  rfl

theorem past_ready {lx : Lexer σ} (hr : lx.Ready) (m : Lexeme) : (lx.past m).Ready where
  look := hr.look
  done := hr.done
  idle := by
    intro b hb
    obtain ⟨b₀, h₀, rfl⟩ := Option.map_eq_some_iff.mp hb
    exact Builder.foldl_handOn_pending _ (hr.idle b₀ h₀)

theorem mapSink_ready {lx : Lexer σ} (hr : lx.Ready) (f : σ → σ) : (lx.mapSink f).Ready where
  look := hr.look
  done := hr.done
  idle := by
    intro b hb
    obtain ⟨b₀, h₀, rfl⟩ := Option.map_eq_some_iff.mp hb
    exact hr.idle b₀ h₀

end Lexer

namespace Builder

variable {σ : Type}

/-- A builder whose sink is told of a token. -/
def told (tell : Token → σ → σ) (t : Token) (b : Builder σ) : Builder σ :=
  { b with sink := tell t b.sink }

/-- A builder after a lexeme: its diagnostics are handed on, then its token is told. -/
def follow (tell : Token → σ → σ) (file : FileId) (b : Builder σ) (p : Placed) : Builder σ :=
  ((p.diagnostics file).foldl handOn b).told tell (p.token file)

/-- A builder after a whole reading. -/
def followAll (tell : Token → σ → σ) (file : FileId) (r : Reading) (b : Builder σ) : Builder σ :=
  (r.lexemes.foldl (follow tell file) b).told tell
    ⟨.eof, ⟨file, r.stop.toUInt32, r.stop.toUInt32⟩, []⟩

end Builder

namespace Lexer

variable {σ : Type} (tell : Token → σ → σ)

/-- Collecting tokens gives the reading of the text that is left, when at least one step more is
allowed than there are octets. -/
theorem collect_eq {lx : Lexer σ} (hr : lx.Ready) (acc : List Token) {fuel : Nat}
    (hfuel : lx.rest.length < fuel) :
    ∃ last, collect tell acc lx fuel =
        .ok (acc.reverse ++ (Reading.ofText lx.off lx.rest).tokens lx.file, last) ∧
      last.builder = lx.builder.map (Builder.followAll tell lx.file (.ofText lx.off lx.rest)) := by
  -- the rest gets shorter with each lexeme, so the induction is on the steps allowed
  induction fuel generalizing lx acc with
  | zero => omega
  | succ fuel ih =>
    rw [collect]
    cases h : Lexeme.front? (lx.rest.drop (Lexeme.gap lx.rest)) with
    | none =>
      rw [next_of_none hr h, Reading.ofText_none h]
      refine ⟨lx.atEnd.mapSink (tell lx.atEnd.endToken), ?_, rfl⟩
      simp only [endToken, if_true, List.reverse_cons]
      rfl
    | some m =>
      have hf := Lexeme.front?_fronts h
      have hlt := Lexeme.rest_lt h
      have hready := mapSink_ready (past_ready hr m)
        (tell (Placed.token lx.file ⟨lx.off + Lexeme.gap lx.rest, m⟩))
      obtain ⟨last, hlast, hb⟩ := ih hready
        (Placed.token lx.file ⟨lx.off + Lexeme.gap lx.rest, m⟩ :: acc)
        (by change ((lx.rest.drop _).drop _).length < fuel; omega)
      rw [next_of_some hr h, Reading.ofText_some h]
      refine ⟨last, ?_, ?_⟩
      · simp only [Placed.token, hf.kind_ne, if_false]
        simp only [Placed.token] at hlast
        rw [hlast]
        simp [Reading.tokens, mapSink, past, Placed.token]
      · rw [hb]
        simp only [mapSink, past, Option.map_map]
        rfl

/-- All tokens of a file, with whatever is told on the way. -/
theorem allTelling_new (f : File) {b : Option (Builder σ)} (hidle : ∀ x ∈ b, x.pending = none) :
    ∃ last, (Lexer.new f b).allTelling tell = .ok (f.stream, last) ∧
      last.builder = b.map (Builder.followAll tell f.id f.reading) := by
  have hready : (Lexer.new f b).Ready := ⟨rfl, rfl, hidle⟩
  exact collect_eq tell hready [] (by omega)

end Lexer

namespace Builder

variable {σ τ : Type} {tell : Token → σ → σ} {b : Builder σ} (view : σ → τ)
  {add : τ → Diagnostic → τ}

theorem view_handOn (hreport : ∀ s d, view (b.report s d) = add (view s) d) (ds : List Diagnostic) :
    view (ds.foldl handOn b).sink = ds.foldl add (view b.sink) := by
  rw [foldl_handOn_sink]
  generalize b.sink = s
  induction ds generalizing s with
  | nil => rfl
  | cons d ds ih => rw [List.foldl_cons, ih, hreport, List.foldl_cons]

/-- A part of the sink that tokens leave alone takes the diagnostics in order. -/
theorem view_followAll (hreport : ∀ s d, view (b.report s d) = add (view s) d)
    (htell : ∀ t s, view (tell t s) = view s) (file : FileId) (r : Reading) :
    view (b.followAll tell file r).sink = (r.diagnostics file).foldl add (view b.sink) := by
  have hfollow : ∀ ps : List Placed, view (ps.foldl (follow tell file) b).sink =
      (ps.flatMap (Placed.diagnostics file)).foldl add (view b.sink) := by
    intro ps
    induction ps generalizing b with
    | nil => rfl
    | cons p ps ih =>
      have hnext : (b.follow tell file p).report = b.report := foldl_handOn_report _ b
      rw [List.foldl_cons, List.flatMap_cons, List.foldl_append, ih (by rw [hnext]; exact hreport)]
      congr 1
      change view (tell _ _) = _
      rw [htell, view_handOn view hreport]
  change view (tell _ _) = _
  rw [htell, hfollow]
  rfl

end Builder

/-- What reporting and telling keep of the sink holds after a whole reading. -/
theorem Builder.followAll_sink {σ : Type} {P : σ → Prop} {tell : Token → σ → σ} {b : Builder σ}
    (hreport : ∀ s d, P s → P (b.report s d)) (htell : ∀ t s, P s → P (tell t s)) (file : FileId)
    (r : Reading) (hb : P b.sink) : P (b.followAll tell file r).sink := by
  have hhanded : ∀ (ds : List Diagnostic) s, P s → P (ds.foldl b.report s) := by
    intro ds
    induction ds with
    | nil => exact fun s hs => hs
    | cons d ds ih => exact fun s hs => ih _ (hreport s d hs)
  have hfollow : ∀ (ps : List Placed) (b' : Builder σ), b'.report = b.report → P b'.sink →
      P (ps.foldl (follow tell file) b').sink := by
    intro ps
    induction ps with
    | nil => exact fun _ _ hs => hs
    | cons p ps ih =>
      intro b' hsame hs
      refine ih _ ((foldl_handOn_report _ b').trans hsame) (htell _ _ ?_)
      rw [foldl_handOn_sink, hsame]
      exact hhanded _ _ hs
  exact htell _ _ (hfollow r.lexemes b rfl hb)

theorem Builder.followAll_silent {σ : Type} (file : FileId) (r : Reading) (b : Builder σ) :
    b.followAll (fun _ s => s) file r = (r.diagnostics file).foldl Builder.handOn b := by
  have h : ∀ ps : List Placed, ∀ b : Builder σ,
      ps.foldl (Builder.follow (fun _ s => s) file) b =
        (ps.flatMap (Placed.diagnostics file)).foldl Builder.handOn b := by
    intro ps
    induction ps with
    | nil => intro b; rfl
    | cons p ps ih =>
      intro b
      rw [List.foldl_cons, List.flatMap_cons, List.foldl_append, ih]
      rfl
  exact h r.lexemes b

/-- The tokens of a file come without a failure, and its faults reach the builder in order. -/
theorem File.tokens_eq {σ : Type} (f : File) {b : Option (Builder σ)}
    (hidle : ∀ x ∈ b, x.pending = none) :
    f.tokens b = .ok (f.stream, b.map fun x => f.faults.foldl Builder.handOn x) := by
  obtain ⟨last, hlast, hb⟩ := Lexer.allTelling_new (fun _ s => s) f hidle
  rw [File.tokens, Lexer.all, hlast]
  simp only [Except.map, hb]
  congr 3
  funext x
  exact Builder.followAll_silent f.id f.reading x

end FrontEnd
