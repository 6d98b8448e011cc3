import FrontEnd.Proofs.Lines
import FrontEnd.Proofs.Outcomes
import FrontEnd.Report.Pretty
import FrontEnd.Report.Short

/-!
Drawing diagnostics. Spans come from anywhere, so the columns that are worked out for an underline
may lie outside the line or in the wrong order, but they are brought into the line before it is cut.
So drawing stops only where a file is not there or a span starts behind the end of it, and every
underline has its caret. The short form asks before it looks anything up, and never stops.
-/
namespace FrontEnd

namespace File

variable {f : File} {off : UInt32}

theorem lineContaining_eq_ok_iff {l : Bytes} :
    f.lineContaining off = .ok l ↔
      off.toNat ≤ f.content.length ∧ f.line (f.locate off).line = l := by
  rw [← checkOffset_eq_ok_iff, lineContaining]
  cases f.checkOffset off with
  | error e => simp [Except.map]
  | ok u => simp [Except.map]

/-- The line that an offset is on, which can be cut out of the file, and how many octets of the line
are before the offset. -/
structure OnLine (f : File) (off : UInt32) (line : Bytes) (before : Nat) : Prop where
  containing : f.lineContaining off = .ok line
  cut : ∃ first last, f.lineRange? (f.locate off).line = some (first, last) ∧
    f.slice ⟨f.id, first, last⟩ = .ok line
  col : (f.locate off).col.toNat = before + 1
  le : before ≤ line.length

theorem exists_onLine (hoff : off.toNat ≤ f.content.length) :
    ∃ line before, f.OnLine off line before := by
  have hf : f.Indexed := f.indexed
  obtain ⟨before, hcol, hoctet, -⟩ := hf.line_locate hoff
  obtain ⟨hnumber, -⟩ := hf.locate_eq hoff
  obtain ⟨first, last, hrange, -⟩ := hf.lineRange?_eq_some (m := (f.locate off).line)
    (by omega) (endsBefore_le_countP f.content off.toNat)
  exact ⟨_, before, lineContaining_eq_ok_iff.mpr ⟨hoff, rfl⟩,
    ⟨first, last, hrange, hf.slice_line hrange⟩, hcol, by omega⟩

end File

namespace Pretty

variable {o : Options} {fs : FileSet} {d : Diagnostic}

theorem between_ok {line : Bytes} {lo hi : Nat} (hle : lo ≤ hi) (hhi : hi ≤ line.length) :
    between line lo hi = .ok ((line.take hi).drop lo) := by
  have hbounds : (0 : Int) ≤ lo ∧ (lo : Int) ≤ hi ∧ (hi : Int) ≤ line.length := by omega
  rw [between, if_pos hbounds, Int.toNat_natCast, Int.toNat_natCast]

theorem repeated_ok (b : UInt8) (n : Nat) : repeated b n = .ok (List.replicate n b) := by
  rw [repeated, if_pos (by omega), Int.toNat_natCast]

/-- The columns of an underline behind the first `lo` octets of a line: those before it, and the
tildes that it has behind its caret. -/
structure Columns (line : Bytes) (lo pad tildes : Nat) : Prop where
  before : pad = displayWidth (line.take lo)
  marked : ∃ hi, lo ≤ hi ∧ hi ≤ line.length ∧
    1 + tildes = max (displayWidth ((line.take hi).drop lo)) 1

/-- From a place of a line on there is something to underline, whatever the other place is. -/
theorem underline_ok {line : Bytes} {lo : Nat} (hlo : lo ≤ line.length) (stop : Int) :
    ∃ pad tildes : Nat, underline line lo stop = .ok ((pad : Int), (1 + tildes : Int)) ∧
      Columns line lo pad tildes := by
  obtain ⟨hi, hhi⟩ : ∃ hi : Nat, (hi : Int) = min (max stop lo) line.length :=
    ⟨(min (max stop lo) line.length).toNat, by omega⟩
  -- a start inside the line stays where it is, and the stop is brought between it and the end
  have hstart : min (max (lo : Int) 0) line.length = lo := by omega
  have hle : lo ≤ hi := by omega
  have hin : hi ≤ line.length := by omega
  have hbefore : between line 0 lo = .ok (line.take lo) := between_ok (Nat.zero_le lo) hlo
  obtain ⟨tildes, hwidth⟩ : ∃ tildes, 1 + tildes = max (displayWidth ((line.take hi).drop lo)) 1 :=
    ⟨max (displayWidth ((line.take hi).drop lo)) 1 - 1, by omega⟩
  refine ⟨displayWidth (line.take lo), tildes, ?_, rfl, hi, hle, hin, hwidth⟩
  have hcast : max (displayWidth ((line.take hi).drop lo) : Int) 1 = 1 + tildes := by omega
  rw [underline, hstart, ← hhi, hbefore, between_ok hle hin, ← hcast]
  rfl

/-- What is drawn for a diagnostic has the line of its start, and on the next line, below the octet
of its start, a caret with tildes behind it. -/
def Underlined (o : Options) (fs : FileSet) (d : Diagnostic) (t : Bytes) : Prop :=
  ∃ f line lo pad tildes, fs.get d.primary.file = .ok f ∧ f.OnLine d.primary.start line lo ∧
    Columns line lo pad tildes ∧ ∃ above number below : Bytes,
      t = above ++ o.ink.inline Palette.gutter (" " ++ number ++ " | ") ++ untab line ++ "\n" ++
        o.ink.inline Palette.gutter (" " ++ blanksOf number.length ++ " | ") ++ blanksOf pad ++
        o.ink.wrap (Palette.severity d.severity) ("^" ++ List.replicate tildes (126 : UInt8)) ++
        "\n" ++ below

theorem Underlined.append {t : Bytes} (h : Underlined o fs d t) (more : Bytes) :
    Underlined o fs d (t ++ more) := by
  obtain ⟨f, line, lo, pad, tildes, hget, hline, hcolumns, above, number, below, rfl⟩ := h
  refine ⟨f, line, lo, pad, tildes, hget, hline, hcolumns, above, number, below ++ more, ?_⟩
  rw [List.append_assoc _ below]

theorem renderHead_ok (o : Options) {f : File} (hget : fs.get d.primary.file = .ok f)
    (hstart : d.primary.start.toNat ≤ f.content.length) :
    ∃ t, renderHead o fs d = .ok t ∧ Underlined o fs d t := by
  obtain ⟨line, lo, hline⟩ := File.exists_onLine hstart
  have hlo : ((f.locate d.primary.start).col.toNat : Int) - 1 = lo := by
    rw [hline.col]
    omega
  obtain ⟨pad, tildes, hunder, hcolumns⟩ :=
    underline_ok hline.le ((stopColumn f d.primary line).toNat - 1)
  have hwidth : (1 + tildes : Int) - 1 = tildes := by omega
  simp only [renderHead, hget, hline.containing, hlo, hunder, hwidth, repeated_ok,
    bind, Except.bind, pure, Except.pure]
  exact ⟨_, rfl, f, line, lo, pad, tildes, hget, hline, hcolumns, _, _, [],
    (List.append_nil _).symm⟩

theorem exists_renderHead_iff :
    (∃ t, renderHead o fs d = .ok t) ↔
      ∃ f, fs.get d.primary.file = .ok f ∧ d.primary.start.toNat ≤ f.content.length := by
  constructor
  · rintro ⟨t, h⟩
    obtain ⟨f, hget, h⟩ := bind_eq_ok_iff.mp h
    obtain ⟨line, hline, -⟩ := bind_eq_ok_iff.mp h
    exact ⟨f, hget, (File.lineContaining_eq_ok_iff.mp hline).1⟩
  · rintro ⟨f, hget, hstart⟩
    obtain ⟨t, ht, -⟩ := renderHead_ok o hget hstart
    exact ⟨t, ht⟩

theorem exists_renderNote_iff {n : Note} :
    (∃ t, renderNote o fs n = .ok t) ↔ n.span.file.toNat < fs.size := by
  rw [← FileSet.exists_get_iff, renderNote]
  cases fs.get n.span.file with
  | error e => simp
  | ok f => simp

/-- What a diagnostic cannot be drawn for: its file or that of a note to be shown is not in the set,
or it starts behind the end of its file. -/
inductive Undrawable (o : Options) (fs : FileSet) (d : Diagnostic) : Prop
  | noFile (h : fs.size ≤ d.primary.file.toNat)
  | pastEnd {f : File} (hget : fs.get d.primary.file = .ok f)
      (h : f.content.length < d.primary.start.toNat)
  | noteWithoutFile {n : Note} (hnotes : o.notes = true) (hn : n ∈ d.notes)
      (h : fs.size ≤ n.span.file.toNat)

theorem not_undrawable_iff : ¬ Undrawable o fs d ↔
    (∃ f, fs.get d.primary.file = .ok f ∧ d.primary.start.toNat ≤ f.content.length) ∧
      (o.notes = true → ∀ n ∈ d.notes, n.span.file.toNat < fs.size) := by
  constructor
  · intro h
    obtain ⟨f, hget⟩ : ∃ f, fs.get d.primary.file = .ok f :=
      FileSet.exists_get_iff.mpr (Nat.lt_of_not_le fun hle => h (.noFile hle))
    exact ⟨⟨f, hget, Nat.le_of_not_lt fun hlt => h (.pastEnd hget hlt)⟩,
      fun hnotes n hn => Nat.lt_of_not_le fun hle => h (.noteWithoutFile hnotes hn hle)⟩
  · rintro ⟨⟨f, hget, hstart⟩, hnotes⟩ (h | ⟨hget', h⟩ | ⟨ho, hn, h⟩)
    · exact absurd (FileSet.exists_get_iff.mp ⟨f, hget⟩) (by omega)
    · rw [hget] at hget'
      cases hget'
      omega
    · exact absurd (hnotes ho _ hn) (by omega)

theorem exists_notes_iff :
    (∃ ts, (if o.notes then d.notes else []).mapM (renderNote o fs) = .ok ts) ↔
      (o.notes = true → ∀ n ∈ d.notes, n.span.file.toNat < fs.size) := by
  rw [mapM_ok_iff]
  simp only [exists_renderNote_iff]
  by_cases hnotes : o.notes = true
  · simp [hnotes]
  · simp [hnotes]

theorem exists_renderOne_iff : (∃ t, renderOne o fs d = .ok t) ↔ ¬ Undrawable o fs d := by
  rw [not_undrawable_iff, ← exists_renderHead_iff, ← exists_notes_iff]
  constructor
  · rintro ⟨t, h⟩
    obtain ⟨head, hhead, h⟩ := bind_eq_ok_iff.mp h
    obtain ⟨notes, hnotes, -⟩ := bind_eq_ok_iff.mp h
    exact ⟨⟨head, hhead⟩, notes, hnotes⟩
  · rintro ⟨⟨head, hhead⟩, notes, hnotes⟩
    exact ⟨_, bind_eq_ok_iff.mpr ⟨head, hhead, bind_eq_ok_iff.mpr ⟨notes, hnotes, rfl⟩⟩⟩

theorem underlined_of_renderOne {t : Bytes} (h : renderOne o fs d = .ok t) :
    Underlined o fs d t := by
  obtain ⟨head, hhead, h⟩ := bind_eq_ok_iff.mp h
  obtain ⟨notes, -, h⟩ := bind_eq_ok_iff.mp h
  cases h
  obtain ⟨f, hget, hstart⟩ := exists_renderHead_iff.mp ⟨head, hhead⟩
  obtain ⟨head', hhead', hunder⟩ := renderHead_ok o hget hstart
  rw [hhead, Except.ok.injEq] at hhead'
  subst hhead'
  exact hunder.append _

theorem exists_render_iff {bag : Bag} :
    (∃ t, render o fs bag = .ok t) ↔ ∀ d ∈ bag.items, ¬ Undrawable o fs d := by
  simp only [← exists_renderOne_iff, ← Array.mem_toList_iff, ← mapM_ok_iff]
  constructor
  · rintro ⟨t, h⟩
    obtain ⟨parts, hparts, -⟩ := bind_eq_ok_iff.mp h
    exact ⟨parts, hparts⟩
  · rintro ⟨parts, hparts⟩
    exact ⟨_, bind_eq_ok_iff.mpr ⟨parts, hparts, rfl⟩⟩

end Pretty

namespace Short

theorem locate_ok (view : PathView) (fs : Option FileSet) (s : Span) :
    ∃ place, locate view fs s = .ok place := by
  cases fs with
  | none => exact ⟨_, rfl⟩
  | some fs =>
    by_cases hfile : s.file.toNat < fs.size
    · obtain ⟨f, hget⟩ := FileSet.exists_get_iff.mpr hfile
      by_cases hstart : s.start ≤ f.size
      · have hle : s.start.toNat ≤ f.content.length := by
          rw [← f.toNat_size]
          exact UInt32.le_iff_toNat_le.mp hstart
        have hposition := File.positionOf_eq_ok_iff.mpr ⟨hle, rfl⟩
        simp [locate, hfile, hget, hstart, hposition, bind, Except.bind, pure, Except.pure]
      · simp [locate, hfile, hget, hstart, bind, Except.bind, pure, Except.pure]
    · simp [locate, hfile]

theorem line_ok (view : PathView) (fs : Option FileSet) (s : Span) (severity code message : Bytes) :
    ∃ t, line view fs s severity code message = .ok t := by
  obtain ⟨place, hplace⟩ := locate_ok view fs s
  exact ⟨_, bind_eq_ok_iff.mpr ⟨place, hplace, rfl⟩⟩

theorem renderOne_ok (view : PathView) (notes : Bool) (fs : Option FileSet) (d : Diagnostic) :
    ∃ t, renderOne view notes fs d = .ok t := by
  obtain ⟨head, hhead⟩ := line_ok view fs d.primary d.severity.name.lower d.code.id d.message
  obtain ⟨rest, hrest⟩ : ∃ ts, (if notes then d.notes else []).mapM
      (fun n => line view fs n.span "note" d.code.id n.message) = .ok ts :=
    mapM_ok fun n _ => line_ok view fs n.span "note" d.code.id n.message
  exact ⟨_, bind_eq_ok_iff.mpr ⟨head, hhead, bind_eq_ok_iff.mpr ⟨rest, hrest, rfl⟩⟩⟩

/-- Whatever the spans are and whether or not there is a set, there is a line for each
diagnostic. -/
theorem render_ok (view : PathView) (notes : Bool) (fs : Option FileSet) (bag : Bag) :
    ∃ t, render view notes fs bag = .ok t := by
  obtain ⟨parts, hparts⟩ : ∃ parts, bag.items.toList.mapM (renderOne view notes fs) = .ok parts :=
    mapM_ok fun d _ => renderOne_ok view notes fs d
  unfold render
  rw [hparts]
  exact ⟨_, rfl⟩

end Short

end FrontEnd
