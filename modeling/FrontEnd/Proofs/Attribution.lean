import FrontEnd.Proofs.LineBreak
import FrontEnd.Proofs.Repetition
import FrontEnd.Proofs.Showing

/-!
Who is to blame for a diagnostic. A ledger of a scan has one entry for each token, with what was
reported while that token was scanned. No entry repeats itself, no diagnostic leaves the span of its
token, and the tokens lie apart, so there is nothing for a bag to drop.
-/
namespace FrontEnd

/-- A token, and what was reported while it was scanned. -/
structure Entry where
  token : Token
  reports : List Diagnostic
  deriving DecidableEq, Repr

/-- The entries of a scan so far, and what was reported since the last. -/
structure Ledger where
  entries : List Entry := []
  pending : List Diagnostic := []

namespace Ledger

def report (l : Ledger) (d : Diagnostic) : Ledger := { l with pending := l.pending ++ [d] }

/-- A token takes what was reported before it was there. -/
def close (t : Token) (l : Ledger) : Ledger := { entries := l.entries ++ [⟨t, l.pending⟩] }

theorem foldl_report (l : Ledger) (ds : List Diagnostic) :
    ds.foldl report l = { l with pending := l.pending ++ ds } := by
  induction ds generalizing l with
  | nil => simp
  | cons d ds ih => simp [ih, report]

end Ledger

def Placed.entry (file : FileId) (p : Placed) : Entry := ⟨p.token file, p.diagnostics file⟩

namespace File

/-- The tokens of a file in order, each with what is reported while it is scanned. -/
def ledger (f : File) : Except BuilderError (List Entry) :=
  ((Lexer.new f (some { report := Ledger.report, sink := {} })).allTelling Ledger.close).map
    fun (_, lx) => ((lx.builder.map Builder.sink).getD {}).entries

/-- The entries of a file as its reading has them. -/
def entries (f : File) : List Entry :=
  f.reading.lexemes.map (Placed.entry f.id) ++
    [⟨⟨.eof, ⟨f.id, f.reading.stop.toUInt32, f.reading.stop.toUInt32⟩, []⟩, []⟩]

end File

/-- A lexeme adds its entry to a ledger in which nothing is open. -/
theorem Ledger.foldl_follow (file : FileId) (ps : List Placed) {b : Builder Ledger}
    (hreport : b.report = report) (hpending : b.sink.pending = []) :
    (ps.foldl (Builder.follow close file) b).sink =
      ⟨b.sink.entries ++ ps.map (Placed.entry file), []⟩ := by
  induction ps generalizing b with
  | nil =>
    rw [List.foldl_nil, List.map_nil, List.append_nil, ← hpending]
  | cons p ps ih =>
    have hsame : (b.follow close file p).report = report :=
      (Builder.foldl_handOn_report _ b).trans hreport
    have hsink : (b.follow close file p).sink = ⟨b.sink.entries ++ [p.entry file], []⟩ := by
      change close _ _ = _
      rw [Builder.foldl_handOn_sink, hreport, foldl_report, hpending]
      rfl
    rw [List.foldl_cons, ih hsame (by rw [hsink]), hsink, List.map_cons, List.append_assoc]
    rfl

theorem File.ledger_eq (f : File) : f.ledger = .ok f.entries := by
  let b : Builder Ledger := { report := Ledger.report, sink := {} }
  have hfollow := Ledger.foldl_follow f.id f.reading.lexemes (b := b) rfl rfl
  obtain ⟨last, hlast, hbuilder⟩ := Lexer.allTelling_new Ledger.close f (b := some b) (by simp [b])
  rw [ledger, hlast]
  simp only [Except.map, hbuilder, Option.map_some, Option.getD_some,
    Builder.followAll, Builder.told, Ledger.close, hfollow]
  rfl

theorem File.entries_tokens (f : File) : f.entries.map Entry.token = f.stream := by
  simp only [stream, Reading.tokens, entries, List.map_append, List.map_map, List.map_cons,
    List.map_nil]
  rfl

theorem File.entries_reports (f : File) : f.entries.flatMap Entry.reports = f.faults := by
  simp only [faults, Reading.diagnostics, entries, List.flatMap_append, List.flatMap_map,
    List.flatMap_cons, List.flatMap_nil, List.append_nil]
  rfl

/-- What the diagnostics of one token keep: each lies in the span of the token and is not empty, one
at most is no unknown escape, and each unknown escape has a backslash that no other has. -/
structure Entry.Attributed (f : File) (e : Entry) : Prop where
  inside : ∀ d ∈ e.reports, d.primary.file = e.token.span.file ∧
    e.token.span.start ≤ d.primary.start ∧ d.primary.start < d.primary.stop ∧
    d.primary.stop ≤ e.token.span.stop
  single : e.reports.countP (fun d => d.code ≠ Code.unknownEscape) ≤ 1
  backslash : ∀ d ∈ e.reports, d.code = Code.unknownEscape →
    f.content[d.primary.start.toNat]? = some 92
  once : ∀ i, e.reports.countP (fun d => d.code = Code.unknownEscape ∧ d.primary.start = i) ≤ 1

/-- Of a list no two members of which are both in a class, one at most is in it. -/
theorem countP_le_one {α : Type} {p : α → Bool} {xs : List α}
    (h : xs.Pairwise fun x y => ¬ (p x = true ∧ p y = true)) : xs.countP p ≤ 1 := by
  induction xs with
  | nil => simp
  | cons x xs ih =>
    obtain ⟨hx, hrest⟩ := List.pairwise_cons.mp h
    cases hp : p x with
    | false => simpa [hp] using ih hrest
    | true =>
      have hnone : xs.countP p = 0 := List.countP_eq_zero.mpr fun y hy hpy => hx y hy ⟨hp, hpy⟩
      simp [hp, hnone]

namespace File

variable (f : File) {p : Placed} (hp : p ∈ f.reading.lexemes)

include hp

theorem stop_le_of_mem : p.stop ≤ f.content.length :=
  Nat.le_trans (f.reading_within.before p hp) f.reading_within.stop_le

/-- Where a finding on a lexeme of the file starts and stops. -/
theorem primary_toNat {g : Finding} (hg : g ∈ p.lexeme.findings) :
    (g.diagnostic f.id p.off).primary.start.toNat = p.off + g.start ∧
      (g.diagnostic f.id p.off).primary.stop.toNat = p.off + g.start + g.size := by
  obtain ⟨-, hinside⟩ := (Lexeme.front?_itemised (f.front?_of_mem hp)).inside hg
    (f.reading_within.fronts p hp).size_pos
  have hstop := f.stop_le_of_mem hp
  unfold Placed.stop at hstop
  exact ⟨f.toNat_offset (by omega), f.toNat_offset (by omega)⟩

theorem diagnostics_distinct : (p.diagnostics f.id).Pairwise fun d e =>
    ¬ (d.code = e.code ∧ d.primary.start = e.primary.start) := by
  have hitems := Lexeme.front?_itemised (f.front?_of_mem hp)
  refine List.pairwise_map.mpr (hitems.distinct.imp_of_mem ?_)
  rintro g g' hg hg' hne ⟨hcode, hstart⟩
  have hplace := congrArg UInt32.toNat hstart
  rw [(f.primary_toNat hp hg).1, (f.primary_toNat hp hg').1] at hplace
  exact hne ⟨hcode, Nat.add_left_cancel hplace⟩

theorem entry_attributed : (p.entry f.id).Attributed f := by
  have hitems := Lexeme.front?_itemised (f.front?_of_mem hp)
  have hpos := (f.reading_within.fronts p hp).size_pos
  have hstop := f.stop_le_of_mem hp
  refine ⟨?_, ?_, ?_, ?_⟩
  · intro d hd
    obtain ⟨g, hg, rfl⟩ := List.mem_map.mp hd
    obtain ⟨hsize, hinside⟩ := hitems.inside hg hpos
    unfold Placed.stop at hstop
    exact ⟨rfl, f.offset_le (by omega) (by omega), f.offset_lt (by omega) (by omega),
      f.offset_le (by unfold Placed.stop; omega) hstop⟩
  · apply countP_le_one
    refine List.pairwise_map.mpr (hitems.single.imp ?_)
    rintro g g' hor ⟨hg, hg'⟩
    rcases hor with h | h
    · exact of_decide_eq_true hg h
    · exact of_decide_eq_true hg' h
  · intro d hd hcode
    obtain ⟨g, hg, rfl⟩ := List.mem_map.mp hd
    obtain ⟨c, -, hback, -⟩ := hitems.escape hg hcode
    rw [(f.primary_toNat hp hg).1, ← List.getElem?_drop]
    exact hback
  · intro i
    apply countP_le_one
    refine (f.diagnostics_distinct hp).imp ?_
    rintro d e hne ⟨hd, he⟩
    obtain ⟨hcode, hstart⟩ := of_decide_eq_true hd
    obtain ⟨hcode', hstart'⟩ := of_decide_eq_true he
    exact hne ⟨hcode.trans hcode'.symm, hstart.trans hstart'.symm⟩

omit hp

theorem entries_attributed : ∀ e ∈ f.entries, e.Attributed f := by
  intro e he
  rcases List.mem_append.mp he with he | he
  · obtain ⟨p, hp, rfl⟩ := List.mem_map.mp he
    exact f.entry_attributed hp
  · rw [List.mem_singleton.mp he]
    exact ⟨nofun, by simp, nofun, by simp⟩

theorem entries_apart :
    f.entries.Pairwise fun e e' => e.token.span.stop ≤ e'.token.span.start := by
  have hstream := f.stream_isStream.apart
  rw [← f.entries_tokens] at hstream
  exact List.pairwise_map.mp hstream

/-- No two diagnostics of a scan share code and place: those of one token by what was found, those
of two because the tokens lie apart. -/
theorem reports_distinct : (f.entries.flatMap Entry.reports).Pairwise fun d d' =>
    ¬ (d.code = d'.code ∧ d.primary = d'.primary) := by
  refine List.pairwise_flatMap.mpr ⟨?_, ?_⟩
  · intro e he
    rcases List.mem_append.mp he with he | he
    · obtain ⟨p, hp, rfl⟩ := List.mem_map.mp he
      refine (f.diagnostics_distinct hp).imp ?_
      rintro d d' hne ⟨hcode, hprimary⟩
      exact hne ⟨hcode, congrArg Span.start hprimary⟩
    · rw [List.mem_singleton.mp he]
      exact .nil
  · refine f.entries_apart.imp_of_mem ?_
    rintro e e' he he' hapart d hd d' hd' ⟨-, hprimary⟩
    obtain ⟨-, -, hlt, hstop⟩ := (f.entries_attributed e he).inside d hd
    obtain ⟨-, hstart, -⟩ := (f.entries_attributed e' he').inside d' hd'
    rw [← hprimary] at hstart
    have hle := UInt32.le_trans (UInt32.le_trans hstop hapart) hstart
    exact UInt32.lt_irrefl _ (UInt32.lt_of_lt_of_le hlt hle)

/-- Who reports what. Each token of a scan, in the order of the file, comes with what was reported
while it was scanned, and that is all the scan reports. A diagnostic lies in its token and is not
empty; a token has one at most that is no unknown escape, and one unknown escape at most for each
backslash. No two diagnostics share code and place, so a bag that gathers them has none to drop. -/
theorem scan_attributed : ∃ entries, f.ledger = .ok entries ∧
    f.scan = .ok (entries.map Entry.token, entries.flatMap Entry.reports) ∧
    entries.Pairwise (fun e e' => e.token.span.stop ≤ e'.token.span.start) ∧
    (∀ e ∈ entries, e.Attributed f) ∧
    (entries.flatMap Entry.reports).Pairwise
      (fun d d' => ¬ (d.code = d'.code ∧ d.primary = d'.primary)) ∧
    ∀ limit, ∃ b, f.tokens (some { report := Reporter.bag, sink := { limit } }) =
        .ok (entries.map Entry.token, some b) ∧
      b.sink.items.toList.Sublist (entries.flatMap Entry.reports) ∧ b.sink.dedup = b.sink := by
  refine ⟨f.entries, f.ledger_eq, ?_, f.entries_apart, f.entries_attributed, f.reports_distinct, ?_⟩
  · rw [f.scan_eq, f.entries_tokens, f.entries_reports]
  intro limit
  let b : Builder Bag := { report := Reporter.bag, sink := { limit } }
  have hsink : (f.faults.foldl Builder.handOn b).sink = Bag.addAll { limit } f.faults :=
    Builder.foldl_handOn_sink f.faults b
  have hkept : List.Sublist (Bag.addAll { limit } f.faults).items.toList f.faults :=
    Bag.addAll_sublist { limit } f.faults
  refine ⟨f.faults.foldl Builder.handOn b, ?_, ?_, ?_⟩
  · rw [f.tokens_eq (by simp), f.entries_tokens]
    rfl
  · rw [hsink, f.entries_reports]
    exact hkept
  · rw [hsink]
    apply Bag.dedup_eq
    refine List.Pairwise.imp ?_ ((f.entries_reports ▸ f.reports_distinct).sublist hkept)
    exact fun hne hkey => hne (Bag.key_injective hkey)

end File

end FrontEnd
