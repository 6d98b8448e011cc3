import FrontEnd.Proofs.Boundary
import FrontEnd.Proofs.TokenStream

/-!
Scanning goes line by line. No lexeme reaches over a line end, so what is scanned before one does
not depend on what stands behind it, and what is scanned behind it not on what stands before: a
broken literal costs the rest of its line and no more. Only the reason given for an open string
tells whether the input or the line ended it.
-/
namespace FrontEnd

theorem isLineEnd_iff {c : UInt8} : isLineEnd c = true ↔ c = 10 ∨ c = 13 := by simp [isLineEnd]

namespace Lexeme

variable {c : UInt8} (hc : isLineEnd c = true)

include hc

theorem isBoundary_of_isLineEnd : isBoundary c = true := by simp [isBoundary, hc]

theorem front?_newLine (t : Bytes) : front? (c :: t) = some (ofSize .newLine 1 [c]) := by
  have hzero : c ≠ 0 := by rintro rfl; cases hc
  simp only [front?, hzero, if_false, hc, Bool.true_or, if_true]
  rfl

end Lexeme

def Placed.shift (k : Nat) (p : Placed) : Placed := { p with off := p.off + k }

namespace Reading

/-- Reading does not depend on where the text stands. -/
theorem ofText_shift (k off : Nat) (s : Bytes) :
    ofText (off + k) s =
      ⟨(ofText off s).lexemes.map (Placed.shift k), (ofText off s).stop + k⟩ := by
  induction off, s using induction with
  | stop off s h =>
    rw [ofText_none h, ofText_none h]
    simp only [List.map_nil, mk.injEq, true_and]
    omega
  | more off s m h ih =>
    have hplace : off + k + Lexeme.gap s = off + Lexeme.gap s + k := by omega
    have hnext : off + k + Lexeme.gap s + m.size = off + Lexeme.gap s + m.size + k := by omega
    rw [ofText_some h, ofText_some h, hnext, ih, hplace]
    rfl

/-- A text of lines is read line by line. -/
theorem ofText_lineEnd {c : UInt8} (hc : isLineEnd c = true) (t : Bytes) (off : Nat) {s : Bytes}
    (hzero : 0 ∉ s) :
    ofText off (s ++ c :: t) =
      ⟨(ofText off s).lexemes.map Placed.endLine ++ ⟨off + s.length, .ofSize .newLine 1 [c]⟩ ::
          (ofText (off + s.length + 1) t).lexemes,
        (ofText (off + s.length + 1) t).stop⟩ := by
  have hbound := Lexeme.isBoundary_of_isLineEnd hc
  have hgap : Lexeme.gap (c :: t) = 0 := Lexeme.gap_stop t hbound []
  have hfront : Lexeme.front? ((c :: t).drop (Lexeme.gap (c :: t))) =
      some (.ofSize .newLine 1 [c]) := by
    rw [hgap]
    exact Lexeme.front?_newLine hc t
  rw [ofText_boundary hbound t off hzero, ofText_some hfront, hgap]
  rfl

end Reading

def Span.shift (k : Nat) (s : Span) : Span :=
  { s with start := s.start + k.toUInt32, stop := s.stop + k.toUInt32 }

def Token.shift (k : Nat) (t : Token) : Token := { t with span := t.span.shift k }

namespace Diagnostic

def shift (k : Nat) (d : Diagnostic) : Diagnostic :=
  { d with
    primary := d.primary.shift k
    notes := d.notes.map fun n => { n with span := n.span.shift k } }

/-- A diagnostic at the end of the input as it is when a line end follows. -/
def endLine (d : Diagnostic) : Diagnostic :=
  if d.code = Code.endInLiteral then
    { d with code := Code.unterminatedString, message := Code.unterminatedString.template }
  else d

end Diagnostic

theorem toUInt32_add (m n : Nat) :
    (m + n).toUInt32 = m.toUInt32 + n.toUInt32 := UInt32.ofNat_add m n

theorem Finding.diagnostic_endLine (file : FileId) (off : Nat) (f : Finding) :
    f.endLine.diagnostic file off = (f.diagnostic file off).endLine := by
  by_cases hcode : f.code = Code.endInLiteral
  · simp only [endLine, Diagnostic.endLine, diagnostic, hcode, if_true]
    rfl
  · rw [endLine, if_neg hcode]
    exact (if_neg hcode).symm

theorem Finding.diagnostic_shift (file : FileId) (off k : Nat) (f : Finding) :
    f.diagnostic file (off + k) = (f.diagnostic file off).shift k := by
  simp only [diagnostic, Diagnostic.shift, Span.shift, Nat.add_right_comm _ k, toUInt32_add _ k,
    List.map_nil]

namespace Placed

theorem diagnostics_endLine (file : FileId) (p : Placed) :
    p.endLine.diagnostics file = (p.diagnostics file).map Diagnostic.endLine := by
  simp only [diagnostics, endLine, Lexeme.endLine, List.map_map, Function.comp_def,
    Finding.diagnostic_endLine]

theorem diagnostics_shift (file : FileId) (k : Nat) (p : Placed) :
    (p.shift k).diagnostics file = (p.diagnostics file).map (Diagnostic.shift k) := by
  simp only [diagnostics, shift, List.map_map]
  exact List.map_congr_left fun f _ => f.diagnostic_shift file p.off k

theorem token_shift (file : FileId) (k : Nat) (p : Placed) :
    (p.shift k).token file = (p.token file).shift k := by
  simp only [token, shift, stop, Token.shift, Span.shift, Nat.add_right_comm _ k, toUInt32_add _ k]

end Placed

namespace File

/-- The tokens of a file, and its diagnostics in the order in which they are reported. -/
def scan (f : File) : Except BuilderError (List Token × List Diagnostic) :=
  (f.tokens (some { report := fun ds d => ds ++ [d], sink := [] })).map fun (ts, b) =>
    (ts, (b.map Builder.sink).getD [])

theorem scan_eq (f : File) : f.scan = .ok (f.stream, f.faults) := by
  have hkept : ∀ ds acc : List Diagnostic, ds.foldl (fun ds d => ds ++ [d]) acc = acc ++ ds := by
    intro ds
    induction ds with
    | nil => simp
    | cons d ds ih => simp [ih]
  rw [scan, f.tokens_eq (by simp)]
  simp only [Except.map, Option.map_some, Option.getD_some, Builder.foldl_handOn_sink, hkept]
  rfl

variable {f a b : File} {c : UInt8}

theorem reading_lineEnd (hc : isLineEnd c = true) (hzero : 0 ∉ a.content)
    (hf : f.content = a.content ++ c :: b.content) :
    f.reading =
      ⟨a.reading.lexemes.map Placed.endLine ++ ⟨a.content.length, .ofSize .newLine 1 [c]⟩ ::
          b.reading.lexemes.map (Placed.shift (a.content.length + 1)),
        b.reading.stop + (a.content.length + 1)⟩ := by
  have hrest := Reading.ofText_shift (a.content.length + 1) 0 b.content
  rw [reading, hf, Reading.ofText_lineEnd hc _ _ hzero, Nat.add_assoc, hrest, Nat.zero_add]
  rfl

theorem stream_lineEnd (hc : isLineEnd c = true) (hzero : 0 ∉ a.content)
    (hf : f.content = a.content ++ c :: b.content) (ha : a.id = f.id) (hb : b.id = f.id) :
    f.stream = a.reading.lexemes.map (Placed.token a.id) ++
      ⟨.newLine, ⟨f.id, a.content.length.toUInt32, (a.content.length + 1).toUInt32⟩, [c]⟩ ::
        b.stream.map (Token.shift (a.content.length + 1)) := by
  -- only the findings of the lexemes before the line end are not those of `a`
  have hbefore : (a.reading.lexemes.map Placed.endLine).map (Placed.token f.id) =
      a.reading.lexemes.map (Placed.token a.id) := by
    rw [List.map_map, ha]
    rfl
  have hbehind :
    (b.reading.lexemes.map (Placed.shift (a.content.length + 1))).map (Placed.token f.id) =
      (b.reading.lexemes.map (Placed.token b.id)).map (Token.shift (a.content.length + 1)) := by
    rw [List.map_map, List.map_map, hb]
    exact List.map_congr_left fun p _ => p.token_shift f.id _
  rw [stream, reading_lineEnd hc hzero hf, Reading.tokens]
  simp only [List.map_append, List.map_cons, hbefore, hbehind, stream, Reading.tokens,
    List.append_assoc, List.cons_append, List.map_nil, toUInt32_add b.reading.stop, Token.shift,
    Span.shift, hb]
  rfl

theorem faults_lineEnd (hc : isLineEnd c = true) (hzero : 0 ∉ a.content)
    (hf : f.content = a.content ++ c :: b.content) (ha : a.id = f.id) (hb : b.id = f.id) :
    f.faults =
      a.faults.map Diagnostic.endLine ++
        b.faults.map (Diagnostic.shift (a.content.length + 1)) := by
  have hbreak : Placed.diagnostics f.id ⟨a.content.length, .ofSize .newLine 1 [c]⟩ = [] := rfl
  rw [faults, reading_lineEnd hc hzero hf, Reading.diagnostics, List.flatMap_append,
    List.flatMap_cons, hbreak, List.nil_append]
  simp only [faults, Reading.diagnostics, List.flatMap_map, List.map_flatMap,
    Placed.diagnostics_endLine, Placed.diagnostics_shift, ha, hb]

/-- A scan of two texts with a line end between them is the scan of the first, up to its end, the
line end, and the scan of the second at its place. An open string of the first ends with its
line. -/
theorem scan_lineEnd (hc : c = 10 ∨ c = 13) (hzero : 0 ∉ a.content)
    (hf : f.content = a.content ++ c :: b.content) (ha : a.id = f.id) (hb : b.id = f.id) :
    ∃ ts last ds ts' ds', a.scan = .ok (ts ++ [last], ds) ∧ last.kind = .eof ∧
      b.scan = .ok (ts', ds') ∧
      f.scan = .ok
        (ts ++ ⟨.newLine,
          ⟨f.id, a.content.length.toUInt32, (a.content.length + 1).toUInt32⟩, [c]⟩ ::
            ts'.map (Token.shift (a.content.length + 1)),
          ds.map Diagnostic.endLine ++ ds'.map (Diagnostic.shift (a.content.length + 1))) := by
  have hline := isLineEnd_iff.mpr hc
  refine ⟨_, _, a.faults, b.stream, b.faults, a.scan_eq, rfl, b.scan_eq, ?_⟩
  rw [f.scan_eq, stream_lineEnd hline hzero hf ha hb, faults_lineEnd hline hzero hf ha hb]

/-- A line that ends inside a string, and one that ends inside a character. -/
theorem scan_lineEnd_open :
    let a := File.make 7 "a.kj" (Bytes.ofString "fn \"ab\\q") 0 (by decide)
    let b := File.make 7 "b.kj" (Bytes.ofString "'x") 0 (by decide)
    let f := File.make 7 "f.kj" (Bytes.ofString "fn \"ab\\q\n'x") 0 (by decide)
    ((10 : UInt8) = 10 ∨ (10 : UInt8) = 13) ∧ 0 ∉ a.content ∧
      f.content = a.content ++ 10 :: b.content ∧
      a.id = f.id ∧ b.id = f.id ∧
      ∃ ts last ds ts' ds', a.scan = .ok (ts ++ [last], ds) ∧ last.kind = .eof ∧
        b.scan = .ok (ts', ds') ∧
        f.scan = .ok
          (ts ++
            ⟨.newLine, ⟨f.id, a.content.length.toUInt32, (a.content.length + 1).toUInt32⟩, [10]⟩ ::
              ts'.map (Token.shift (a.content.length + 1)),
            ds.map Diagnostic.endLine ++ ds'.map (Diagnostic.shift (a.content.length + 1))) :=
  ⟨.inl rfl, by decide, by decide, rfl, rfl,
    scan_lineEnd (.inl rfl) (by decide) (by decide) rfl rfl⟩

end File

end FrontEnd
