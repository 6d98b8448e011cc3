import FrontEnd.Proofs.Attribution
import FrontEnd.Proofs.ValidText

/-!
Characters in a scan. In a text of whole characters every token starts and ends between two of them,
whichever routine read it: a routine stops at an ASCII octet, behind a whole character or at the
end. What is cut out inside of a token is whole as well, with one exception. An escape is taken to
be a backslash and one octet, so a longer character behind a backslash is cut behind its first
octet, in what is reported and in the text of a character literal.
-/
namespace FrontEnd

open Utf8 (Valid Boundary)

theorem Bytes.isDecimalDigit_ascii {b : UInt8} (h : isDecimalDigit b = true) : b < 0x80 := by
  simp only [isDecimalDigit, Bool.and_eq_true, decide_eq_true_iff] at h
  exact UInt8.lt_of_le_of_lt h.2 (by decide)

/-- The text of a character literal that is a backslash and the first octet of a longer
character. -/
def Token.SplitText (kind : Kind) (text : Bytes) : Prop :=
  kind = .charLit ∧ ∃ c, text = [92, c] ∧ 0x80 ≤ c

/-- Where the text of a token starts, seen from the token: behind the quote of a literal. -/
def Token.textStart (kind : Kind) : Nat := if (Token.delimiter? kind).isSome then 1 else 0

/-- An unknown escape of a character that is longer than an octet, found in a text. -/
def Finding.SplitEscape (s : Bytes) (f : Finding) : Prop :=
  f.code = Code.unknownEscape ∧ ∃ c, s[f.start + 1]? = some c ∧ 0x80 ≤ c

/-- An unknown escape of a character that is longer than an octet, reported on a file. -/
def Diagnostic.SplitEscape (f : File) (d : Diagnostic) : Prop :=
  d.code = Code.unknownEscape ∧
    ∃ c, f.content[d.primary.start.toNat + 1]? = some c ∧ 0x80 ≤ c

namespace Lexeme

open Token (SplitText textStart)

theorem isIdentByte_ascii {b : UInt8} (h : isIdentByte b = true) : b < 0x80 := by
  rcases Bool.or_eq_true_iff.mp h with h | h
  · exact isIdentStart_ascii h
  · exact Bytes.isDecimalDigit_ascii h

theorem isBlank_ascii {b : UInt8} (h : isBlank b = true) : b < 0x80 := by
  simp only [isBlank, Bool.or_eq_true, beq_iff_eq] at h
  rcases h with ((rfl | rfl) | rfl) | rfl <;> decide

theorem punctuation?_ascii {b : UInt8} {k : Kind} (h : Kind.punctuation? b = some k) :
    b < 0x80 := by
  change b.toNat < 128
  unfold Kind.punctuation? at h
  split at h <;> first | omega | cases h

/-- A run of ASCII octets ends behind a character. -/
theorem takeWhile_boundary {s : Bytes} (h : Valid s) {p : UInt8 → Bool}
    (hp : ∀ b, p b = true → b < 0x80) : Boundary s (s.takeWhile p).length := by
  have hrun := List.takeWhile_prefix p (l := s)
  refine h.boundary hrun.length_le ?_
  rw [← List.prefix_iff_eq_take.mp hrun]
  exact .of_ascii fun b hb => hp b (List.mem_takeWhile_imp hb)

theorem itemSize_boundary {s : Bytes} (h : Valid s) (hs : s ≠ []) :
    Boundary s (Utf8.itemSize s) := by
  obtain ⟨c, n, hread⟩ := h.exists_decode? hs
  rw [Utf8.itemSize, hread]
  exact h.boundary_of_decode? hread

theorem identSize_boundary (n : Nat) {s : Bytes} (h : Valid s) :
    ∃ k, identSize n s = n + k ∧ Boundary s k := by
  induction n, s using identSize.induct with
  | case1 n => exact ⟨0, by rw [identSize]; rfl, h.boundary_zero⟩
  | case2 n b r hb hi ih =>
    have hfirst : Boundary (b :: r) 1 := h.boundary_one hb
    obtain ⟨k, hk, hstop⟩ := ih hfirst.drop
    refine ⟨1 + k, ?_, hfirst.add_iff.mpr hstop⟩
    rw [identSize, if_pos hb, if_pos hi, hk, Nat.add_assoc]
  | case3 n b r hb hi =>
    exact ⟨0, by rw [identSize, if_pos hb, if_neg hi]; rfl, h.boundary_zero⟩
  | case4 n b r hb c size hd hl ih =>
    have hpos := (Utf8.decode?_size hd).1
    have hfirst := h.boundary_of_decode? hd
    have hdrop : (b :: r).drop size = r.drop (size - 1) := by
      rw [← Nat.sub_add_cancel hpos, List.drop_succ_cons, Nat.add_sub_cancel]
    obtain ⟨k, hk, hstop⟩ := ih (hdrop ▸ hfirst.drop)
    refine ⟨size + k, ?_, hfirst.add_iff.mpr (hdrop ▸ hstop)⟩
    rw [identSize]
    simp only [hb, if_false, hd, hl, if_true]
    rw [hk, Nat.add_assoc]
  | case5 n b r hb c size hd hl =>
    refine ⟨0, ?_, h.boundary_zero⟩
    rw [identSize]
    simp [hb, hd, hl]
  | case6 n b r hb hd =>
    refine ⟨0, ?_, h.boundary_zero⟩
    rw [identSize]
    simp [hb, hd]

theorem Ending.Follows.ascii {e : Ending} {next : Option UInt8} (h : e.Follows next) :
    ∀ b, next = some b → b < 0x80 := by
  rintro b rfl
  cases e with
  | closed =>
    cases h
    decide
  | boundary =>
    obtain ⟨c, ⟨⟩, hc⟩ := h
    exact boundary_ascii hc
  | endOfInput => cases h

/-- A lexeme at the front of a text starts and ends between characters. Its text does so too, unless
it is the first octet of a longer character with a backslash before it. -/
structure Aligned (s : Bytes) (m : Lexeme) : Prop where
  stop : Boundary s m.size
  opening : Boundary s (textStart m.kind)
  text : Boundary s (textStart m.kind + m.text.length) ↔ ¬ SplitText m.kind m.text

/-- A lexeme whose text is all of it. -/
theorem Aligned.verbatim {s : Bytes} {m : Lexeme} (hkind : Token.delimiter? m.kind = none)
    (htext : m.text = s.take m.size) (h : Boundary s m.size) : Aligned s m := by
  have hstart : textStart m.kind = 0 := by simp [textStart, hkind]
  have hlen : m.text.length = m.size := by rw [htext, List.length_take, Nat.min_eq_left h.le]
  refine ⟨h, ?_, ?_⟩
  · rw [hstart]
    exact h.valid.boundary_zero
  · rw [hstart, Nat.zero_add, hlen]
    refine ⟨fun _ hsplits => ?_, fun _ => h⟩
    rw [hsplits.1] at hkind
    cases hkind

theorem word_aligned {n : Nat} {s : Bytes} (h : Boundary s n) : Aligned s (word n s) := by
  refine .verbatim ?_ rfl h
  change Token.delimiter? ((Kind.keyword? (s.take n)).getD .ident) = none
  cases hk : Kind.keyword? (s.take n) with
  | none => rfl
  | some k => exact (keyword?_verbatim hk).2.2

theorem string_aligned {r : Bytes} (h : Valid (34 :: r)) :
    Aligned (34 :: r) (string (34 :: r)) := by
  obtain ⟨k, -, hsize, hle, hnext, -⟩ := stringBody_escapes 0 [] r
  rw [Nat.zero_add] at hsize
  have hopening : Boundary (34 :: r) 1 := h.boundary_one (by decide)
  have hinside : Boundary (34 :: r) (k + 1) :=
    h.boundary_of_stop (Nat.add_le_add_right hle 1) hnext.ascii
  have htext : (string (34 :: r)).text = r.take k := by
    unfold string
    simp only [List.drop_succ_cons, List.drop_zero, hsize]
    split <;> rfl
  have hstart : textStart (string (34 :: r)).kind = 1 := by rw [string_kind]; rfl
  refine ⟨?_, hstart ▸ hopening, ?_⟩
  · unfold string
    simp only [List.drop_succ_cons, List.drop_zero, hsize]
    cases hending : (stringBody 0 [] r).ending with
    | closed =>
      rw [hending] at hnext
      have hlast : (34 :: r)[k + 1]? = some 34 := hnext
      exact (hinside.succ_iff hlast).mpr (by decide)
    | boundary => exact hinside
    | endOfInput => exact hinside
  · rw [hstart, htext, List.length_take, Nat.min_eq_left hle, Nat.add_comm]
    refine ⟨fun _ hsplits => ?_, fun _ => hinside⟩
    have hkind := hsplits.1
    rw [string_kind] at hkind
    cases hkind

/-- What is taken for the one character of a literal ends behind a character, unless it is an escape
of a longer one. -/
theorem charBody_boundary {s : Bytes} (h : Valid s) (hs : s ≠ []) :
    Boundary s (charBody s).1 ↔ ¬ ∃ c, s.take (charBody s).1 = [92, c] ∧ 0x80 ≤ c := by
  obtain ⟨b, r, rfl⟩ := List.exists_cons_of_ne_nil hs
  by_cases hback : b = 92
  · subst hback
    have hfirst : Boundary (92 :: r) 1 := h.boundary_one (by decide)
    match r with
    | [] =>
      refine ⟨fun _ => ?_, fun _ => hfirst⟩
      rintro ⟨c, ⟨⟩, -⟩
    | c :: r' =>
      cases hc : isBoundary c with
      | true =>
        simp only [charBody, hc, if_true]
        refine ⟨fun _ => ?_, fun _ => hfirst⟩
        rintro ⟨c, ⟨⟩, -⟩
      | false =>
        simp only [charBody, hc, Bool.false_eq_true, if_false]
        rw [hfirst.succ_iff rfl]
        constructor
        · rintro hascii ⟨c', ⟨⟩, hhigh⟩
          exact UInt8.not_lt.mpr hhigh hascii
        · intro hwhole
          exact UInt8.not_le.mp fun hhigh => hwhole ⟨c, rfl, hhigh⟩
  · rw [charBody_of_ne hback]
    refine ⟨fun _ => ?_, fun _ => itemSize_boundary h hs⟩
    rintro ⟨c, htext, -⟩
    have hpos := Utf8.itemSize_pos (b :: r)
    rw [← Nat.sub_add_cancel hpos, List.take_succ_cons] at htext
    exact hback (List.cons.inj htext).1

/-- A character literal whose text is the one character behind the quote. -/
theorem charLit_aligned {r : Bytes} (h : Valid (39 :: r)) (hr : r ≠ []) {n : Nat}
    {found : List Finding} (hbody : charBody r = (n, found)) {size : Nat}
    (hsize : Boundary (39 :: r) size) (all : List Finding) :
    Aligned (39 :: r) { kind := .charLit, size, text := r.take n, findings := all } := by
  have hopening : Boundary (39 :: r) 1 := h.boundary_one (by decide)
  have htext := charBody_boundary hopening.drop hr
  have hle := (charBody_size hr).2
  rw [List.drop_one, List.tail_cons, hbody] at htext
  rw [hbody] at hle
  refine ⟨hsize, hopening, ?_⟩
  change Boundary (39 :: r) (1 + (r.take n).length) ↔ ¬ (Kind.charLit = Kind.charLit ∧ _)
  rw [List.length_take, Nat.min_eq_left hle, hopening.add_iff, and_iff_right rfl]
  exact htext

/-- A character literal without text. -/
theorem charLit_aligned_nil {r : Bytes} {size : Nat} (hsize : Boundary (39 :: r) size)
    (found : List Finding) :
    Aligned (39 :: r) { kind := .charLit, size, text := [], findings := found } := by
  have hopening : Boundary (39 :: r) 1 := hsize.valid.boundary_one (by decide)
  refine ⟨hsize, hopening, fun _ hsplits => ?_, fun _ => hopening⟩
  obtain ⟨c, htext, -⟩ := hsplits.2
  cases htext

theorem char_aligned {r : Bytes} (h : Valid (39 :: r)) : Aligned (39 :: r) (char (39 :: r)) := by
  have hopening : Boundary (39 :: r) 1 := h.boundary_one (by decide)
  -- where a quote follows, the literal ends behind that
  have hquoted : ∀ {n}, r[n]? = some 39 → Boundary (39 :: r) (n + 2) := by
    intro n hquote
    have hlast : (39 :: r)[n + 1]? = some 39 := hquote
    exact ((h.boundary_of_ascii hlast (by decide)).succ_iff hlast).mpr (by decide)
  have hreads := char_reads r
  generalize char (39 :: r) = m at hreads ⊢
  cases hreads with
  | cut => exact charLit_aligned_nil hopening _
  | empty => exact charLit_aligned_nil ((hopening.succ_iff rfl).mpr (by decide)) _
  | single hbody hquote =>
    have hr : r ≠ [] := by
      rintro rfl
      cases hquote
    exact charLit_aligned h hr hbody (hquoted hquote) _
  | several hbody hquote =>
    have hr : r ≠ [] := by
      rintro rfl
      cases hquote
    exact charLit_aligned h hr hbody (hquoted hquote) _
  | @unclosed _ n extra found hr hbody hle hend =>
    have hstop : Boundary (39 :: r) (n + extra + 1) :=
      h.boundary_of_stop (Nat.add_le_add_right hle 1) fun c hc => boundary_ascii (hend c hc)
    exact charLit_aligned h hr hbody hstop _

/-- Whatever stands at the front of a text of whole characters, it ends between characters. -/
theorem front?_aligned {s : Bytes} {m : Lexeme} (h : Valid s) (hm : front? s = some m) :
    Aligned s m := by
  have hone : ∀ {b r}, s = b :: r → b < 0x80 → Boundary s 1 := by
    rintro b r rfl hb
    exact h.boundary_one hb
  cases front?_reads hm with
  | @newLine b hb r =>
    refine .verbatim rfl rfl (hone rfl ?_)
    rcases hb with hb | rfl
    · exact boundary_ascii (by simp [isBoundary, hb])
    · decide
  | string r => exact string_aligned h
  | char r => exact char_aligned h
  | @asciiWord b hb r =>
    obtain ⟨k, hk, hstop⟩ := identSize_boundary 0 h
    rw [Nat.zero_add] at hk
    rw [asciiWord, hk]
    exact word_aligned hstop
  | @letterWord s c k hd =>
    have hfirst := h.boundary_of_decode? hd
    obtain ⟨j, hj, hstop⟩ := identSize_boundary k hfirst.drop
    rw [hj]
    exact word_aligned (hfirst.add_iff.mpr hstop)
  | @number b hb r =>
    exact .verbatim rfl (List.prefix_iff_eq_take.mp (List.takeWhile_prefix _))
      (takeWhile_boundary h fun _ => isIdentByte_ascii)
  | arrow r =>
    exact .verbatim rfl rfl (((hone rfl (by decide)).succ_iff rfl).mpr (by decide))
  | @mark b k hk r =>
    exact .verbatim (punctuation?_verbatim hk).2.2 rfl (hone rfl (punctuation?_ascii hk))
  | malformed hs => exact .verbatim rfl rfl (itemSize_boundary h hs)

end Lexeme

section Messages

theorem Code.template_ascii (c : Code) : ∀ b ∈ c.template, b < 0x80 := by
  unfold template info?
  split <;> exact Utf8.ascii_of_all (by decide)

theorem Bytes.hexPadded_ascii (width n : Nat) : ∀ b ∈ hexPadded width n, b < 0x80 := by
  have hdigit : ∀ d < 16, hexDigit d < 0x80 := by decide
  induction width generalizing n with
  | zero => nofun
  | succ width ih =>
    intro b hb
    rcases List.mem_append.mp hb with hb | hb
    · exact ih _ b hb
    · rw [List.mem_singleton.mp hb]
      exact hdigit _ (Nat.mod_lt n (by decide))

/-- Only an argument that is a text can bring what is no character into a message. -/
theorem Arg.render_valid {a : Arg} (h : ∀ t, a = .text t → Valid t) : Valid a.render := by
  have hdecimal : ∀ n, Valid (Bytes.decimal n) := fun n =>
    .of_ascii fun b hb => Bytes.isDecimalDigit_ascii (Bytes.decimal_digit n b hb)
  cases a with
  | int v =>
    cases v with
    | ofNat n => exact hdecimal n
    | negSucc n => exact Valid.append (Utf8.Valid.singleton_iff.mpr (by decide)) (hdecimal (n + 1))
  | uint n => exact hdecimal n
  | char b =>
    rw [render]
    split
    · rename_i hb
      exact Utf8.Valid.singleton_iff.mpr (UInt8.lt_trans hb.2 (by decide))
    · have hmark : Valid [92, 120] := .of_ascii (Utf8.ascii_of_all rfl)
      exact hmark.append (.of_ascii (Bytes.hexPadded_ascii 2 b.toNat))
  | text t => exact h t rfl
  | empty => exact .nil

theorem Template.expandOnto_valid {template : Bytes} {args : List Arg} {acc s m : Bytes}
    (h : expandOnto template args acc s = .ok m) (hacc : Valid acc.reverse) (hs : ∀ b ∈ s, b < 0x80)
    (hargs : ∀ a ∈ args, Valid a.render) : Valid m := by
  induction s using names.induct generalizing acc with
  | case1 =>
    cases h
    exact hacc
  | case2 b r hb ih =>
    rw [expandOnto.eq_def] at h
    simp only [hb, ne_eq, not_false_eq_true, if_true] at h
    obtain ⟨hascii, hr⟩ := List.forall_mem_cons.mp hs
    refine ih h ?_ hr
    rw [List.reverse_cons]
    exact hacc.append (Utf8.Valid.singleton_iff.mpr hascii)
  | case3 b hb => simp [expandOnto, hb] at h
  | case4 b hb d r ih =>
    rw [expandOnto.eq_def] at h
    simp only [hb, if_false] at h
    split at h
    · split at h
      · rename_i a ha
        refine ih h ?_ fun b hb => hs b (by simp [hb])
        rw [List.reverse_append, List.reverse_reverse]
        exact hacc.append (hargs a (List.mem_of_getElem? ha))
      · cases h
    · cases h

/-- The message of a finding has whole characters when the texts that it cites have. -/
theorem Finding.message_valid {f : Finding} (h : f.Reportable)
    (hargs : ∀ t, Arg.text t ∈ f.args → Valid t) (file : FileId) (off : Nat) :
    Valid (f.diagnostic file off).message := by
  obtain ⟨m, hm⟩ := h
  have hmessage : (f.diagnostic file off).message = m := by
    rw [Finding.diagnostic, hm]
    rfl
  rw [hmessage]
  refine Template.expandOnto_valid hm .nil f.code.template_ascii ?_
  intro a ha
  exact Arg.render_valid fun t ht => hargs t (ht ▸ ha)

/-- An unknown escape is shown by two octets, which have to be two characters. -/
theorem Finding.escape_message_iff (start : Nat) (c : UInt8) (file : FileId) (off : Nat) :
    Valid (Finding.diagnostic file off ⟨Code.unknownEscape, start, 2, [.text [92, c]]⟩).message ↔
      c < 0x80 := by
  constructor
  · intro h
    have hlead : Valid "unknown escape sequence '" := .of_ascii (Utf8.ascii_of_all (by decide))
    have hcited : Valid [92, c, 39] := hlead.of_append h
    have hbehind : Boundary [92, c, 39] 1 := hcited.boundary_one (by decide)
    -- the quote that closes the citation is a character of its own
    have hquote : Boundary [92, c, 39] 2 := hcited.boundary_of_ascii (b := 39) rfl (by decide)
    exact (hbehind.succ_iff rfl).mp hquote
  · intro hc
    refine Finding.message_valid (Finding.reportable_of_names (by rfl)) ?_ file off
    intro t ht
    rw [Arg.text.inj (List.mem_singleton.mp ht)]
    exact .of_ascii (by simpa using hc)

end Messages

/-- What is found on a lexeme starts between characters. It ends there, and is reported in whole
characters, unless it is the escape of a longer one. -/
theorem Lexeme.finding_aligned {s : Bytes} {m : Lexeme} {f : Finding} (h : Valid s)
    (hm : front? s = some m) (hf : f ∈ m.findings) :
    Boundary s f.start ∧ (Boundary s (f.start + f.size) ↔ ¬ f.SplitEscape s) ∧
      ∀ file off, Valid (f.diagnostic file off).message ↔ ¬ f.SplitEscape s := by
  have hitems := front?_itemised hm
  by_cases hcode : f.code = Code.unknownEscape
  · obtain ⟨c, hfinding, hback, hnext, -⟩ := hitems.escape hf hcode
    have hstart := h.boundary_of_ascii hback (by decide)
    have hbehind := (hstart.succ_iff hback).mpr (by decide)
    have hwhole : ¬ f.SplitEscape s ↔ c < 0x80 := by
      simp [Finding.SplitEscape, hcode, hnext]
    have hsize : f.size = 2 := by rw [hfinding]
    rw [hwhole, hsize]
    refine ⟨hstart, hbehind.succ_iff hnext, ?_⟩
    intro file off
    rw [hfinding]
    exact Finding.escape_message_iff f.start c file off
  · obtain ⟨hstart, hsize, hargs⟩ := hitems.whole hf hcode
    have hstop := (front?_aligned h hm).stop
    have hwhole : ¬ f.SplitEscape s := fun hsplit => hcode hsplit.1
    rw [iff_true_right hwhole, hstart, hsize, Nat.zero_add]
    refine ⟨h.boundary_zero, hstop, ?_⟩
    intro file off
    rw [iff_true_right hwhole]
    refine Finding.message_valid ((front?_fronts hm).reportable hf) ?_ file off
    intro t ht
    rw [hargs t ht]
    exact hstop.take

/-- Reading goes from one place between characters to the next. -/
theorem Reading.ofText_aligned {content : Bytes} {off : Nat} (h : Boundary content off) :
    (∀ p ∈ (ofText off (content.drop off)).lexemes, Boundary content p.off) ∧
      Boundary content (ofText off (content.drop off)).stop := by
  generalize hs : content.drop off = s
  induction off, s using induction with
  | stop off s hnone =>
    subst hs
    rw [ofText_none hnone]
    exact ⟨nofun, h.add_iff.mpr (Lexeme.takeWhile_boundary h.drop fun _ => Lexeme.isBlank_ascii)⟩
  | more off s m hsome ih =>
    subst hs
    have hfirst : Boundary content (off + Lexeme.gap (content.drop off)) :=
      h.add_iff.mpr (Lexeme.takeWhile_boundary h.drop fun _ => Lexeme.isBlank_ascii)
    have hnext := hfirst.add_iff.mpr
      (Lexeme.front?_aligned hfirst.drop (by rwa [← List.drop_drop])).stop
    obtain ⟨hlexemes, hstop⟩ := ih hnext (by rw [List.drop_drop, List.drop_drop, Nat.add_assoc])
    rw [ofText_some hsome]
    exact ⟨List.forall_mem_cons.mpr ⟨hfirst, hlexemes⟩, hstop⟩

/-- A token starts and ends between characters, and so does its text, which then has whole
characters, unless it splits one. -/
structure Token.Aligned (f : File) (t : Token) : Prop where
  start : Boundary f.content t.span.start.toNat
  stop : Boundary f.content t.span.stop.toNat
  placed : t.text <+: f.content.drop (t.span.start.toNat + textStart t.kind)
  opening : Boundary f.content (t.span.start.toNat + textStart t.kind)
  closing : Boundary f.content (t.span.start.toNat + textStart t.kind + t.text.length) ↔
    ¬ SplitText t.kind t.text
  valid : Valid t.text ↔ ¬ SplitText t.kind t.text

/-- A diagnostic starts between characters. It ends there, and its message has whole characters,
unless it splits one. -/
structure Diagnostic.Aligned (f : File) (d : Diagnostic) : Prop where
  start : Boundary f.content d.primary.start.toNat
  stop : Boundary f.content d.primary.stop.toNat ↔ ¬ d.SplitEscape f
  valid : Valid d.message ↔ ¬ d.SplitEscape f

theorem Token.TextOf.isPrefix {kind : Kind} {text s : Bytes} {n : Nat}
    (h : TextOf kind text (s.take n)) : text <+: s.drop (textStart kind) := by
  cases hk : delimiter? kind with
  | none =>
    simp only [TextOf, hk] at h
    simp only [textStart, hk, Option.isSome_none, Bool.false_eq_true, if_false, List.drop_zero, h]
    exact List.take_prefix n s
  | some q =>
    simp only [TextOf, hk] at h
    simp only [textStart, hk, Option.isSome_some, if_true]
    refine h.2.trans ?_
    rw [← List.drop_one, List.drop_take]
    exact List.take_prefix _ _

namespace File

variable (f : File) (h : Valid f.content)

include h

theorem boundary_of_mem {p : Placed} (hp : p ∈ f.reading.lexemes) : Boundary f.content p.off :=
  (Reading.ofText_aligned h.boundary_zero).1 p hp

theorem token_aligned {p : Placed} (hp : p ∈ f.reading.lexemes) : (p.token f.id).Aligned f := by
  have hoff := f.boundary_of_mem h hp
  have haligned := Lexeme.front?_aligned hoff.drop (f.front?_of_mem hp)
  have hstart : (p.token f.id).span.start.toNat = p.off := f.toNat_offset hoff.le
  have hstop : (p.token f.id).span.stop.toNat = p.off + p.lexeme.size :=
    f.toNat_offset (f.stop_le_of_mem hp)
  have hplaced := (f.reading_within.fronts p hp).text.isPrefix
  rw [List.drop_drop] at hplaced
  have hopening := hoff.add_iff.mpr haligned.opening
  have hclosing := hoff.add_iff.trans haligned.text
  have htext : (f.content.drop (p.off + Token.textStart p.lexeme.kind)).take p.lexeme.text.length =
      p.lexeme.text := (List.prefix_iff_eq_take.mp hplaced).symm
  refine ⟨?_, ?_, ?_, ?_, ?_, ?_⟩
  · rw [hstart]
    exact hoff
  · rw [hstop]
    exact hoff.add_iff.mpr haligned.stop
  · rw [hstart]
    exact hplaced
  · rw [hstart]
    exact hopening
  · rw [hstart, Nat.add_assoc]
    exact hclosing
  · have hle : p.off + Token.textStart p.lexeme.kind + p.lexeme.text.length ≤ f.content.length := by
      have hlen := hplaced.length_le
      have hopen := hopening.le
      rw [List.length_drop] at hlen
      omega
    have hslice := hopening.slice_iff hle
    rw [htext, Nat.add_assoc] at hslice
    exact hslice.symm.trans hclosing

theorem diagnostic_aligned {p : Placed} (hp : p ∈ f.reading.lexemes) {d : Diagnostic}
    (hd : d ∈ p.diagnostics f.id) : d.Aligned f := by
  obtain ⟨g, hg, rfl⟩ := List.mem_map.mp hd
  have hoff := f.boundary_of_mem h hp
  obtain ⟨hstart, hstop⟩ := f.primary_toNat hp hg
  have hsplit : (g.diagnostic f.id p.off).SplitEscape f ↔ g.SplitEscape (f.content.drop p.off) := by
    rw [Diagnostic.SplitEscape, Finding.SplitEscape, hstart, List.getElem?_drop, Nat.add_assoc]
    rfl
  obtain ⟨hfirst, hlast, hmessage⟩ := Lexeme.finding_aligned hoff.drop (f.front?_of_mem hp) hg
  rw [← hsplit] at hlast
  refine ⟨?_, ?_, (hmessage f.id p.off).trans (not_congr hsplit.symm)⟩
  · rw [hstart]
    exact hoff.add_iff.mpr hfirst
  · rw [hstop, Nat.add_assoc]
    exact hoff.add_iff.trans hlast

/-- A scan of whole characters. Every token starts and ends between characters, and its text has
whole characters, unless that is a backslash and the first octet of a longer character between
quotes. Every diagnostic starts between characters; it ends there, and its message has whole
characters, unless it is the unknown escape of a longer character, and then neither holds. -/
theorem scan_aligned : ∃ ts ds, f.scan = .ok (ts, ds) ∧ (∀ t ∈ ts, t.Aligned f) ∧
    ∀ d ∈ ds, d.Aligned f := by
  refine ⟨_, _, f.scan_eq, ?_, ?_⟩
  · intro t ht
    rcases List.mem_append.mp ht with ht | ht
    · obtain ⟨p, hp, rfl⟩ := List.mem_map.mp ht
      exact f.token_aligned h hp
    · have hstop : Boundary f.content f.reading.stop := (Reading.ofText_aligned h.boundary_zero).2
      rw [← f.toNat_offset hstop.le] at hstop
      have hwhole : ¬ Token.SplitText .eof [] := nofun
      rw [List.mem_singleton.mp ht]
      exact ⟨hstop, hstop, List.nil_prefix, hstop, ⟨fun _ => hwhole, fun _ => hstop⟩,
        ⟨fun _ => hwhole, fun _ => .nil⟩⟩
  · intro d hd
    obtain ⟨p, hp, hd⟩ := List.mem_flatMap.mp hd
    exact f.diagnostic_aligned h hp hd

omit h

/-- A character literal and a string that hold an escaped letter of two octets. -/
theorem scan_aligned_escaped :
    let f := File.make 0 "escaped.kj" [39, 92, 0xC3, 0xA9, 39, 34, 92, 0xC3, 0xA9, 34] 0 (by decide)
    Valid f.content ∧ ∃ ts ds, f.scan = .ok (ts, ds) ∧ (∀ t ∈ ts, t.Aligned f) ∧
      ∀ d ∈ ds, d.Aligned f := by
  intro f
  have h : Valid f.content := ⟨[39, 92, 233, 39, 34, 92, 233, 34].map Char.ofNat, by decide⟩
  exact ⟨h, f.scan_aligned h⟩

/-- An escaped letter of two octets in a string: what is reported ends inside of the letter, and the
message is no text. -/
theorem scan_splits_letter :
    let f := File.make 0 "escaped.kj" [34, 92, 0xC3, 0xA9, 34] 0 (by decide)
    Valid f.content ∧ ∃ ts d, f.scan = .ok (ts, [d]) ∧
      ¬ Boundary f.content d.primary.stop.toNat ∧ ¬ Valid d.message := by
  intro f
  have h : Valid f.content := ⟨[34, 92, 233, 34].map Char.ofNat, by decide⟩
  have hback : Boundary f.content 1 := h.boundary_of_ascii (b := 92) rfl (by decide)
  have hbehind : Boundary f.content 2 := (hback.succ_iff rfl).mpr (by decide)
  refine ⟨h, _, Finding.diagnostic 0 0 ⟨Code.unknownEscape, 1, 2, [.text [92, 0xC3]]⟩,
    (rfl : f.scan = .ok (_, _)), ?_, ?_⟩
  · intro hstop
    exact absurd ((hbehind.succ_iff rfl).mp hstop) (by decide)
  · rw [Finding.escape_message_iff]
    decide

end File

end FrontEnd
