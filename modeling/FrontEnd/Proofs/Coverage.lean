import FrontEnd.Proofs.Boundary
import FrontEnd.Proofs.TokenStream

/-!
Scanning loses nothing. A text ends at its first zero octet, or where it ends if it has none; up to
there every octet belongs to one token, or is a blank that belongs to none. What stands behind a
zero octet is as good as not there.
-/
namespace FrontEnd

/-- The octet at an offset is one of those that the span covers. -/
def Span.covers (i : Nat) (s : Span) : Bool := s.start.toNat ≤ i && i < s.stop.toNat

def Placed.covers (i : Nat) (p : Placed) : Bool := p.off ≤ i && i < p.stop

theorem Placed.covers_iff {i : Nat} {p : Placed} : p.covers i = true ↔ p.off ≤ i ∧ i < p.stop := by
  simp [covers]

theorem Lexeme.isBlank_iff {b : UInt8} : isBlank b = true ↔ b ∈ [32, 9, 11, 12] := by
  simp [isBlank, or_assoc]

/-- The octets of the gap in front of a text are blanks. -/
theorem Lexeme.blank_of_lt_gap {s : Bytes} {i : Nat} (h : i < gap s) :
    ∃ b, s[i]? = some b ∧ isBlank b = true := by
  have hlen : i < s.length := Nat.lt_of_lt_of_le h (gap_le s)
  refine ⟨s[i], List.getElem?_eq_getElem hlen, ?_⟩
  have hget : (s.takeWhile isBlank)[i] = s[i] := (List.takeWhile_prefix isBlank).getElem h
  exact hget ▸ List.all_eq_true.mp List.all_takeWhile _ (List.getElem_mem h)

namespace Reading

/-- Nothing is left out: an octet is part of one lexeme, or it is a blank and part of none. -/
def Accounts (content : Bytes) (r : Reading) (i : Nat) : Prop :=
  r.lexemes.countP (Placed.covers i) = 1 ∨
    r.lexemes.countP (Placed.covers i) = 0 ∧ ∃ b, content[i]? = some b ∧ Lexeme.isBlank b = true

/-- Lexemes behind an octet do not cover it. -/
theorem countP_eq_zero {ps : List Placed} {i : Nat} (h : ∀ p ∈ ps, i < p.off) :
    ps.countP (Placed.covers i) = 0 := by
  apply List.countP_eq_zero.mpr
  intro p hp hc
  have hlow := (Placed.covers_iff.mp hc).1
  have hbehind := h p hp
  omega

/-- One lexeme more: the blanks before it are blanks, its own octets belong to it, and the rest is
as the rest of the reading accounts for it. -/
theorem Accounts.cons {content : Bytes} {off stop : Nat} {p : Placed} {ps : List Placed}
    (hgap : ∀ i, off ≤ i → i < p.off → ∃ b, content[i]? = some b ∧ Lexeme.isBlank b = true)
    (hafter : ∀ q ∈ ps, p.stop ≤ q.off)
    (hrest : ∀ i, p.stop ≤ i → i < stop → Accounts content ⟨ps, stop⟩ i) {i : Nat}
    (hlow : off ≤ i) (hhigh : i < stop) : Accounts content ⟨p :: ps, stop⟩ i := by
  have hsplit : (p :: ps).countP (Placed.covers i) =
      ps.countP (Placed.covers i) + if p.covers i then 1 else 0 := List.countP_cons
  unfold Accounts
  rcases Nat.lt_or_ge i p.stop with hlt | hge
  · have hps : ps.countP (Placed.covers i) = 0 :=
      countP_eq_zero fun q hq => Nat.lt_of_lt_of_le hlt (hafter q hq)
    rcases Nat.lt_or_ge i p.off with hbefore | hin
    · have hp : p.covers i = false := by
        simp only [Placed.covers, Bool.and_eq_false_iff, decide_eq_false_iff_not]
        omega
      right
      exact ⟨by simp only [hsplit, hps, hp]; rfl, hgap i hlow hbefore⟩
    · have hp : p.covers i = true := Placed.covers_iff.mpr ⟨hin, hlt⟩
      left
      simp only [hsplit, hps, hp, if_true]
  · have hp : p.covers i = false := by
      simp only [Placed.covers, Bool.and_eq_false_iff, decide_eq_false_iff_not]
      omega
    have hsame : (p :: ps).countP (Placed.covers i) = ps.countP (Placed.covers i) := by
      simp only [hsplit, hp]
      rfl
    simp only [hsame]
    exact hrest i hge hhigh

theorem ofText_accounts (content : Bytes) {off : Nat} (hoff : off ≤ content.length) {i : Nat}
    (hlow : off ≤ i) (hhigh : i < (ofText off (content.drop off)).stop) :
    Accounts content (ofText off (content.drop off)) i := by
  have hblank : ∀ off i, off ≤ i → i < off + Lexeme.gap (content.drop off) →
      ∃ b, content[i]? = some b ∧ Lexeme.isBlank b = true := by
    intro off i hlow hhigh
    have hlt : i - off < Lexeme.gap (content.drop off) := by omega
    obtain ⟨b, hb, hblank⟩ := Lexeme.blank_of_lt_gap hlt
    rw [List.getElem?_drop, Nat.add_sub_cancel' hlow] at hb
    exact ⟨b, hb, hblank⟩
  generalize hs : content.drop off = s at hhigh ⊢
  induction off, s using induction generalizing i with
  | stop off s h =>
    subst hs
    rw [ofText_none h] at hhigh ⊢
    exact .inr ⟨rfl, hblank off i hlow hhigh⟩
  | more off s m h ih =>
    subst hs
    have hsize := (Lexeme.front?_fronts h).size_le
    have hgap := Lexeme.gap_le (content.drop off)
    simp only [List.length_drop] at hsize hgap
    have hdrop : content.drop (off + Lexeme.gap (content.drop off) + m.size) =
        ((content.drop off).drop (Lexeme.gap (content.drop off))).drop m.size := by
      rw [List.drop_drop, List.drop_drop, Nat.add_assoc]
    have hstop : off + Lexeme.gap (content.drop off) + m.size ≤ content.length := by omega
    have hwithin := ofText_within content hstop
    rw [hdrop] at hwithin
    rw [ofText_some h] at hhigh ⊢
    refine Accounts.cons (hblank off) hwithin.after ?_ hlow hhigh
    intro j hj hj'
    exact ih hstop hj hdrop hj'

/-- Without a zero octet a text is read to its end. -/
theorem ofText_stop_eq (off : Nat) {s : Bytes} (hzero : 0 ∉ s) :
    (ofText off s).stop = off + s.length := by
  induction off, s using induction with
  | stop off s h => rw [ofText_none h, Lexeme.gap_eq_length hzero h]
  | more off s m h ih =>
    have hsize := (Lexeme.front?_fronts h).size_le
    have hgap := Lexeme.gap_le s
    have hrest := ih fun hmem => hzero (List.mem_of_mem_drop (List.mem_of_mem_drop hmem))
    rw [ofText_some h, hrest]
    simp only [List.length_drop] at hsize ⊢
    omega

/-- A zero octet ends a text. -/
theorem ofText_zero (off : Nat) {s : Bytes} (hzero : 0 ∉ s) (t : Bytes) :
    ofText off (s ++ 0 :: t) = ⟨(ofText off s).lexemes.map Placed.endLine, off + s.length⟩ := by
  have hnone : Lexeme.front? ((0 :: t).drop (Lexeme.gap (0 :: t))) = none := rfl
  rw [ofText_boundary rfl t off hzero, ofText_none hnone, List.append_nil]
  rfl

end Reading

namespace File

/-- Where the text of a file ends: at its first zero octet, or behind its last octet. -/
def textStop (f : File) : Nat := f.content.idxOf 0

theorem textStop_le (f : File) : f.textStop ≤ f.content.length := List.idxOf_le_length

theorem zero_not_mem_text (f : File) : 0 ∉ f.content.take f.textStop := by
  intro hmem
  obtain ⟨i, hi, hget⟩ := List.mem_iff_getElem.mp hmem
  rw [List.length_take] at hi
  rw [List.getElem_take] at hget
  have hlt : i < f.content.findIdx (· == 0) := Nat.lt_of_lt_of_le hi (Nat.min_le_left _ _)
  have hfirst := List.not_of_lt_findIdx hlt
  simp [hget] at hfirst

/-- A content is its text, and behind that nothing or a zero octet and more. -/
theorem content_eq (f : File) :
    f.content = f.content.take f.textStop ∨
      ∃ t, f.content = f.content.take f.textStop ++ 0 :: t := by
  rcases Nat.lt_or_ge f.textStop f.content.length with hlt | hge
  · right
    have hzero : f.content[f.textStop] = 0 := List.getElem_idxOf hlt
    refine ⟨f.content.drop (f.textStop + 1), ?_⟩
    rw [← hzero, ← List.drop_eq_getElem_cons hlt, List.take_append_drop]
  · left
    rw [List.take_of_length_le hge]

variable {f g : File}

/-- What stands behind the text of a file adds no lexeme. -/
theorem reading_text (hg : g.content = f.content.take f.textStop) :
    f.reading.lexemes.map (Placed.token f.id) = g.reading.lexemes.map (Placed.token f.id) ∧
      f.reading.stop = f.textStop ∧ g.reading.stop = f.textStop := by
  have hzero : 0 ∉ g.content := hg ▸ f.zero_not_mem_text
  have hlen : g.content.length = f.textStop := by
    rw [hg, List.length_take]
    exact Nat.min_eq_left f.textStop_le
  have hstop : g.reading.stop = f.textStop := by
    rw [reading, Reading.ofText_stop_eq 0 hzero, hlen, Nat.zero_add]
  rcases f.content_eq with hall | ⟨t, hcut⟩
  · have hsame : f.reading = g.reading := by rw [reading, reading, hg, ← hall]
    exact ⟨by rw [hsame], by rw [hsame, hstop], hstop⟩
  · rw [← hg] at hcut
    have hread : f.reading = ⟨g.reading.lexemes.map Placed.endLine, f.textStop⟩ := by
      rw [reading, hcut, Reading.ofText_zero 0 hzero, hlen, Nat.zero_add]
      rfl
    -- what the end of the input changes is only the reason given for an open string
    have htokens : (g.reading.lexemes.map Placed.endLine).map (Placed.token f.id) =
        g.reading.lexemes.map (Placed.token f.id) := by
      rw [List.map_map]
      rfl
    exact ⟨by rw [hread, htokens], by rw [hread], hstop⟩

theorem stream_eq_of_text (hid : g.id = f.id) (hg : g.content = f.content.take f.textStop) :
    f.stream = g.stream := by
  obtain ⟨htokens, hstop, hstop'⟩ := reading_text hg
  simp only [stream, Reading.tokens, hid, htokens, hstop, hstop']

theorem reading_stop (f : File) : f.reading.stop = f.textStop := by
  have hfits : FitsOffsets (f.content.take f.textStop) := by
    have hle : (f.content.take f.textStop).length ≤ f.content.length := List.length_take_le' _ _
    have := f.fits
    unfold FitsOffsets at *
    omega
  have hg : (File.make f.id f.path _ f.flags hfits).content = f.content.take f.textStop := rfl
  exact (reading_text hg).2.1

theorem token_covers_iff (f : File) {p : Placed} (hp : p ∈ f.reading.lexemes) (i : Nat) :
    (p.token f.id).span.covers i = p.covers i := by
  have hstop : p.stop ≤ f.content.length :=
    Nat.le_trans (f.reading_within.before p hp) f.reading_within.stop_le
  have hoff : p.off ≤ f.content.length := Nat.le_trans (Nat.le_add_right _ _) hstop
  simp only [Span.covers, Placed.covers, Placed.token, f.toNat_offset hoff, f.toNat_offset hstop]

/-- The tokens of a file cover an octet as often as its lexemes do: the end covers none. -/
theorem countP_stream (f : File) (i : Nat) :
    f.stream.countP (·.span.covers i) = f.reading.lexemes.countP (Placed.covers i) := by
  have hend : List.countP (fun t : Token => t.span.covers i)
      [⟨.eof, ⟨f.id, f.reading.stop.toUInt32, f.reading.stop.toUInt32⟩, []⟩] = 0 := by
    apply List.countP_eq_zero.mpr
    intro t ht
    rw [List.mem_singleton.mp ht]
    simp only [Span.covers, Bool.and_eq_true, decide_eq_true_eq]
    omega
  rw [stream, Reading.tokens, List.countP_append, hend, Nat.add_zero, List.countP_map]
  apply List.countP_congr
  intro p hp
  rw [Function.comp_apply, f.token_covers_iff hp]

end File

/-- Scanning gives the end at the first zero octet, or behind the last octet if there is none. Every
octet before it lies in one token, or it is a blank and lies in none. The same tokens come out of
the text that is cut off there. -/
theorem Lexer.all_covers {σ : Type} (f : File) {b : Option (Builder σ)}
    (hidle : ∀ x ∈ b, x.pending = none) :
    ∃ body last lx, (Lexer.new f b).all = .ok (body ++ [last], lx) ∧
      last = ⟨.eof, ⟨f.id, f.textStop.toUInt32, f.textStop.toUInt32⟩, []⟩ ∧
      last.span.start.toNat = f.textStop ∧
      (∀ i < f.textStop, (body ++ [last]).countP (·.span.covers i) = 1 ∨
        (body ++ [last]).countP (·.span.covers i) = 0 ∧
          ∃ c, f.content[i]? = some c ∧ c ∈ [32, 9, 11, 12]) ∧
      ∀ (g : File) (b' : Option (Builder σ)), g.id = f.id → g.content = f.content.take f.textStop →
        (∀ x ∈ b', x.pending = none) → ∃ lx', (Lexer.new g b').all = .ok (body ++ [last], lx') := by
  obtain ⟨lx, hall, -⟩ := Lexer.allTelling_new (fun _ s => s) f hidle
  refine ⟨_, _, lx, hall, by rw [f.reading_stop], ?_, ?_, ?_⟩
  · change f.reading.stop.toUInt32.toNat = f.textStop
    rw [f.reading_stop, f.toNat_offset f.textStop_le]
  · intro i hi
    rw [← f.reading_stop] at hi
    have haccount := Reading.ofText_accounts f.content (Nat.zero_le _) (Nat.zero_le i) hi
    change f.stream.countP _ = 1 ∨ f.stream.countP _ = 0 ∧ _
    rw [f.countP_stream]
    simp only [← Lexeme.isBlank_iff]
    exact haccount
  · intro g b' hid hg hidle'
    obtain ⟨lx', hall', -⟩ := Lexer.allTelling_new (fun _ s => s) g hidle'
    rw [← File.stream_eq_of_text hid hg] at hall'
    exact ⟨lx', hall'⟩

/-- A tab before a word, a blank inside an open string, and a zero octet that ends it. -/
theorem Lexer.all_covers_zero :
    let f := File.make 3 "zero.kj" [9, 120, 32, 34, 97, 32, 0, 121] 0 (by decide)
    let b : Builder Bag := { report := Reporter.bag, sink := { limit := 1 } }
    f.textStop = 6 ∧ (∀ x ∈ some b, x.pending = none) ∧
      ∃ body last lx, (Lexer.new f (some b)).all = .ok (body ++ [last], lx) ∧
        last = ⟨.eof, ⟨f.id, f.textStop.toUInt32, f.textStop.toUInt32⟩, []⟩ ∧
        last.span.start.toNat = f.textStop ∧
        (∀ i < f.textStop, (body ++ [last]).countP (·.span.covers i) = 1 ∨
          (body ++ [last]).countP (·.span.covers i) = 0 ∧
            ∃ c, f.content[i]? = some c ∧ c ∈ [32, 9, 11, 12]) ∧
        ∀ (g : File) (b' : Option (Builder Bag)), g.id = f.id →
          g.content = f.content.take f.textStop → (∀ x ∈ b', x.pending = none) →
            ∃ lx', (Lexer.new g b').all = .ok (body ++ [last], lx') :=
  ⟨by decide, by simp, Lexer.all_covers _ (by simp)⟩

end FrontEnd
