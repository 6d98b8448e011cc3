import FrontEnd.Proofs.TokenStream
import FrontEnd.Scan.Walk

/-!
A walk over the buffer of a file never goes wrong. Wherever the cursor stands in a file, each
routine looks and cuts inside the file, gets on, and finds the lexeme that the octets left there
begin with. So the walk over a whole file ends, and with the tokens of its reading.
-/
namespace FrontEnd.Walk

/-- The cursor of a file at an offset. -/
def cursorAt (f : File) (off : Nat) : Cursor := { Cursor.new f with off := off.toUInt32 }

/-- The octets that a content has from an offset on. -/
structure Left (f : File) (off : Nat) (s : Bytes) : Prop where
  off_le : off ≤ f.content.length
  drop_eq : f.content.drop off = s

theorem ok_bind {ε α β : Type} (a : α) (k : α → Except ε β) : (Except.ok a >>= k) = k a := rfl

theorem ok_map {ε α β : Type} (g : α → β) (a : α) :
    (g <$> (Except.ok a : Except ε α)) = .ok (g a) := rfl

theorem ok_mapError {ε ε' α : Type} (g : ε → ε') (a : α) :
    (Except.ok a : Except ε α).mapError g = .ok a := rfl

variable {f : File} {off : Nat} {s : Bytes} {b : UInt8} {r : Bytes}

theorem Left.length_eq (h : Left f off s) : f.content.length = off + s.length := by
  have hle := h.off_le
  have hlen := congrArg List.length h.drop_eq
  rw [List.length_drop] at hlen
  omega

theorem Left.drop (h : Left f off s) {n : Nat} (hn : n ≤ s.length) :
    Left f (off + n) (s.drop n) where
  off_le := by
    have := h.length_eq
    omega
  drop_eq := by rw [← h.drop_eq, List.drop_drop]

theorem Left.tail (h : Left f off (b :: r)) : Left f (off + 1) r := h.drop (n := 1) (by simp)

theorem Left.getElem? (h : Left f off (b :: r)) : f.content[off]? = some b := by
  rw [← List.head?_drop, h.drop_eq]
  rfl

theorem toNat_off (h : Left f off s) : (cursorAt f off).off.toNat = off := f.toNat_offset h.off_le

theorem toNat_stop (f : File) (off : Nat) : (cursorAt f off).stop.toNat = f.content.length :=
  f.toNat_offset (Nat.le_refl _)

theorem off_lt_stop (h : Left f off (b :: r)) : (cursorAt f off).off < (cursorAt f off).stop := by
  rw [UInt32.lt_iff_toNat_lt, toNat_off h, toNat_stop, h.length_eq]
  simp

theorem atEnd_cons (h : Left f off (b :: r)) : (cursorAt f off).atEnd = false := by
  simpa [Cursor.atEnd] using off_lt_stop h

theorem atEnd_nil (h : Left f off []) : (cursorAt f off).atEnd = true := by
  simp only [Cursor.atEnd, decide_eq_true_eq]
  rw [UInt32.le_iff_toNat_le, toNat_off h, toNat_stop, h.length_eq]
  simp

theorem peek_ok (h : Left f off (b :: r)) : (cursorAt f off).peek = .ok b := by
  have hget : (cursorAt f off).buffer[(cursorAt f off).off.toNat]? = some b := by
    rw [toNat_off h]
    change (f.content ++ [sentinel]).toArray[off]? = some b
    have hlt : off < f.content.length := by simp [h.length_eq]
    rw [List.getElem?_toArray, List.getElem?_append_left hlt, h.getElem?]
  simp only [Cursor.peek, Cursor.read, hget]

theorem peek_cons (h : Left f off (b :: r)) : peek (cursorAt f off) = .ok b := by
  rw [peek, peek_ok h]
  rfl

/-- At the end of the content the cursor is at the sentinel, inside the buffer. -/
theorem peek_nil (h : Left f off []) : peek (cursorAt f off) = .ok sentinel := by
  have hget : (cursorAt f off).buffer[(cursorAt f off).off.toNat]? = some sentinel := by
    rw [toNat_off h]
    change (f.content ++ [sentinel]).toArray[off]? = some sentinel
    have hlen : f.content.length = off := by simpa using h.length_eq
    rw [List.getElem?_toArray, List.getElem?_append_right (by omega), hlen, Nat.sub_self]
    rfl
  simp only [peek, Cursor.peek, Cursor.read, hget]
  rfl

theorem off_succ (h : Left f off (b :: r)) :
    (cursorAt f off).off + 1 = (cursorAt f (off + 1)).off := by
  apply UInt32.toNat_inj.mp
  have hfits := f.fits
  unfold FitsOffsets at hfits
  rw [UInt32.toNat_add, toNat_off h, toNat_off h.tail]
  have := h.tail.off_le
  simp
  omega

theorem bump_cons (h : Left f off (b :: r)) :
    bump (cursorAt f off) = .ok (cursorAt f (off + 1)) := by
  simp only [bump, Cursor.bump, peek_ok h, Except.map, ok_mapError, off_lt_stop h, if_true,
    off_succ h]
  rfl

theorem off_lt {off' : Nat} (hoff : off < off') (hle : off' ≤ f.content.length) :
    (cursorAt f off).off < (cursorAt f off').off := f.offset_lt hoff hle

/-- A round that moved the cursor forward lets the loop go on. -/
theorem again_eq {off' : Nat} (hoff : off < off') (hle : off' ≤ f.content.length) {α : Type}
    (loop : (cursorAt f off).off < (cursorAt f off').off → Except WalkError α) :
    again (cursorAt f off) (cursorAt f off') loop = loop (off_lt hoff hle) :=
  dif_pos (off_lt hoff hle)

theorem skipWhile_eq {p : UInt8 → Bool} (hp : p sentinel = false) (h : Left f off s) :
    skipWhile p (cursorAt f off) = .ok (cursorAt f (off + (s.takeWhile p).length)) := by
  induction s generalizing off with
  | nil => rw [skipWhile, peek_nil h]; simp [hp]
  | cons b r ih =>
    rw [skipWhile, peek_cons h]
    cases hb : p b with
    | false => simp [hb]
    | true =>
      simp only [hb, if_true, bump_cons h]
      rw [again_eq (by omega) h.tail.off_le, ih h.tail]
      simp only [List.takeWhile_cons, hb, if_true, List.length_cons]
      congr 2
      omega

theorem textFrom_eq (h : Left f off s) {n : Nat} (hn : n ≤ s.length) :
    textFrom f (cursorAt f off).mark (cursorAt f (off + n)) = .ok (s.take n) := by
  have hstop := h.drop hn
  have h₁ : ¬ off.toUInt32 > f.size := UInt32.not_lt.mpr (f.offset_le h.off_le (Nat.le_refl _))
  have h₂ : ¬ (off + n).toUInt32 > f.size :=
    UInt32.not_lt.mpr (f.offset_le hstop.off_le (Nat.le_refl _))
  have h₃ : off.toUInt32 ≤ (off + n).toUInt32 := f.offset_le (by omega) hstop.off_le
  have hcut : f.cut off.toUInt32.toNat (off + n).toUInt32.toNat = s.take n := by
    rw [f.toNat_offset h.off_le, f.toNat_offset hstop.off_le, File.cut, h.drop_eq]
    congr 1
    omega
  simp only [textFrom, File.slice, File.checkOffset, Cursor.spanFrom, Cursor.mark, cursorAt, h₁, h₂,
    h₃, if_false, if_true, hcut]
  rfl

theorem sizeFrom_eq {n : Nat} (h : off + n ≤ f.content.length) :
    sizeFrom (cursorAt f off).mark (cursorAt f (off + n)) = n := by
  have hle := f.offset_le (Nat.le_add_right off n) h
  change ((off + n).toUInt32 - off.toUInt32).toNat = n
  rw [UInt32.toNat_sub_of_le _ _ hle, f.toNat_offset h, f.toNat_offset (by omega)]
  omega

theorem advance_eq (h : Left f off s) {n : Nat} (hn : n ≤ s.length) :
    advance (cursorAt f off) n = .ok (cursorAt f (off + n)) := by
  have hfits := f.fits
  have hlen := h.length_eq
  unfold FitsOffsets at hfits
  have hn' : n.toUInt32.toNat = n := f.toNat_offset (by omega)
  have hrest : ((cursorAt f off).stop - (cursorAt f off).off).toNat = s.length := by
    rw [UInt32.toNat_sub_of_le, toNat_stop, toNat_off h]
    · omega
    · rw [UInt32.le_iff_toNat_le, toNat_stop, toNat_off h]
      exact h.off_le
  have hmin : min n.toUInt32 ((cursorAt f off).stop - (cursorAt f off).off) = n.toUInt32 := by
    apply if_pos
    rw [UInt32.le_iff_toNat_le, hn', hrest]
    exact hn
  have hoff : (cursorAt f off).off + n.toUInt32 = (off + n).toUInt32 := by
    apply UInt32.toNat_inj.mp
    rw [UInt32.toNat_add, toNat_off h, hn', f.toNat_offset (by omega)]
    exact Nat.mod_eq_of_lt (by omega)
  have hrange : (0 : Int) ≤ n ∧ (n : Int) < 0x100000000 := by omega
  simp only [advance, Cursor.advance, hrange, and_self, if_true, Int.toNat_natCast, hmin, hoff]
  rfl

theorem rest_eq (h : Left f off s) : (cursorAt f off).rest = .ok s := by
  have hle : (cursorAt f off).off ≤ (cursorAt f off).stop := f.offset_le h.off_le (Nat.le_refl _)
  have hsize : f.content.length ≤ (cursorAt f off).buffer.size := by
    simp [cursorAt, Cursor.new, File.buffer]
  simp only [Cursor.rest, hle, hsize, and_self, if_true, toNat_off h, toNat_stop]
  change Except.ok ((f.content ++ [sentinel]).toArray.extract off f.content.length).toList =
    Except.ok s
  rw [List.extract_toArray, List.toList_toArray, List.extract_eq_take_drop,
    List.drop_append_of_le_length h.off_le,
    h.drop_eq, h.length_eq, Nat.add_sub_cancel_left, List.take_left]

theorem rune_cons (h : Left f off (b :: r)) :
    rune (cursorAt f off) = .ok ((Utf8.decode? (b :: r)).map Prod.fst, Utf8.itemSize (b :: r)) := by
  rw [rune, atEnd_cons h, peek_cons h]
  simp only [Bool.false_eq_true, if_false, rest_eq h]
  by_cases hb : b < 0x80
  · have hd : Utf8.decode? (b :: r) = some (Char.ofNat b.toNat, 1) := by simp [Utf8.decode?, hb]
    simp [hb, hd, Utf8.itemSize]
  · simp only [hb, if_false]
    cases hd : Utf8.decode? (b :: r) with
    | none => simp [Utf8.itemSize, hd]
    | some p => simp [Utf8.itemSize, hd]

theorem form_eq (h : Left f off s) (kind : Kind) {n : Nat} (hn : n ≤ s.length) :
    form f kind n (cursorAt f off) = .ok (Lexeme.ofSize kind n s, cursorAt f (off + n)) := by
  rw [form, advance_eq h hn, ok_bind, textFrom_eq h hn, ok_bind, sizeFrom_eq (h.drop hn).off_le]
  rfl

theorem malformed_eq (h : Left f off (b :: r)) :
    malformed f (cursorAt f off) =
      .ok (Lexeme.malformed (b :: r), cursorAt f (off + (Lexeme.malformed (b :: r)).size)) := by
  have hmax : max (Utf8.itemSize (b :: r)) 1 = Utf8.itemSize (b :: r) :=
    Nat.max_eq_left (Utf8.itemSize_pos _)
  rw [malformed, rune_cons h, ok_bind]
  simp only [hmax, form_eq h .invalid (Utf8.itemSize_le (by simp : b :: r ≠ [])), ok_bind]
  rfl

/-- A word goes on with one more character, or is at its end. -/
theorem wordStep?_eq (h : Left f off s) :
    (wordStep? (cursorAt f off) = .ok none ∧ Lexeme.identSize 0 s = 0) ∨
      ∃ n, 0 < n ∧ n ≤ s.length ∧ wordStep? (cursorAt f off) = .ok (some (cursorAt f (off + n))) ∧
        Lexeme.identSize 0 s = n + Lexeme.identSize 0 (s.drop n) := by
  cases s with
  | nil =>
    left
    rw [wordStep?, peek_nil h]
    exact ⟨rfl, by simp [Lexeme.identSize]⟩
  | cons b r =>
    rw [wordStep?, peek_cons h, ok_bind]
    by_cases hb : b < 0x80
    · cases hi : Lexeme.isIdentByte b with
      | false =>
        left
        refine ⟨by simp only [hb, if_true]; rfl, ?_⟩
        rw [Lexeme.identSize, if_pos hb, hi]
        rfl
      | true =>
        right
        refine ⟨1, by simp, by simp, ?_, ?_⟩
        · simp only [hb, if_true, bump_cons h]
          rfl
        · rw [Lexeme.identSize, if_pos hb, if_pos hi, Lexeme.identSize_add]
          rfl
    · rw [if_neg hb, rune_cons h, ok_bind]
      cases hd : Utf8.decode? (b :: r) with
      | none =>
        left
        refine ⟨rfl, ?_⟩
        rw [Lexeme.identSize, if_neg hb, hd]
      | some p =>
        obtain ⟨ch, n⟩ := p
        have hn := Utf8.decode?_size hd
        have hitem : Utf8.itemSize (b :: r) = n := by simp [Utf8.itemSize, hd]
        simp only [Option.map_some, hitem]
        cases hl : Unicode.isLetter ch || Unicode.isDecimalDigit ch with
        | false =>
          left
          refine ⟨rfl, ?_⟩
          rw [Lexeme.identSize, if_neg hb, hd]
          simp only [hl, Bool.false_eq_true, if_false]
        | true =>
          right
          refine ⟨n, hn.1, hn.2, ?_, ?_⟩
          · simp only [if_true, advance_eq h hn.2]
            rfl
          · have hdrop : (b :: r).drop n = r.drop (n - 1) := by
              rw [show n = n - 1 + 1 by omega, List.drop_succ_cons, Nat.add_sub_cancel]
            rw [Lexeme.identSize, if_neg hb, hd]
            simp only [hl, if_true]
            rw [Lexeme.identSize_add, hdrop, Nat.zero_add]

theorem skipWord_eq (h : Left f off s) :
    skipWord (cursorAt f off) = .ok (cursorAt f (off + Lexeme.identSize 0 s)) := by
  -- each round leaves fewer octets
  induction hlen : s.length using Nat.strongRecOn generalizing off s with
  | _ k ih =>
    subst hlen
    rw [skipWord]
    rcases wordStep?_eq h with ⟨hstep, hsize⟩ | ⟨n, hpos, hn, hstep, hsize⟩
    · rw [hstep, hsize]
      rfl
    · have hleft := h.drop hn
      rw [hstep]
      simp only
      rw [again_eq (by omega) hleft.off_le,
        ih _ (by rw [List.length_drop]; omega) hleft rfl, hsize, Nat.add_assoc]

theorem wordFrom_eq (h : Left f off s) {n : Nat} (hn : n ≤ s.length) :
    wordFrom f (cursorAt f off).mark (cursorAt f (off + n)) =
      .ok (Lexeme.word (Lexeme.identSize n (s.drop n)) s,
        cursorAt f (off + Lexeme.identSize n (s.drop n))) := by
  have hle := (Lexeme.identSize_le n (s.drop n)).2
  rw [List.length_drop] at hle
  have hsize : Lexeme.identSize n (s.drop n) ≤ s.length := by omega
  rw [wordFrom, skipWord_eq (h.drop hn), ok_bind, Nat.add_assoc, ← Lexeme.identSize_add,
    textFrom_eq h hsize, ok_bind, sizeFrom_eq (h.drop hsize).off_le]
  rfl

theorem word_ascii (h : Left f off (b :: r)) (hb : Lexeme.isIdentStart b = true) :
    word f (cursorAt f off) =
      .ok (Lexeme.asciiWord (b :: r), cursorAt f (off + (Lexeme.asciiWord (b :: r)).size)) := by
  have hascii := Lexeme.isIdentStart_ascii hb
  have hbyte : Lexeme.isIdentByte b = true := by simp [Lexeme.isIdentByte, hb]
  have hsize : Lexeme.identSize 0 (b :: r) = Lexeme.identSize 1 r := by
    rw [Lexeme.identSize, if_pos hascii, if_pos hbyte]
  have hw := wordFrom_eq h (n := 1) (by simp)
  rw [word, peek_cons h, ok_bind, if_pos hascii, bump_cons h, ok_bind, hw]
  rw [Lexeme.asciiWord, hsize]
  rfl

theorem word_letter (h : Left f off (b :: r)) (hb : 0x80 ≤ b) :
    word f (cursorAt f off) =
      .ok (Lexeme.letterWord (b :: r), cursorAt f (off + (Lexeme.letterWord (b :: r)).size)) := by
  rw [word, peek_cons h, ok_bind, if_neg (UInt8.not_lt.mpr hb), rune_cons h, ok_bind,
    Lexeme.letterWord]
  cases hd : Utf8.decode? (b :: r) with
  | none => exact malformed_eq h
  | some p =>
    obtain ⟨ch, n⟩ := p
    have hn := (Utf8.decode?_size hd).2
    have hitem : Utf8.itemSize (b :: r) = n := by simp [Utf8.itemSize, hd]
    simp only [Option.map_some, hitem]
    cases Unicode.isLetter ch with
    | false => exact malformed_eq h
    | true =>
      rw [if_pos rfl, if_pos rfl, advance_eq h hn, ok_bind, wordFrom_eq h hn]
      rfl

theorem number_eq (h : Left f off s) :
    number f (cursorAt f off) =
      .ok (Lexeme.number s, cursorAt f (off + (Lexeme.number s).size)) := by
  have hle : (s.takeWhile Lexeme.isIdentByte).length ≤ s.length :=
    (List.takeWhile_prefix _).length_le
  have htake : s.take (s.takeWhile Lexeme.isIdentByte).length = s.takeWhile Lexeme.isIdentByte :=
    (List.prefix_iff_eq_take.mp (List.takeWhile_prefix _)).symm
  rw [number, skipWhile_eq rfl h, ok_bind, textFrom_eq h hle, ok_bind,
    sizeFrom_eq (h.drop hle).off_le, htake]
  rfl

theorem isBoundary_iff : Lexeme.isBoundary b = true ↔ b = sentinel ∨ isLineEnd b = true := by
  simp [Lexeme.isBoundary, sentinel]

theorem escape_dangling (h : Left f off [92]) (m : Cursor.Mark) :
    escape f m (cursorAt f off) = .ok (none, cursorAt f (off + 1)) := by
  rw [escape, bump_cons h, ok_bind, peek_nil h.tail, ok_bind, if_pos (Or.inl rfl)]
  rfl

theorem escape_boundary (h : Left f off (92 :: b :: r)) (hb : Lexeme.isBoundary b = true)
    (m : Cursor.Mark) : escape f m (cursorAt f off) = .ok (none, cursorAt f (off + 1)) := by
  rw [escape, bump_cons h, ok_bind, peek_cons h.tail, ok_bind, if_pos (isBoundary_iff.mp hb)]
  rfl

theorem escape_octet (h : Left f off (92 :: b :: r)) (hb : Lexeme.isBoundary b = false)
    (m : Cursor.Mark) :
    escape f m (cursorAt f off) =
      .ok (Lexeme.escapeFinding? (sizeFrom m (cursorAt f off)) b, cursorAt f (off + 2)) := by
  have hb' : ¬ (b = sentinel ∨ isLineEnd b = true) := by rw [← isBoundary_iff, hb]; simp
  have htwo := h.drop (n := 2) (by simp)
  rw [escape, bump_cons h, ok_bind, peek_cons h.tail, ok_bind, if_neg hb', bump_cons h.tail,
    ok_bind, textFrom_eq h (n := 2) (by simp), sizeFrom_eq htwo.off_le, Lexeme.escapeFinding?]
  cases Lexeme.isSimpleEscape b <;> rfl

/-- Inside a string the octets of an escape are one round. -/
theorem inside_backslash (h : Left f off (92 :: r)) {m : Cursor.Mark} {off' : Nat}
    {finding : Option Finding} (hesc : escape f m (cursorAt f off) = .ok (finding, cursorAt f off'))
    (hoff : off < off') (hle : off' ≤ f.content.length) (found : List Finding) :
    inside f m found (cursorAt f off) = inside f m (finding.toList ++ found) (cursorAt f off') := by
  rw [inside, peek_cons h, hesc]
  simp only [show (92 : UInt8) ≠ 34 by decide, show (92 : UInt8) ≠ sentinel by decide,
    show isLineEnd 92 = false by decide, if_false, if_true, Bool.false_eq_true]
  exact again_eq hoff hle _

theorem inside_boundary (h : Left f off (b :: r)) (hb : Lexeme.isBoundary b = true)
    (m : Cursor.Mark) (found : List Finding) :
    inside f m found (cursorAt f off) = .ok ((.boundary, found.reverse), cursorAt f off) := by
  have hq : b ≠ 34 := by rintro rfl; cases hb
  rw [inside, peek_cons h]
  simp only [hq, if_false, atEnd_cons h]
  rcases isBoundary_iff.mp hb with rfl | hline
  · rfl
  · simp [hline]

theorem inside_end (h : Left f off []) (m : Cursor.Mark) (found : List Finding) :
    inside f m found (cursorAt f off) = .ok ((.endOfInput, found.reverse), cursorAt f off) := by
  rw [inside, peek_nil h, atEnd_nil h]
  rfl

/-- The inside of a string, of which `n` octets are read behind the quote at `start`. -/
theorem inside_eq {start n : Nat} (found : List Finding) (h : Left f (start + 1 + n) s) :
    inside f (cursorAt f start).mark found (cursorAt f (start + 1 + n)) =
      .ok (((Lexeme.stringBody n found s).ending, (Lexeme.stringBody n found s).findings),
        cursorAt f (start + 1 + (Lexeme.stringBody n found s).size)) := by
  induction s using Lexeme.inside_induction generalizing n found with
  | nil => rw [inside_end h, Lexeme.stringBody_nil]
  | quote r =>
    rw [inside, peek_cons h, Lexeme.stringBody_quote]
    rfl
  | boundary b r hb => rw [inside_boundary h hb, Lexeme.stringBody_boundary _ _ _ hb]
  | dangling =>
    rw [inside_backslash h (escape_dangling h _) (by omega) h.tail.off_le, inside_end h.tail,
      Lexeme.stringBody_dangling]
    rfl
  | dangling_boundary c r hc =>
    rw [inside_backslash h (escape_boundary h hc _) (by omega) h.tail.off_le,
      inside_boundary h.tail hc,
      Lexeme.stringBody_dangling_boundary _ _ _ hc]
    rfl
  | escape c r hc ih =>
    have htwo : Left f (start + 1 + (n + 2)) r := h.drop (n := 2) (by simp)
    have hsize : sizeFrom (cursorAt f start).mark (cursorAt f (start + 1 + n)) = n + 1 := by
      rw [Nat.add_assoc, Nat.add_comm 1]
      exact sizeFrom_eq (by have := h.off_le; omega)
    rw [inside_backslash h (escape_octet h hc _) (by omega) htwo.off_le, hsize, Nat.add_assoc _ n,
      ih _ htwo, Lexeme.stringBody_escape _ _ _ hc]
  | plain b r hq hb he ih =>
    have hb' : ¬ (b = sentinel ∨ isLineEnd b = true) := by rw [← isBoundary_iff, hb]; simp
    rw [inside, peek_cons h, Lexeme.stringBody_plain _ _ _ hq hb he]
    simp only [hq, he, not_or.mp hb', if_false, bump_cons h]
    rw [again_eq (by omega) h.tail.off_le]
    exact ih (n := n + 1) found h.tail

theorem string_eq (h : Left f off (34 :: r)) :
    string f (cursorAt f off) =
      .ok (Lexeme.string (34 :: r), cursorAt f (off + (Lexeme.string (34 :: r)).size)) := by
  have hin := inside_eq (n := 0) [] h.tail
  have hle := (Lexeme.stringBody_size 0 [] r).1
  have hclosed := Lexeme.stringBody_closed 0 [] r
  simp only [Nat.add_zero, Nat.zero_add] at hin hle hclosed
  simp only [string, Lexeme.string, bump_cons h, ok_bind, List.drop_succ_cons, List.drop_zero, hin]
  generalize Lexeme.stringBody 0 [] r = body at hle hclosed
  obtain ⟨size, found, ending⟩ := body
  simp only at hle hclosed
  have hend : Left f (off + (size + 1)) (r.drop size) := by
    have := h.tail.drop hle
    rwa [Nat.add_assoc, Nat.add_comm 1] at this
  rw [textFrom_eq h.tail hle, ok_bind, Nat.add_assoc off, Nat.add_comm 1]
  cases ending with
  | boundary => simp only [sizeFrom_eq hend.off_le]; rfl
  | endOfInput => simp only [sizeFrom_eq hend.off_le]; rfl
  | closed =>
    obtain ⟨k, t, rfl, ht⟩ := hclosed rfl
    rw [ht] at hend
    have hquote := hend.tail.off_le
    simp only [bump_cons hend, ok_bind]
    rw [Nat.add_assoc off] at hquote ⊢
    rw [sizeFrom_eq hquote]
    rfl

theorem eat_eq (h : Left f off s) (x : UInt8) :
    eat (cursorAt f off) x =
      .ok (decide (s.head? = some x), cursorAt f (off + if s.head? = some x then 1 else 0)) := by
  cases s with
  | nil =>
    have hend : ¬ (cursorAt f off).off < (cursorAt f off).stop := by
      simpa [Cursor.atEnd] using atEnd_nil h
    simp only [eat, Cursor.eat, hend, if_false]
    rfl
  | cons b r =>
    simp only [eat, Cursor.eat, off_lt_stop h, if_true, peek_ok h, Except.map, ok_mapError,
      off_succ h, List.head?_cons, Option.some.injEq]
    by_cases hb : b = x
    · simp only [hb, if_true, decide_true]
      rfl
    · simp only [hb, if_false, decide_false]
      rfl

/-- The octets of a character literal behind its character, up to a quote or a boundary. -/
abbrev extra (s : Bytes) : Nat := (s.takeWhile fun c => c != 39 && !Lexeme.isBoundary c).length

theorem charEnd_eq {start n : Nat} (h : Left f (start + 1 + n) s) (text : Bytes)
    (found : List Finding) :
    charEnd (cursorAt f start).mark text found (cursorAt f (start + 1 + n)) =
      let m : Lexeme :=
        if (s.drop (extra s)).head? = some 39 then
          { kind := .charLit, size := n + extra s + 2, text
            findings := if extra s = 0 then found
              else found ++ [Lexeme.whole Code.multiCharLiteral (n + extra s + 2)] }
        else
          { kind := .charLit, size := n + extra s + 1, text
            findings := found ++ [Lexeme.whole Code.unterminatedChar (n + extra s + 1)] }
      .ok (m, cursorAt f (start + m.size)) := by
  have hextra : extra s ≤ s.length := (List.takeWhile_prefix _).length_le
  have hat (k : Nat) : start + 1 + n + k = start + (n + k + 1) := by omega
  have hsize {k : Nat} (hk : start + 1 + n + k ≤ f.content.length) :
      sizeFrom (cursorAt f start).mark (cursorAt f (start + (n + k + 1))) = n + k + 1 :=
    sizeFrom_eq (by omega)
  rw [charEnd, eat_eq h, ok_bind]
  by_cases hq : s.head? = some 39
  · obtain ⟨r, rfl⟩ := List.head?_eq_some_iff.mp hq
    have hnone : extra (39 :: r) = 0 := rfl
    simp only [hnone, hq, if_true, decide_true, List.drop_zero, hat, hsize h.tail.off_le]
    rfl
  · have hrest := h.drop hextra
    simp only [hq, decide_false, if_false, Bool.false_eq_true, Nat.add_zero]
    rw [skipWhile_eq rfl h, ok_bind, eat_eq hrest, ok_bind]
    by_cases hclose : (s.drop (extra s)).head? = some 39
    · obtain ⟨r, hr⟩ := List.head?_eq_some_iff.mp hclose
      have hsome : extra s ≠ 0 := fun hz => hq (by simpa [hz] using hclose)
      have hend := (hr ▸ hrest).tail.off_le
      rw [Nat.add_assoc (start + 1 + n)] at hend
      simp only [hclose, hsome, if_true, if_false, decide_true]
      rw [Nat.add_assoc (start + 1 + n), hat, hsize hend]
      rfl
    · simp only [hclose, if_false, decide_false, Nat.add_zero, hat, hsize hrest.off_le]
      rfl

theorem charStep_eq (h : Left f (off + 1) (b :: r)) :
    ∃ finding, finding.toList = (Lexeme.charBody (b :: r)).2 ∧
      charStep f (cursorAt f off).mark b (cursorAt f (off + 1)) =
        .ok (finding, cursorAt f (off + 1 + (Lexeme.charBody (b :: r)).1)) := by
  unfold charStep
  by_cases hb : b = 92
  · subst hb
    rw [if_pos rfl]
    cases r with
    | nil => exact ⟨none, rfl, escape_dangling h _⟩
    | cons c r =>
      cases hc : Lexeme.isBoundary c with
      | true =>
        refine ⟨none, ?_, ?_⟩
        · simp [Lexeme.charBody, hc]
        · simp only [Lexeme.charBody, hc, if_true]
          exact escape_boundary h hc _
      | false =>
        refine ⟨Lexeme.escapeFinding? 1 c, ?_, ?_⟩
        · simp [Lexeme.charBody, hc]
        · simp only [Lexeme.charBody, hc, Bool.false_eq_true, if_false]
          rw [escape_octet h hc, sizeFrom_eq h.off_le]
  · have hbody := Lexeme.charBody_of_ne hb r
    have hmax : max (Utf8.itemSize (b :: r)) 1 = Utf8.itemSize (b :: r) :=
      Nat.max_eq_left (Utf8.itemSize_pos _)
    refine ⟨none, by rw [hbody]; rfl, ?_⟩
    rw [if_neg hb, rune_cons h, ok_bind, hbody]
    simp only [hmax, advance_eq h (Utf8.itemSize_le (by simp : b :: r ≠ [])), ok_bind]
    rfl

theorem char_eq (h : Left f off (39 :: r)) :
    char f (cursorAt f off) =
      .ok (Lexeme.char (39 :: r), cursorAt f (off + (Lexeme.char (39 :: r)).size)) := by
  have hone : sizeFrom (cursorAt f off).mark (cursorAt f (off + 1)) = 1 := sizeFrom_eq h.tail.off_le
  simp only [char, Lexeme.char, bump_cons h, ok_bind, List.drop_succ_cons, List.drop_zero]
  cases r with
  | nil =>
    rw [peek_nil h.tail, ok_bind, if_neg (by decide), if_pos (Or.inl rfl), noChar, hone]
    rfl
  | cons b r =>
    rw [peek_cons h.tail, ok_bind]
    by_cases hq : b = 39
    · have htwo : sizeFrom (cursorAt f off).mark (cursorAt f (off + 1 + 1)) = 2 :=
        sizeFrom_eq (n := 2) h.tail.tail.off_le
      simp only [hq, if_true, bump_cons h.tail, ok_bind, noChar, htwo]
      rfl
    · simp only [hq, if_false, ← isBoundary_iff]
      cases hb : Lexeme.isBoundary b with
      | true =>
        simp only [if_true, noChar, hone]
        rfl
      | false =>
        obtain ⟨finding, hfound, hstep⟩ := charStep_eq h.tail
        have hn := (Lexeme.charBody_size (s := b :: r) (by simp)).2
        simp only [Bool.false_eq_true, if_false]
        rw [hstep, ok_bind]
        simp only
        rw [textFrom_eq h.tail hn, ok_bind, charEnd_eq (h.tail.drop hn), hfound]

theorem peekAt_one (h : Left f off (b :: r)) :
    peekAt (cursorAt f off) 1 = peek (cursorAt f (off + 1)) := by
  have hinside : ¬ (1 : UInt32) > (cursorAt f off).stop - (cursorAt f off).off := by
    have hlt := off_lt_stop h
    rw [UInt32.lt_iff_toNat_lt] at hlt
    apply UInt32.not_lt.mpr
    rw [UInt32.le_iff_toNat_le, UInt32.toNat_sub_of_le _ _ (UInt32.le_of_lt (off_lt_stop h))]
    change 1 ≤ _
    omega
  simp only [peekAt, Cursor.peekAt, hinside, if_false, off_succ h]
  rfl

theorem punctuation_eq (h : Left f off (b :: r)) :
    punctuation f (cursorAt f off) =
      .ok (Lexeme.punctuation (b :: r), cursorAt f (off + (Lexeme.punctuation (b :: r)).size)) := by
  obtain ⟨x, hx, hnext⟩ :
      ∃ x, peek (cursorAt f (off + 1)) = .ok x ∧ (x = 62 ↔ r.head? = some 62) := by
    cases r with
    | nil => exact ⟨sentinel, peek_nil h.tail, by decide⟩
    | cons c r => exact ⟨c, peek_cons h.tail, by simp⟩
  rw [punctuation, peek_cons h, ok_bind, peekAt_one h, hx, ok_bind]
  by_cases harrow : b = 45 ∧ x = 62
  · obtain ⟨rfl, h62⟩ := harrow
    obtain ⟨r, rfl⟩ := List.head?_eq_some_iff.mp (hnext.mp h62)
    rw [if_pos ⟨rfl, h62⟩, form_eq h .arrow (n := 2) (by simp)]
    rfl
  · rw [if_neg harrow, Lexeme.punctuation_of_not_arrow (by rwa [← hnext])]
    cases Kind.punctuation? b with
    | none => exact malformed_eq h
    | some kind => exact form_eq h kind (n := 1) (by simp)

/-- At every place that is no blank the walk finds the lexeme in front, and stops behind it. -/
theorem front?_eq (h : Left f off s) :
    front? f (cursorAt f off) =
      .ok ((Lexeme.front? s).map fun m => (m, cursorAt f (off + m.size))) := by
  cases s with
  | nil =>
    rw [front?, peek_nil h]
    rfl
  | cons b r =>
    rw [front?, peek_cons h, ok_bind, Lexeme.front?, sentinel]
    by_cases hzero : b = 0
    · rw [if_pos hzero, if_pos hzero]
      rfl
    rw [if_neg hzero, if_neg hzero]
    by_cases hline : (isLineEnd b || b == 59) = true
    · rw [if_pos hline, if_pos hline, form_eq h .newLine (n := 1) (by simp), ok_map]
      rfl
    rw [if_neg hline, if_neg hline]
    by_cases hstring : b = 34
    · subst hstring
      rw [if_pos rfl, if_pos rfl, string_eq h, ok_map]
      rfl
    rw [if_neg hstring, if_neg hstring]
    by_cases hchar : b = 39
    · subst hchar
      rw [if_pos rfl, if_pos rfl, char_eq h, ok_map]
      rfl
    rw [if_neg hchar, if_neg hchar]
    by_cases hword : Lexeme.isIdentStart b = true
    · rw [if_pos (by simp [hword]), if_pos hword, word_ascii h hword, ok_map]
      rfl
    rw [if_neg hword]
    by_cases hletter : 0x80 ≤ b
    · rw [if_pos (by simp [hletter]), if_pos hletter, word_letter h hletter, ok_map]
      rfl
    rw [if_neg (by simp [hword, hletter]), if_neg hletter]
    by_cases hdigit : Bytes.isDecimalDigit b = true
    · rw [if_pos hdigit, if_pos hdigit, number_eq h, ok_map]
      rfl
    rw [if_neg hdigit, if_neg hdigit, punctuation_eq h, ok_map]
    rfl

theorem blanks_eq (h : Left f off s) :
    skipWhile Lexeme.isBlank (cursorAt f off) = .ok (cursorAt f (off + Lexeme.gap s)) :=
      skipWhile_eq rfl h

/-- The walk from an offset on finds the tokens that are read there. -/
theorem tokensFrom_eq (h : Left f off s) :
    tokensFrom f (cursorAt f off) = .ok ((Reading.ofText off s).tokens f.id) := by
  induction off, s using Reading.induction with
  | stop off s hnone =>
    have hfront := front?_eq (h.drop (Lexeme.gap_le s))
    rw [hnone] at hfront
    rw [tokensFrom, blanks_eq h]
    simp only [hfront, Reading.ofText_none hnone]
    rfl
  | more off s m hsome ih =>
    have hstart := h.drop (Lexeme.gap_le s)
    have hfront := front?_eq hstart
    have hm := Lexeme.front?_fronts hsome
    have hpos := hm.size_pos
    have hrest := hstart.drop hm.size_le
    rw [hsome] at hfront
    rw [tokensFrom, blanks_eq h, Reading.ofText_some hsome]
    simp only [hfront, Option.map_some]
    rw [again_eq (by omega) hrest.off_le, ih hrest]
    rfl

theorem tokens_eq (f : File) : tokens f = .ok f.stream :=
  tokensFrom_eq ⟨Nat.zero_le _, rfl⟩

end FrontEnd.Walk

namespace FrontEnd

/-- Whatever a file contains, scanning it ends with a stream of the file. No look leaves the buffer,
no cut leaves the file, no loop stands still, and no report fails as long as the builder, if there
is one, has nothing in flight at the start; then it has nothing in flight at the end. -/
theorem Lexer.all_isStream {σ : Type} (f : File) (b : Option (Builder σ))
    (hidle : ∀ x ∈ b, x.pending = none) :
    ∃ ts last, (Lexer.new f b).all = .ok (ts, last) ∧ (∀ x ∈ last.builder, x.pending = none) ∧
      Walk.tokens f = .ok ts ∧ Token.checkStream f ts = .ok () ∧ Token.IsStream f ts := by
  obtain ⟨last, hlast, hbuilder⟩ := Lexer.allTelling_new (fun _ s => s) f hidle
  refine ⟨f.stream, last, hlast, ?_, Walk.tokens_eq f, ?_, f.stream_isStream⟩
  · intro x hx
    rw [hbuilder] at hx
    obtain ⟨y, hy, rfl⟩ := Option.map_eq_some_iff.mp hx
    rw [Builder.followAll_silent]
    exact Builder.foldl_handOn_pending _ (hidle y hy)
  · exact (Token.checkStream_ok_iff f f.stream).mpr f.stream_isStream

/-- A stray octet, a zero octet in an open string, and a bag that keeps one diagnostic. -/
theorem Lexer.all_isStream_stray :
    let f := File.make 3 "stray.kj" [0xff, 34, 92, 113, 0, 39] 0 (by decide)
    let b : Builder Bag := { report := Reporter.bag, sink := { limit := 1 } }
    (∀ x ∈ some b, x.pending = none) ∧
      ∃ ts last, (Lexer.new f (some b)).all = .ok (ts, last) ∧
        (∀ x ∈ last.builder, x.pending = none) ∧ Walk.tokens f = .ok ts ∧
        Token.checkStream f ts = .ok () ∧ Token.IsStream f ts :=
  ⟨by simp, Lexer.all_isStream _ _ (by simp)⟩

end FrontEnd
