import FrontEnd.Proofs.Scan

/-!
Where a text may be cut. A zero octet or a line end is no part of any lexeme before it, so the
lexeme at the front of a text does not depend on what stands at or behind the first such octet: it
is the one that is read when the text ends there. Only the reason given for an open string tells the
two apart.
-/
namespace FrontEnd

/-- A finding at the end of the input as it is when a line end or a zero octet follows. -/
def Finding.endLine (f : Finding) : Finding :=
  if f.code = Code.endInLiteral then { f with code := Code.unterminatedString } else f

theorem Finding.Local.endLine_eq {f : Finding} (h : f.Local) : f.endLine = f := if_neg h.code_ne

theorem Finding.map_endLine {fs : List Finding} (h : ∀ f ∈ fs, f.Local) :
    fs.map Finding.endLine = fs := by
  have hid : ∀ f ∈ fs, f.endLine = id f := fun f hf => (h f hf).endLine_eq
  rw [List.map_congr_left hid, List.map_id]

namespace Lexeme

/-- A lexeme at the end of the input as it is when a line end or a zero octet follows. -/
def endLine (m : Lexeme) : Lexeme := { m with findings := m.findings.map Finding.endLine }

theorem Fronts.endLine_eq {m : Lexeme} {s : Bytes} (h : m.Fronts s) (hq : s.head? ≠ some 34) :
    m.endLine = m := by
  have hlocal : ∀ f ∈ m.findings, f.Local := by
    intro f hf
    rcases h.findings f hf with hlocal | ⟨hq', -⟩
    · exact hlocal
    · exact absurd hq' hq
  rw [endLine, Finding.map_endLine hlocal]

theorem isBoundary_iff {c : UInt8} : isBoundary c = true ↔ c = 0 ∨ c = 10 ∨ c = 13 := by
  simp [isBoundary, isLineEnd]

section Boundary

variable {c : UInt8} (t : Bytes)

theorem takeWhile_stop (p : UInt8 → Bool) (hp : p c = false) (s : Bytes) :
    (s ++ c :: t).takeWhile p = s.takeWhile p := by
  induction s with
  | nil => simp [hp]
  | cons b r ih => simp [List.takeWhile_cons, ih]

theorem word_append {n : Nat} {s : Bytes} (hn : n ≤ s.length) :
    word n (s ++ c :: t) = word n s := by
  simp only [word, ofSize, List.take_append_of_le_length hn]

variable (hc : isBoundary c = true)

include hc

theorem boundary_ascii : c < 0x80 := by
  rcases isBoundary_iff.mp hc with rfl | rfl | rfl <;> decide

theorem gap_stop (s : Bytes) : gap (s ++ c :: t) = gap s := by
  have hblank : isBlank c = false := by rcases isBoundary_iff.mp hc with rfl | rfl | rfl <;> decide
  rw [gap, takeWhile_stop t _ hblank, gap]

theorem boundary_identByte : isIdentByte c = false := by
  rcases isBoundary_iff.mp hc with rfl | rfl | rfl <;> decide

theorem malformed_stop {s : Bytes} (hs : s ≠ []) : malformed (s ++ c :: t) = malformed s := by
  have hsize := Utf8.itemSize_append hs (boundary_ascii hc) t
  have htake : (s ++ c :: t).take (Utf8.itemSize s) = s.take (Utf8.itemSize s) :=
    List.take_append_of_le_length (Utf8.itemSize_le hs)
  simp only [malformed, ofSize, hsize, htake]

theorem identSize_stop (n : Nat) (s : Bytes) : identSize n (s ++ c :: t) = identSize n s := by
  have hascii := boundary_ascii hc
  induction n, s using identSize.induct with
  | case1 n =>
    simp only [List.nil_append, identSize, hascii, if_true, boundary_identByte hc,
      Bool.false_eq_true, if_false]
  | case2 n b r hb hi ih =>
    rw [List.cons_append, identSize, identSize, if_pos hb, if_pos hi, if_pos hb, if_pos hi, ih]
  | case3 n b r hb hi =>
    rw [List.cons_append, identSize, identSize, if_pos hb, if_neg hi, if_pos hb, if_neg hi]
  | case4 n b r hb x size hd hl ih =>
    have hd' := hd
    rw [← Utf8.decode?_append (by simp) hascii t, List.cons_append] at hd'
    have hle := (Utf8.decode?_size hd).2
    have hdrop : (r ++ c :: t).drop (size - 1) = r.drop (size - 1) ++ c :: t :=
      List.drop_append_of_le_length (by simp only [List.length_cons] at hle; omega)
    rw [List.cons_append, identSize, identSize]
    simp only [hb, if_false, hd, hd', hl, if_true]
    rw [hdrop, ih]
  | case5 n b r hb x size hd hl =>
    have hd' := hd
    rw [← Utf8.decode?_append (by simp) hascii t, List.cons_append] at hd'
    rw [List.cons_append, identSize, identSize]
    simp only [hb, if_false, hd, hd', hl, Bool.false_eq_true]
  | case6 n b r hb hd =>
    have hd' := hd
    rw [← Utf8.decode?_append (by simp) hascii t, List.cons_append] at hd'
    rw [List.cons_append, identSize, identSize]
    simp only [hb, if_false, hd, hd']

theorem asciiWord_stop (s : Bytes) : asciiWord (s ++ c :: t) = asciiWord s := by
  have hle := (identSize_le 0 s).2
  rw [asciiWord, identSize_stop t hc, word_append t (by omega), asciiWord]

theorem letterWord_stop {s : Bytes} (hs : s ≠ []) : letterWord (s ++ c :: t) = letterWord s := by
  rw [letterWord, letterWord, Utf8.decode?_append hs (boundary_ascii hc)]
  cases hd : Utf8.decode? s with
  | none => exact malformed_stop t hc hs
  | some p =>
    obtain ⟨x, k⟩ := p
    have hk := (Utf8.decode?_size hd).2
    have hle := (identSize_le k (s.drop k)).2
    rw [List.length_drop] at hle
    simp only [List.drop_append_of_le_length hk, identSize_stop t hc, malformed_stop t hc hs]
    rw [word_append t (by omega)]

theorem number_stop (s : Bytes) : number (s ++ c :: t) = number s := by
  simp only [number, takeWhile_stop t _ (boundary_identByte hc)]

theorem punctuation_stop {s : Bytes} (hs : s ≠ []) :
    punctuation (s ++ c :: t) = punctuation s := by
  obtain ⟨b, r, rfl⟩ := List.exists_cons_of_ne_nil hs
  by_cases harrow : b = 45 ∧ r.head? = some 62
  · obtain ⟨rfl, hr⟩ := harrow
    obtain ⟨r, rfl⟩ := List.head?_eq_some_iff.mp hr
    rfl
  · have hnext : ¬ (b = 45 ∧ (r ++ c :: t).head? = some 62) := by
      cases r with
      | nil =>
        rintro ⟨-, hr⟩
        cases hr
        cases hc
      | cons x r => exact harrow
    rw [List.cons_append, punctuation_of_not_arrow hnext, punctuation_of_not_arrow harrow,
      ← List.cons_append, malformed_stop t hc hs]
    rfl

/-- The inside of a string at the end of the input, as it is when a line end or a zero octet
follows. -/
def Body.endLine (body : Body) : Body :=
  { body with ending := if body.ending = .endOfInput then .boundary else body.ending }

theorem stringBody_stop (n : Nat) (found : List Finding) (s : Bytes) :
    stringBody n found (s ++ c :: t) = (stringBody n found s).endLine := by
  induction s using inside_induction generalizing n found with
  | nil => rw [List.nil_append, stringBody_boundary _ _ _ hc, stringBody_nil]; rfl
  | quote r => rw [List.cons_append, stringBody_quote, stringBody_quote]; rfl
  | boundary b r hb =>
    rw [List.cons_append, stringBody_boundary _ _ _ hb, stringBody_boundary _ _ _ hb]; rfl
  | dangling =>
    rw [List.cons_append, List.nil_append, stringBody_dangling_boundary _ _ _ hc,
      stringBody_dangling]
    rfl
  | dangling_boundary x r hx =>
    rw [List.cons_append, List.cons_append, stringBody_dangling_boundary _ _ _ hx,
      stringBody_dangling_boundary _ _ _ hx]
    rfl
  | escape x r hx ih =>
    rw [List.cons_append, List.cons_append, stringBody_escape _ _ _ hx, stringBody_escape _ _ _ hx,
      ih]
  | plain b r hq hb he ih =>
    rw [List.cons_append, stringBody_plain _ _ _ hq hb he, stringBody_plain _ _ _ hq hb he, ih]

theorem string_stop (r : Bytes) : string (34 :: (r ++ c :: t)) = (string (34 :: r)).endLine := by
  have hle := (stringBody_size 0 [] r).1
  have hlocal := stringBody_local 0 (List.forall_mem_nil _) r
  simp only [string, List.drop_succ_cons, List.drop_zero, stringBody_stop t hc]
  generalize stringBody 0 [] r = body at hle hlocal
  obtain ⟨n, found, ending⟩ := body
  simp only at hle hlocal
  have htake : (r ++ c :: t).take n = r.take n := List.take_append_of_le_length (by omega)
  simp only [Body.endLine, htake]
  cases ending with
  | closed => simp [endLine, Finding.map_endLine hlocal]
  | boundary =>
    simp only [endLine, List.map_append, Finding.map_endLine hlocal]
    rfl
  | endOfInput =>
    simp only [endLine, List.map_append, Finding.map_endLine hlocal]
    rfl

theorem charBody_stop {s : Bytes} (hs : s ≠ []) : charBody (s ++ c :: t) = charBody s := by
  obtain ⟨b, r, rfl⟩ := List.exists_cons_of_ne_nil hs
  by_cases h92 : b = 92
  · subst h92
    cases r with
    | nil => exact if_pos hc
    | cons x r => rfl
  · rw [List.cons_append, charBody_of_ne h92, charBody_of_ne h92, ← List.cons_append,
      Utf8.itemSize_append hs (boundary_ascii hc)]

theorem char_stop (r : Bytes) : char (39 :: (r ++ c :: t)) = char (39 :: r) := by
  have hq : c ≠ 39 := by rintro rfl; cases hc
  simp only [char, List.drop_succ_cons, List.drop_zero]
  cases r with
  | nil => simp only [List.nil_append, hq, hc, if_false, if_true]
  | cons b r =>
    have hn := (charBody_size (s := b :: r) (by simp)).2
    have hstop := takeWhile_stop (c := c) t (fun x => x != 39 && !isBoundary x) (by simp [hc])
    rw [List.cons_append]
    simp only
    rw [← List.cons_append, charBody_stop t hc (by simp)]
    simp only [List.take_append_of_le_length hn, List.drop_append_of_le_length hn, hstop]
    generalize (b :: r).drop (charBody (b :: r)).1 = rest
    have hextra : (rest.takeWhile fun x => x != 39 && !isBoundary x).length ≤ rest.length :=
      (List.takeWhile_prefix _).length_le
    generalize (rest.takeWhile fun x => x != 39 && !isBoundary x).length = extra at *
    have hhead :
        ((rest ++ c :: t).drop extra).head? = some 39 ↔ (rest.drop extra).head? = some 39 := by
      rw [List.drop_append_of_le_length hextra]
      cases rest.drop extra with
      | nil => simpa using hq
      | cons x rest => simp
    simp only [hhead]

/-- What stands at the front of a text does not depend on what follows a line end or a zero
octet. -/
theorem front?_stop {s : Bytes} (hs : s ≠ []) :
    front? (s ++ c :: t) = (front? s).map endLine := by
  cases hm : front? s with
  | none =>
    rcases front?_eq_none_iff.mp hm with hnil | hzero
    · exact absurd hnil hs
    · obtain ⟨r, rfl⟩ := List.head?_eq_some_iff.mp hzero
      rfl
  | some m =>
    have hfront := front?_fronts hm
    have hword := asciiWord_stop t hc s
    have hletter := letterWord_stop t hc hs
    have hnumber := number_stop t hc s
    have hmark := punctuation_stop t hc hs
    obtain ⟨b, r, rfl⟩ := List.exists_cons_of_ne_nil hs
    rw [List.cons_append] at *
    by_cases hq : b = 34
    · subst hq
      cases hm
      exact congrArg some (string_stop t hc r)
    rw [Option.map_some, hfront.endLine_eq (by simpa using hq), ← hm]
    by_cases hq' : b = 39
    · subst hq'
      exact congrArg some (char_stop t hc r)
    simp only [front?, hq, hq', if_false, hword, hletter, hnumber, hmark]
    rfl

end Boundary

/-- Without a zero octet, nothing is left to read only where all that is left is blank. -/
theorem gap_eq_length {s : Bytes} (hzero : 0 ∉ s) (h : front? (s.drop (gap s)) = none) :
    gap s = s.length := by
  have hblank : s.drop (gap s) = [] := by
    rcases front?_eq_none_iff.mp h with hnil | hhead
    · exact hnil
    · exact absurd (List.mem_of_mem_drop (List.mem_of_head? hhead)) hzero
  exact Nat.le_antisymm (gap_le s) (List.drop_eq_nil_iff.mp hblank)

end Lexeme

/-- A lexeme at the end of the input as it is when a line end or a zero octet follows. -/
def Placed.endLine (p : Placed) : Placed := { p with lexeme := p.lexeme.endLine }

/-- Where only blanks stand before a line end or a zero octet, the text is read from there on. -/
theorem Reading.ofText_blanks {c : UInt8} (hc : Lexeme.isBoundary c = true) (t : Bytes) (off : Nat)
    {s : Bytes} (hgap : Lexeme.gap s = s.length) :
    ofText off (s ++ c :: t) = ofText (off + s.length) (c :: t) := by
  have hgap' : Lexeme.gap (s ++ c :: t) = s.length := by rw [Lexeme.gap_stop t hc, hgap]
  have hdrop : (s ++ c :: t).drop (Lexeme.gap (s ++ c :: t)) = c :: t := by
    rw [hgap', List.drop_left]
  have hstart : Lexeme.gap (c :: t) = 0 := Lexeme.gap_stop t hc []
  have hdrop' : (c :: t).drop (Lexeme.gap (c :: t)) = c :: t := by rw [hstart, List.drop_zero]
  have hsame : Lexeme.front? ((s ++ c :: t).drop (Lexeme.gap (s ++ c :: t))) =
      Lexeme.front? ((c :: t).drop (Lexeme.gap (c :: t))) := by rw [hdrop, hdrop']
  cases hm : Lexeme.front? ((c :: t).drop (Lexeme.gap (c :: t))) with
  | none =>
    rw [ofText_none (hsame.trans hm), ofText_none hm, hgap', hstart]
    rfl
  | some m =>
    rw [ofText_some (hsame.trans hm), ofText_some hm, hdrop, hdrop', hgap', hstart]
    rfl

/-- A text with a line end or a zero octet in it is read up to there, and then on from there. -/
theorem Reading.ofText_boundary {c : UInt8} (hc : Lexeme.isBoundary c = true)
    (t : Bytes) (off : Nat) {s : Bytes} (hzero : 0 ∉ s) :
    ofText off (s ++ c :: t) =
      ⟨(ofText off s).lexemes.map Placed.endLine ++ (ofText (off + s.length) (c :: t)).lexemes,
        (ofText (off + s.length) (c :: t)).stop⟩ := by
  induction off, s using induction with
  | stop off s h =>
    rw [ofText_none h, List.map_nil, List.nil_append]
    exact ofText_blanks hc t off (Lexeme.gap_eq_length hzero h)
  | more off s m h ih =>
    have hle := (Lexeme.front?_fronts h).size_le
    have hgap := Lexeme.gap_le s
    have hdrop : (s ++ c :: t).drop (Lexeme.gap (s ++ c :: t)) =
        s.drop (Lexeme.gap s) ++ c :: t := by
      rw [Lexeme.gap_stop t hc, List.drop_append_of_le_length hgap]
    have hne : s.drop (Lexeme.gap s) ≠ [] := by
      intro hnil
      rw [hnil] at h
      cases h
    have hfront : Lexeme.front? ((s ++ c :: t).drop (Lexeme.gap (s ++ c :: t))) =
        some m.endLine := by
      rw [hdrop, Lexeme.front?_stop t hc hne, h]
      rfl
    have hrest := ih fun hmem => hzero (List.mem_of_mem_drop (List.mem_of_mem_drop hmem))
    have hlen : off + Lexeme.gap s + m.size + ((s.drop (Lexeme.gap s)).drop m.size).length =
        off + s.length := by
      simp only [List.length_drop] at hle ⊢
      omega
    rw [hlen] at hrest
    have hsplit : (s.drop (Lexeme.gap s) ++ c :: t).drop m.endLine.size =
        (s.drop (Lexeme.gap s)).drop m.size ++ c :: t := List.drop_append_of_le_length hle
    rw [ofText_some h, ofText_some hfront, hdrop, Lexeme.gap_stop t hc, hsplit]
    change Reading.mk (⟨_, m.endLine⟩ :: (ofText (off + Lexeme.gap s + m.size) _).lexemes)
      (ofText (off + Lexeme.gap s + m.size) _).stop = _
    rw [hrest]
    rfl

end FrontEnd
