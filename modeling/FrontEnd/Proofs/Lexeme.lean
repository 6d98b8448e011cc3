import FrontEnd.Proofs.Reporting
import FrontEnd.Proofs.Utf8
import FrontEnd.Scan.Lexeme
import FrontEnd.Token.Basic

/-!
What every lexeme keeps, whichever routine read it: it takes at least one octet and none behind the
text, its text is the one a token of its kind has, and everything that is wrong with it can be
reported and, an open string apart, does not depend on where the input ends. The empty text and the
end of input are no lexeme.
-/
namespace FrontEnd

/-- The arguments of a finding suffice for the message of its code. -/
def Finding.Reportable (f : Finding) : Prop := ∃ m, Template.expand f.code.template f.args = .ok m

theorem Finding.reportable_of_names {f : Finding}
    (h : Template.names f.args.length f.code.template = true) : f.Reportable :=
  Template.expand_names h

/-- A finding that can be reported and does not depend on where the input ends. -/
structure Finding.Local (f : Finding) : Prop where
  reportable : f.Reportable
  code_ne : f.code ≠ Code.endInLiteral

theorem Finding.local_of_names {f : Finding}
    (h : Template.names f.args.length f.code.template = true ∧ f.code ≠ Code.endInLiteral) :
    f.Local :=
  ⟨Finding.reportable_of_names h.1, h.2⟩

/-- A text is the one of a token of the given kind that covers `source`. -/
def Token.TextOf (kind : Kind) (text source : Bytes) : Prop :=
  match Token.delimiter? kind with
  | some q => source.head? = some q ∧ text <+: source.tail
  | none => text = source

theorem Token.textOf_plain {kind : Kind} (h : Token.delimiter? kind = none) (source : Bytes) :
    Token.TextOf kind source source := by
  simp [TextOf, h]

/-- The text of a literal is shorter than what the literal covers, any other text is just that. -/
theorem Token.textOf_eq_iff {kind : Kind} {text source : Bytes}
    (h : Token.TextOf kind text source) : text = source ↔ Token.delimiter? kind = none := by
  cases hd : Token.delimiter? kind with
  | none => simpa [TextOf, hd] using h
  | some q =>
    simp only [TextOf, hd] at h
    simp only [reduceCtorEq, iff_false]
    rintro rfl
    have hlen := h.2.length_le
    cases text with
    | nil => simp at h
    | cons b r => simp only [List.tail_cons, List.length_cons] at hlen; omega

namespace Lexeme

/-- A lexeme as it is found at the front of a text. -/
structure Fronts (m : Lexeme) (s : Bytes) : Prop where
  size_pos : 0 < m.size
  size_le : m.size ≤ s.length
  kind_ne : m.kind ≠ .eof
  kind_coded : Kind.ofCode m.kind.code = m.kind
  text : Token.TextOf m.kind m.text (s.take m.size)
  findings : ∀ f ∈ m.findings, f.Local ∨ s.head? = some 34 ∧ f = whole Code.endInLiteral m.size

theorem Fronts.reportable {m : Lexeme} {s : Bytes} (h : m.Fronts s) {f : Finding}
    (hf : f ∈ m.findings) : f.Reportable := by
  rcases h.findings f hf with hlocal | ⟨-, rfl⟩
  · exact hlocal.reportable
  · exact Finding.reportable_of_names
      (show Template.names 0 Code.endInLiteral.template = true by decide)

/-- A kind of token that only stands for what is written, unlike a literal between quotes. -/
def Verbatim (kind : Kind) : Prop :=
  kind ≠ .eof ∧ Kind.ofCode kind.code = kind ∧ Token.delimiter? kind = none

instance (kind : Kind) : Decidable (Verbatim kind) := inferInstanceAs (Decidable (_ ∧ _ ∧ _))

theorem ofSize_fronts {kind : Kind} (hk : Verbatim kind) {n : Nat} {s : Bytes} (hpos : 0 < n)
    (hle : n ≤ s.length) : (ofSize kind n s).Fronts s where
  size_pos := hpos
  size_le := hle
  kind_ne := hk.1
  kind_coded := hk.2.1
  text := Token.textOf_plain hk.2.2 _
  findings := by simp [ofSize]

theorem malformed_fronts {s : Bytes} (hs : s ≠ []) : (malformed s).Fronts s := by
  have h := ofSize_fronts (by decide : Verbatim .invalid) (Utf8.itemSize_pos s)
    (Utf8.itemSize_le hs)
  refine ⟨h.size_pos, h.size_le, h.kind_ne, h.kind_coded, h.text, ?_⟩
  intro f hf
  simp only [malformed, List.mem_singleton] at hf
  subst hf
  exact .inl (Finding.local_of_names (show Template.names 1 Code.malformedChar.template = true ∧
    Code.malformedChar ≠ Code.endInLiteral by decide))

/-- A run ends at the end of the text or before what does not belong to it. -/
theorem takeWhile_next {p : UInt8 → Bool} {s : Bytes} {b : UInt8}
    (h : s[(s.takeWhile p).length]? = some b) : p b = false := by
  induction s with
  | nil => cases h
  | cons c r ih =>
    cases hc : p c with
    | true =>
      rw [List.takeWhile_cons_of_pos hc] at h
      exact ih h
    | false =>
      rw [List.takeWhile_cons_of_neg (by simp [hc])] at h
      cases h
      exact hc

theorem identSize_add (n : Nat) (s : Bytes) : identSize n s = n + identSize 0 s := by
  suffices h : ∀ k n, identSize (n + k) s = k + identSize n s by
    simpa [Nat.add_comm] using h n 0
  intro k n
  induction n, s using identSize.induct with
  | case1 n => simp [identSize, Nat.add_comm]
  | case2 n b r hb hi ih =>
    rw [identSize, identSize, if_pos hb, if_pos hi, if_pos hb, if_pos hi, ← ih]
    congr 1
    omega
  | case3 n b r hb hi =>
    rw [identSize, identSize, if_pos hb, if_neg hi, if_pos hb, if_neg hi]
    omega
  | case4 n b r hb c size hd hl ih =>
    rw [identSize, identSize]
    simp only [hb, if_false, hd, hl, if_true]
    rw [← ih]
    congr 1
    omega
  | case5 n b r hb c size hd hl =>
    rw [identSize, identSize]
    simp only [hb, if_false, hd, hl, Bool.false_eq_true]
    omega
  | case6 n b r hb hd =>
    rw [identSize, identSize]
    simp only [hb, if_false, hd]
    omega

theorem identSize_le (n : Nat) (s : Bytes) : n ≤ identSize n s ∧ identSize n s ≤ n + s.length := by
  induction n, s using identSize.induct with
  | case1 n => simp [identSize]
  | case2 n b r hb hi ih =>
    rw [identSize, if_pos hb, if_pos hi, List.length_cons]
    omega
  | case3 n b r hb hi =>
    rw [identSize, if_pos hb, if_neg hi]
    omega
  | case4 n b r hb c size hd hl ih =>
    rw [identSize]
    have hsize := Utf8.decode?_size hd
    simp only [hb, if_false, hd, hl, if_true, List.length_cons, List.length_drop] at ih hsize ⊢
    omega
  | case5 n b r hb c size hd hl =>
    rw [identSize]
    simp only [hb, if_false, hd, hl, Bool.false_eq_true]
    omega
  | case6 n b r hb hd =>
    rw [identSize]
    simp only [hb, if_false, hd]
    omega

theorem keyword?_verbatim {w : Bytes} {k : Kind} (h : Kind.keyword? w = some k) : Verbatim k := by
  unfold Kind.keyword? at h
  split at h
  · cases h; decide
  split at h
  · cases h; decide
  split at h
  · cases h; decide
  · cases h

theorem word_fronts {n : Nat} {s : Bytes} (hpos : 0 < n) (hle : n ≤ s.length) :
    (word n s).Fronts s := by
  refine ofSize_fronts ?_ hpos hle
  cases h : Kind.keyword? (s.take n) with
  | none => decide
  | some k => exact keyword?_verbatim h

theorem isIdentStart_ascii {b : UInt8} (h : isIdentStart b = true) : b < 0x80 := by
  simp only [isIdentStart, Bool.or_eq_true, Bool.and_eq_true, beq_iff_eq, decide_eq_true_eq] at h
  grind

theorem asciiWord_fronts {b : UInt8} {r : Bytes} (hb : isIdentStart b = true) :
    (asciiWord (b :: r)).Fronts (b :: r) := by
  have hbyte : isIdentByte b = true := by simp [isIdentByte, hb]
  have hstart : identSize 0 (b :: r) = identSize 1 r := by
    rw [identSize, if_pos (isIdentStart_ascii hb), if_pos hbyte]
  have hlow := identSize_le 1 r
  apply word_fronts
  · omega
  · rw [hstart, List.length_cons]
    omega

theorem letterWord_fronts {s : Bytes} {c : Char} {k : Nat} (hd : Utf8.decode? s = some (c, k)) :
    (word (identSize k (s.drop k)) s).Fronts s := by
  have hsize := Utf8.decode?_size hd
  have hle := identSize_le k (s.drop k)
  rw [List.length_drop] at hle
  exact word_fronts (by omega) (by omega)

/-- An integer is too large or no number. -/
theorem numberFinding?_eq_some {text : Bytes} {f : Finding} (h : numberFinding? text = some f) :
    f = whole Code.numberOverflow text.length [.text text, .uint 64] ∨
      f = whole Code.badNumber text.length [.text text] := by
  simp only [numberFinding?] at h
  split at h
  · cases h
  split at h
  · exact .inl (Option.some.inj h).symm
  · exact .inr (Option.some.inj h).symm

theorem numberFinding?_local {text : Bytes} {f : Finding} (h : numberFinding? text = some f) :
    f.Local := by
  rcases numberFinding?_eq_some h with rfl | rfl
  · exact Finding.local_of_names (show Template.names 2 Code.numberOverflow.template = true ∧
      Code.numberOverflow ≠ Code.endInLiteral by decide)
  · exact Finding.local_of_names (show Template.names 1 Code.badNumber.template = true ∧
      Code.badNumber ≠ Code.endInLiteral by decide)

theorem number_fronts {b : UInt8} {r : Bytes} (hb : Bytes.isDecimalDigit b = true) :
    (number (b :: r)).Fronts (b :: r) where
  size_pos := by simp [number, isIdentByte, hb]
  size_le := (List.takeWhile_prefix _).length_le
  kind_ne := by simp [number]
  kind_coded := rfl
  text := by
    change Token.TextOf .intLit ((b :: r).takeWhile isIdentByte) _
    have h : (b :: r).take ((b :: r).takeWhile isIdentByte).length =
        (b :: r).takeWhile isIdentByte :=
      (List.prefix_iff_eq_take.mp (List.takeWhile_prefix _)).symm
    rw [show (number (b :: r)).size = ((b :: r).takeWhile isIdentByte).length from rfl, h]
    exact Token.textOf_plain rfl _
  findings := by
    intro f hf
    exact .inl (numberFinding?_local (Option.mem_toList.mp hf))

theorem escapeFinding?_eq_some {start : Nat} {c : UInt8} {f : Finding}
    (h : escapeFinding? start c = some f) :
    f = ⟨Code.unknownEscape, start, 2, [.text [92, c]]⟩ := by
  unfold escapeFinding? at h
  split at h
  · cases h
  · exact (Option.some.inj h).symm

theorem escapeFinding?_local {start : Nat} {c : UInt8} {f : Finding}
    (h : escapeFinding? start c = some f) : f.Local := by
  rw [escapeFinding?_eq_some h]
  exact Finding.local_of_names (show Template.names 1 Code.unknownEscape.template = true ∧
    Code.unknownEscape ≠ Code.endInLiteral by decide)

section StringBody

variable (n : Nat) (found : List Finding) {b c : UInt8} (r : Bytes)

theorem stringBody_nil : stringBody n found [] = ⟨n, found.reverse, .endOfInput⟩ := rfl

theorem stringBody_quote : stringBody n found (34 :: r) = ⟨n, found.reverse, .closed⟩ := by
  rw [stringBody.eq_def]
  rfl

theorem stringBody_boundary (hb : isBoundary b = true) :
    stringBody n found (b :: r) = ⟨n, found.reverse, .boundary⟩ := by
  have hq : b ≠ 34 := by rintro rfl; cases hb
  rw [stringBody.eq_def]
  simp only [hq, if_false, hb, if_true]

theorem stringBody_dangling :
    stringBody n found [92] = ⟨n + 1, found.reverse, .endOfInput⟩ := rfl

theorem stringBody_dangling_boundary (hc : isBoundary c = true) :
    stringBody n found (92 :: c :: r) = ⟨n + 1, found.reverse, .boundary⟩ := by
  change (if isBoundary c = true then _ else _) = _
  rw [if_pos hc]

theorem stringBody_escape (hc : isBoundary c = false) :
    stringBody n found (92 :: c :: r) =
      stringBody (n + 2) ((escapeFinding? (n + 1) c).toList ++ found) r := by
  change (if isBoundary c = true then _ else _) = _
  rw [if_neg (by simp [hc])]

theorem stringBody_plain (hq : b ≠ 34) (hb : isBoundary b = false) (he : b ≠ 92) :
    stringBody n found (b :: r) = stringBody (n + 1) found r := by
  rw [stringBody.eq_def]
  simp only [hq, hb, he, if_false, Bool.false_eq_true]

end StringBody

/-- A text read as the inside of a string: one case for each way to go on or to stop. -/
@[elab_as_elim]
theorem inside_induction {motive : Bytes → Prop} (nil : motive [])
    (quote : ∀ r, motive (34 :: r))
    (boundary : ∀ b r, isBoundary b = true → motive (b :: r))
    (dangling : motive [92])
    (dangling_boundary : ∀ c r, isBoundary c = true → motive (92 :: c :: r))
    (escape : ∀ c r, isBoundary c = false → motive r → motive (92 :: c :: r))
    (plain : ∀ b r, b ≠ 34 → isBoundary b = false → b ≠ 92 → motive r → motive (b :: r)) :
    ∀ s, motive s
  | [] => nil
  | b :: r => by
    by_cases hq : b = 34
    · exact hq ▸ quote r
    by_cases he : b = 92
    · subst he
      match r with
      | [] => exact dangling
      | c :: r' =>
        cases hc : isBoundary c with
        | true => exact dangling_boundary c r' hc
        | false =>
          exact escape c r' hc (inside_induction nil quote boundary dangling dangling_boundary
            escape plain r')
    cases hb : isBoundary b with
    | true => exact boundary b r hb
    | false =>
      exact plain b r hq hb he (inside_induction nil quote boundary dangling dangling_boundary
        escape plain r)

/-- The inside of a string stays in the text, and a quote that closes it does too. -/
theorem stringBody_size (n : Nat) (found : List Finding) (s : Bytes) :
    (stringBody n found s).size ≤ n + s.length ∧
      ((stringBody n found s).ending = .closed → (stringBody n found s).size < n + s.length) := by
  induction s using inside_induction generalizing n found with
  | nil => simp [stringBody_nil]
  | quote r => simp [stringBody_quote]
  | boundary b r hb => simp [stringBody_boundary _ _ _ hb]
  | dangling => simp [stringBody_dangling]
  | dangling_boundary c r hc =>
    simp only [stringBody_dangling_boundary _ _ _ hc, List.length_cons, reduceCtorEq,
      false_imp_iff, and_true]
    omega
  | escape c r hc ih =>
    have h := ih (n + 2) ((escapeFinding? (n + 1) c).toList ++ found)
    rw [stringBody_escape _ _ _ hc, List.length_cons, List.length_cons]
    exact ⟨by omega, fun hclosed => by have := h.2 hclosed; omega⟩
  | plain b r hq hb he ih =>
    have h := ih (n + 1) found
    rw [stringBody_plain _ _ _ hq hb he, List.length_cons]
    exact ⟨by omega, fun hclosed => by have := h.2 hclosed; omega⟩

/-- A string is closed by a quote right behind its inside. -/
theorem stringBody_closed (n : Nat) (found : List Finding) (s : Bytes)
    (h : (stringBody n found s).ending = .closed) :
    ∃ k t, (stringBody n found s).size = n + k ∧ s.drop k = 34 :: t := by
  induction s using inside_induction generalizing n found with
  | nil => cases h
  | quote r => exact ⟨0, r, by simp [stringBody_quote], rfl⟩
  | boundary b r hb => simp [stringBody_boundary _ _ _ hb] at h
  | dangling => cases h
  | dangling_boundary c r hc => simp [stringBody_dangling_boundary _ _ _ hc] at h
  | escape c r hc ih =>
    rw [stringBody_escape _ _ _ hc] at h ⊢
    obtain ⟨k, t, hk, ht⟩ := ih _ _ h
    exact ⟨k + 2, t, by omega, ht⟩
  | plain b r hq hb he ih =>
    rw [stringBody_plain _ _ _ hq hb he] at h ⊢
    obtain ⟨k, t, hk, ht⟩ := ih _ _ h
    exact ⟨k + 1, t, by omega, ht⟩

theorem stringBody_local (n : Nat) {found : List Finding} (h : ∀ f ∈ found, f.Local) (s : Bytes) :
    ∀ f ∈ (stringBody n found s).findings, f.Local := by
  induction s using inside_induction generalizing n found with
  | nil => simpa [stringBody_nil] using h
  | quote r => simpa [stringBody_quote] using h
  | boundary b r hb => simpa [stringBody_boundary _ _ _ hb] using h
  | dangling => simpa [stringBody_dangling] using h
  | dangling_boundary c r hc => simpa [stringBody_dangling_boundary _ _ _ hc] using h
  | escape c r hc ih =>
    rw [stringBody_escape _ _ _ hc]
    apply ih
    intro f hf
    rcases List.mem_append.mp hf with hf | hf
    · exact escapeFinding?_local (Option.mem_toList.mp hf)
    · exact h f hf
  | plain b r hq hb he ih =>
    rw [stringBody_plain _ _ _ hq hb he]
    exact ih (n + 1) h

theorem append_whole_local {found : List Finding} (h : ∀ f ∈ found, f.Local) {code : Code}
    (hc : Template.names 0 code.template = true ∧ code ≠ Code.endInLiteral) (n : Nat) :
    ∀ f ∈ found ++ [whole code n], f.Local := by
  intro f hf
  rcases List.mem_append.mp hf with hf | hf
  · exact h f hf
  · rw [List.mem_singleton.mp hf]
    exact Finding.local_of_names hc

/-- A lexeme that reaches over a literal's opening quote and text. -/
theorem literal_text {kind : Kind} {q : UInt8} (hk : Token.delimiter? kind = some q) {r : Bytes}
    {n size : Nat} (h : n + 1 ≤ size) : Token.TextOf kind (r.take n) ((q :: r).take size) := by
  obtain ⟨k, rfl⟩ : ∃ k, size = k + 1 := ⟨size - 1, by omega⟩
  simp only [Token.TextOf, hk, List.take_succ_cons, List.head?_cons, List.tail_cons, true_and]
  exact List.take_prefix_take_left (by omega)

theorem string_kind (s : Bytes) : (string s).kind = .stringLit := by
  unfold string
  dsimp only
  split <;> rfl

theorem string_fronts (r : Bytes) : (string (34 :: r)).Fronts (34 :: r) := by
  have hsize := stringBody_size 0 [] r
  have hlocal := stringBody_local 0 (List.forall_mem_nil _) r
  unfold string
  simp only [List.drop_succ_cons, List.drop_zero]
  cases he : (stringBody 0 [] r).ending with
  | closed =>
    have hlt := hsize.2 he
    exact ⟨by simp,
      by simp only [List.length_cons]; omega, by simp, rfl, literal_text rfl (by simp),
      fun f hf => .inl (hlocal f hf)⟩
  | boundary =>
    exact ⟨by simp,
      by simp only [List.length_cons]; omega, by simp, rfl, literal_text rfl (by simp),
      fun f hf => .inl (append_whole_local hlocal (by decide) _ f hf)⟩
  | endOfInput =>
    refine ⟨by simp, by simp only [List.length_cons]; omega, by simp, rfl,
      literal_text rfl (by simp), ?_⟩
    intro f hf
    rcases List.mem_append.mp hf with hf | hf
    · exact .inl (hlocal f hf)
    · exact .inr ⟨rfl, List.mem_singleton.mp hf⟩

theorem charBody_of_ne {b : UInt8} (hb : b ≠ 92) (r : Bytes) :
    charBody (b :: r) = (Utf8.itemSize (b :: r), []) := by
  unfold charBody
  split
  · rename_i hs
    cases hs
    exact absurd rfl hb
  · rename_i hs
    cases hs
    exact absurd rfl hb
  · rfl

theorem charBody_size {s : Bytes} (hs : s ≠ []) :
    0 < (charBody s).1 ∧ (charBody s).1 ≤ s.length := by
  unfold charBody
  split
  · split <;> simp
  · simp
  · exact ⟨Utf8.itemSize_pos s, Utf8.itemSize_le hs⟩

theorem charBody_local (s : Bytes) : ∀ f ∈ (charBody s).2, f.Local := by
  unfold charBody
  split
  · split
    · simp
    · intro f hf
      exact escapeFinding?_local (Option.mem_toList.mp hf)
  · simp
  · simp

/-- What is read as a character literal, by what stands behind its quote: nothing that belongs to
it, a quote, or a character that a quote follows at once, later or not before the literal ends. -/
inductive CharReads : Bytes → Lexeme → Prop
  | cut {r : Bytes} (hr : ∀ b, r.head? = some b → isBoundary b = true) :
      CharReads r
        { kind := .charLit, size := 1, text := [], findings := [whole Code.unterminatedChar 1] }
  | empty (r : Bytes) :
      CharReads (39 :: r)
        { kind := .charLit, size := 2, text := [], findings := [whole Code.emptyChar 2] }
  | single {r : Bytes} {n : Nat} {found : List Finding} (hbody : charBody r = (n, found))
      (hquote : r[n]? = some 39) :
      CharReads r { kind := .charLit, size := n + 2, text := r.take n, findings := found }
  | several {r : Bytes} {n extra : Nat} {found : List Finding} (hbody : charBody r = (n, found))
      (hquote : r[n + extra]? = some 39) :
      CharReads r
        { kind := .charLit, size := n + extra + 2, text := r.take n
          findings := found ++ [whole Code.multiCharLiteral (n + extra + 2)] }
  | unclosed {r : Bytes} {n extra : Nat} {found : List Finding} (hr : r ≠ [])
      (hbody : charBody r = (n, found)) (hle : n + extra ≤ r.length)
      (hend : ∀ c, r[n + extra]? = some c → isBoundary c = true) :
      CharReads r
        { kind := .charLit, size := n + extra + 1, text := r.take n
          findings := found ++ [whole Code.unterminatedChar (n + extra + 1)] }

theorem char_reads (r : Bytes) : CharReads r (char (39 :: r)) := by
  unfold char
  simp only [List.drop_succ_cons, List.drop_zero]
  match r with
  | [] => exact .cut nofun
  | b :: r =>
    dsimp only
    split
    · rename_i hquote
      exact hquote ▸ .empty r
    split
    · rename_i hbound
      exact .cut fun c hc => Option.some.inj hc ▸ hbound
    have hn := (charBody_size (List.cons_ne_nil b r)).2
    rcases hbody : charBody (b :: r) with ⟨n, found⟩
    rw [hbody] at hn
    dsimp only at hn ⊢
    generalize hextra :
      (((b :: r).drop n).takeWhile fun c => c != 39 && !isBoundary c).length = extra
    rw [List.head?_drop, List.getElem?_drop]
    split
    · rename_i hquote
      split
      · rename_i hzero
        subst hzero
        exact .single hbody hquote
      · exact .several hbody hquote
    · rename_i hquote
      have hle : extra ≤ ((b :: r).drop n).length := hextra ▸ (List.takeWhile_prefix _).length_le
      rw [List.length_drop] at hle
      refine .unclosed (List.cons_ne_nil b r) hbody (by omega) ?_
      intro c hc
      rw [hc] at hquote
      rw [← List.getElem?_drop, ← hextra] at hc
      have hnext := takeWhile_next hc
      rw [Bool.and_eq_false_iff, bne_eq_false_iff_eq, Bool.not_eq_false'] at hnext
      exact hnext.resolve_left fun hc39 => hquote (congrArg some hc39)

theorem char_local (r : Bytes) : ∀ f ∈ (char (39 :: r)).findings, f.Local := by
  have hbody := charBody_local r
  have hreads := char_reads r
  generalize char (39 :: r) = m at hreads ⊢
  cases hreads with
  | cut => exact append_whole_local (List.forall_mem_nil _) (by decide) 1
  | empty => exact append_whole_local (List.forall_mem_nil _) (by decide) 2
  | single heq =>
    rw [heq] at hbody
    exact hbody
  | several heq =>
    rw [heq] at hbody
    exact append_whole_local hbody (by decide) _
  | unclosed _ heq =>
    rw [heq] at hbody
    exact append_whole_local hbody (by decide) _

theorem char_extent (r : Bytes) :
    (char (39 :: r)).kind = .charLit ∧ 0 < (char (39 :: r)).size ∧
      (char (39 :: r)).size ≤ (39 :: r).length ∧
      Token.TextOf .charLit (char (39 :: r)).text ((39 :: r).take (char (39 :: r)).size) := by
  have hreads := char_reads r
  generalize char (39 :: r) = m at hreads ⊢
  cases hreads with
  | cut => exact ⟨rfl, by simp, by simp, by simp [Token.TextOf, Token.delimiter?]⟩
  | empty => exact ⟨rfl, by simp, by simp, by simp [Token.TextOf, Token.delimiter?]⟩
  | single _ hquote =>
    have hlt := (List.getElem?_eq_some_iff.mp hquote).1
    exact ⟨rfl, by simp, by simp only [List.length_cons]; omega,
      literal_text rfl (by dsimp only; omega)⟩
  | several _ hquote =>
    have hlt := (List.getElem?_eq_some_iff.mp hquote).1
    exact ⟨rfl, by simp, by simp only [List.length_cons]; omega,
      literal_text rfl (by dsimp only; omega)⟩
  | unclosed _ _ hle =>
    exact ⟨rfl, by simp, by simp only [List.length_cons]; omega,
      literal_text rfl (by dsimp only; omega)⟩

theorem char_fronts (r : Bytes) : (char (39 :: r)).Fronts (39 :: r) := by
  obtain ⟨hkind, hpos, hle, htext⟩ := char_extent r
  exact ⟨hpos, hle, by simp [hkind], by rw [hkind]; rfl, hkind ▸ htext,
    fun f hf => .inl (char_local _ f hf)⟩

theorem punctuation?_verbatim {b : UInt8} {k : Kind} (h : Kind.punctuation? b = some k) :
    Verbatim k := by
  unfold Kind.punctuation? at h
  split at h <;> cases h <;> decide

theorem punctuation_of_not_arrow {b : UInt8} {r : Bytes} (h : ¬ (b = 45 ∧ r.head? = some 62)) :
    punctuation (b :: r) =
      (Kind.punctuation? b).elim (malformed (b :: r)) fun k => ofSize k 1 (b :: r) := by
  unfold punctuation
  split
  · rename_i hs
    cases hs
    exact absurd ⟨rfl, rfl⟩ h
  · rename_i hs
    cases hs
    cases Kind.punctuation? b <;> rfl
  · contradiction

/-- What is read at the front of a text, by what stands there. -/
inductive Reads : Bytes → Lexeme → Prop
  | newLine {b : UInt8} (hb : isLineEnd b = true ∨ b = 59) (r : Bytes) :
      Reads (b :: r) (ofSize .newLine 1 (b :: r))
  | string (r : Bytes) : Reads (34 :: r) (string (34 :: r))
  | char (r : Bytes) : Reads (39 :: r) (char (39 :: r))
  | asciiWord {b : UInt8} (hb : isIdentStart b = true) (r : Bytes) :
      Reads (b :: r) (asciiWord (b :: r))
  | letterWord {s : Bytes} {c : Char} {k : Nat} (hd : Utf8.decode? s = some (c, k)) :
      Reads s (word (identSize k (s.drop k)) s)
  | number {b : UInt8} (hb : Bytes.isDecimalDigit b = true) (r : Bytes) :
      Reads (b :: r) (number (b :: r))
  | arrow (r : Bytes) : Reads (45 :: 62 :: r) (ofSize .arrow 2 (45 :: 62 :: r))
  | mark {b : UInt8} {k : Kind} (hk : Kind.punctuation? b = some k) (r : Bytes) :
      Reads (b :: r) (ofSize k 1 (b :: r))
  | malformed {s : Bytes} (hs : s ≠ []) : Reads s (malformed s)

theorem letterWord_reads {s : Bytes} (hs : s ≠ []) : Reads s (letterWord s) := by
  unfold letterWord
  split
  · rename_i hd
    split
    · exact .letterWord hd
    · exact .malformed hs
  · exact .malformed hs

theorem punctuation_reads {s : Bytes} (hs : s ≠ []) : Reads s (punctuation s) := by
  unfold punctuation
  split
  · exact .arrow _
  · split
    · rename_i hk
      exact .mark hk _
    · exact .malformed hs
  · exact .malformed hs

theorem front?_reads {s : Bytes} {m : Lexeme} (h : front? s = some m) : Reads s m := by
  unfold front? at h
  split at h
  · cases h
  rename_i b r
  split at h
  · cases h
  split at h
  · rename_i hb
    cases h
    exact .newLine (by simpa using hb) r
  split at h
  · rename_i hq
    cases h
    exact hq ▸ .string r
  split at h
  · rename_i hq
    cases h
    exact hq ▸ .char r
  split at h
  · rename_i hi
    cases h
    exact .asciiWord hi r
  split at h
  · cases h
    exact letterWord_reads (List.cons_ne_nil b r)
  split at h
  · rename_i hd
    cases h
    exact .number hd r
  · cases h
    exact punctuation_reads (List.cons_ne_nil b r)

/-- Whatever stands at the front of a text, its lexeme is well formed. -/
theorem front?_fronts {s : Bytes} {m : Lexeme} (h : front? s = some m) : m.Fronts s := by
  cases front?_reads h with
  | newLine _ r => exact ofSize_fronts (by decide) (by simp) (by simp)
  | string r => exact string_fronts r
  | char r => exact char_fronts r
  | asciiWord hb r => exact asciiWord_fronts hb
  | letterWord hd => exact letterWord_fronts hd
  | number hb r => exact number_fronts hb
  | arrow r => exact ofSize_fronts (by decide) (by simp) (by simp)
  | mark hk r => exact ofSize_fronts (punctuation?_verbatim hk) (by simp) (by simp)
  | malformed hs => exact malformed_fronts hs

/-- Only at its end or at a zero octet does a text without blanks in front have no lexeme. -/
theorem front?_eq_none_iff {s : Bytes} : front? s = none ↔ s = [] ∨ s.head? = some 0 := by
  unfold front?
  split
  · simp
  · rename_i b r
    by_cases hb : b = 0
    · simp [hb]
    · simp only [hb, if_false, List.head?_cons, Option.some.injEq, or_false,
        reduceCtorEq, iff_false]
      repeat' split
      all_goals simp

end Lexeme

end FrontEnd
