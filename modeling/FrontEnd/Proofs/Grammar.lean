import FrontEnd.Proofs.LineBreak
import FrontEnd.Proofs.Numeral

/-!
The lexical grammar: what a literal is, told by its octets alone. A scan reports nothing just when
each of its tokens is written as the grammar says. Reading a literal decides the grammar, so in both
directions: the octets of a literal without findings are of the form, and of what has the form
nothing is found wrong.
-/
namespace FrontEnd

namespace Grammar

/-- The octets that a backslash may precede. -/
def escapes : Bytes := [39, 34, 63, 92, 97, 98, 102, 110, 114, 116, 118]

/-- What stands between the quotes of a string. -/
inductive StringInside : Bytes → Prop
  | nil : StringInside []
  | octet {b : UInt8} {s : Bytes} (hb : b ∉ [34, 92, 10, 13, 0]) (hs : StringInside s) :
      StringInside (b :: s)
  | escape {c : UInt8} {s : Bytes} (hc : c ∈ escapes) (hs : StringInside s) :
      StringInside (92 :: c :: s)

def StringLiteral (s : Bytes) : Prop := ∃ inside, s = 34 :: inside ++ [34] ∧ StringInside inside

/-- What stands between the quotes of a character: a character, an octet at which none is encoded,
or an escape. -/
inductive CharInside : Bytes → Prop
  | char {ch : Char} (h : ch.toNat ∉ [39, 92, 10, 13, 0]) : CharInside (Utf8.encode ch)
  | octet {b : UInt8} (h : ∀ ch, ¬ Utf8.encode ch <+: [b, 39]) : CharInside [b]
  | escape {c : UInt8} (hc : c ∈ escapes) : CharInside [92, c]

def CharLiteral (s : Bytes) : Prop := ∃ inside, s = 39 :: inside ++ [39] ∧ CharInside inside

/-- The radix of an integer, and its digits without what tells the radix. -/
inductive Radix : Bytes → Nat → Bytes → Prop
  | hexadecimal {x : UInt8} {ds : Bytes} (hx : x = 120 ∨ x = 88) : Radix (48 :: x :: ds) 16 ds
  | binary {x : UInt8} {ds : Bytes} (hx : x = 98 ∨ x = 66) : Radix (48 :: x :: ds) 2 ds
  | octal {ds : Bytes} : Radix (48 :: 111 :: ds) 8 ds
  | zero {d : UInt8} {ds : Bytes} (hd : Bytes.isDecimalDigit d = true) :
      Radix (48 :: d :: ds) 8 (d :: ds)
  | decimal {ds : Bytes} (h : ∀ x r, ds = 48 :: x :: r →
      x ∉ [120, 88, 98, 66, 111] ∧ Bytes.isDecimalDigit x = false) : Radix ds 10 ds

/-- Digits of some radix, at least one, and their value fits 64 bits. -/
def IntLiteral (s : Bytes) : Prop :=
  ∃ radix digits values, Radix s radix digits ∧ digits ≠ [] ∧
    digits.mapM (Bytes.digitOf? radix) = some values ∧ Nat.ofDigits radix values.reverse < 2 ^ 64

/-- The octets of a token are written as its kind demands. -/
def WellFormed (kind : Kind) (s : Bytes) : Prop :=
  match kind with
  | .invalid => False
  | .stringLit => StringLiteral s
  | .charLit => CharLiteral s
  | .intLit => IntLiteral s
  | _ => True

open Lexeme

/-- A kind whose octets are as they have to be whenever such a token is found. -/
def IsFree (kind : Kind) : Prop := kind ∉ [.invalid, .stringLit, .charLit, .intLit]

instance (kind : Kind) : Decidable (IsFree kind) := inferInstanceAs (Decidable (¬ _))

theorem wellFormed_of_isFree {kind : Kind} (h : IsFree kind) (s : Bytes) : WellFormed kind s := by
  unfold WellFormed
  split
  · exact absurd (by simp) h
  · exact absurd (by simp) h
  · exact absurd (by simp) h
  · exact absurd (by simp) h
  · trivial

theorem isSimpleEscape_iff {c : UInt8} : isSimpleEscape c = true ↔ c ∈ escapes :=
  List.contains_iff_mem

theorem escapeFinding?_eq_none_iff {start : Nat} {c : UInt8} :
    escapeFinding? start c = none ↔ c ∈ escapes := by
  rw [← isSimpleEscape_iff, escapeFinding?]
  split <;> simp_all

theorem not_isBoundary_of_mem_escapes {c : UInt8} (h : c ∈ escapes) : isBoundary c = false := by
  revert h
  simp only [escapes, List.mem_cons, List.not_mem_nil, or_false]
  rintro (rfl | rfl | rfl | rfl | rfl | rfl | rfl | rfl | rfl | rfl | rfl) <;> rfl

/-- What stands for itself between quotes `q`. -/
theorem plain_iff {q b : UInt8} :
    b ∉ [q, 92, 10, 13, 0] ↔ b ≠ q ∧ isBoundary b = false ∧ b ≠ 92 := by
  rw [← Bool.not_eq_true, isBoundary_iff]
  simp only [List.mem_cons, List.not_mem_nil, or_false]
  grind

/-- What has the form of a string's inside is read to the quote behind it, and nothing is found. -/
theorem StringInside.stringBody_eq {inside : Bytes} (h : StringInside inside)
    (n : Nat) (t : Bytes) :
    stringBody n [] (inside ++ 34 :: t) = ⟨n + inside.length, [], .closed⟩ := by
  induction h generalizing n with
  | nil => exact stringBody_quote n [] t
  | @octet b s hb _ ih =>
    obtain ⟨hq, hbound, he⟩ := plain_iff.mp hb
    rw [List.cons_append, stringBody_plain n [] _ hq hbound he, ih, List.length_cons]
    congr 1
    omega
  | @escape c s hc _ ih =>
    have hnone : escapeFinding? (n + 1) c = none := escapeFinding?_eq_none_iff.mpr hc
    rw [List.cons_append, List.cons_append,
      stringBody_escape n [] _ (not_isBoundary_of_mem_escapes hc), hnone, Option.toList_none,
      List.nil_append, ih, List.length_cons, List.length_cons]
    congr 1
    omega

/-- Of what stood in a string before, nothing is forgotten. -/
theorem stringBody_findings_mem {n : Nat} {found : List Finding} (s : Bytes) {f : Finding}
    (hf : f ∈ found) : f ∈ (stringBody n found s).findings := by
  induction s using inside_induction generalizing n found with
  | nil => simpa [stringBody_nil] using hf
  | quote r => simpa [stringBody_quote] using hf
  | boundary b r hb => simpa [stringBody_boundary _ _ _ hb] using hf
  | dangling => simpa [stringBody_dangling] using hf
  | dangling_boundary c r hc => simpa [stringBody_dangling_boundary _ _ _ hc] using hf
  | escape c r hc ih =>
    rw [stringBody_escape _ _ _ hc]
    exact ih (List.mem_append_right _ hf)
  | plain b r hq hb he ih =>
    rw [stringBody_plain _ _ _ hq hb he]
    exact ih hf

/-- A string that is closed and in which nothing is found has an inside of the form. -/
theorem stringInside_of_stringBody {n : Nat} {s : Bytes}
    (hclosed : (stringBody n [] s).ending = .closed) (hfound : (stringBody n [] s).findings = []) :
    ∃ inside t, s = inside ++ 34 :: t ∧ StringInside inside := by
  induction s using inside_induction generalizing n with
  | nil => cases hclosed
  | quote r => exact ⟨[], r, rfl, .nil⟩
  | boundary b r hb => simp [stringBody_boundary _ _ _ hb] at hclosed
  | dangling => cases hclosed
  | dangling_boundary c r hc => simp [stringBody_dangling_boundary _ _ _ hc] at hclosed
  | escape c r hc ih =>
    rw [stringBody_escape _ _ _ hc] at hclosed hfound
    have hnone : escapeFinding? (n + 1) c = none := by
      apply Option.eq_none_iff_forall_not_mem.mpr
      intro f hf
      have hmem := stringBody_findings_mem (n := n + 2) r
        (List.mem_append_left [] (Option.mem_toList.mpr hf))
      rw [hfound] at hmem
      cases hmem
    rw [hnone] at hclosed hfound
    obtain ⟨inside, t, rfl, hin⟩ := ih hclosed hfound
    exact ⟨92 :: c :: inside, t, rfl, .escape (escapeFinding?_eq_none_iff.mp hnone) hin⟩
  | plain b r hq hb he ih =>
    rw [stringBody_plain _ _ _ hq hb he] at hclosed hfound
    obtain ⟨inside, t, rfl, hin⟩ := ih hclosed hfound
    exact ⟨b :: inside, t, rfl, .octet (plain_iff.mpr ⟨hq, hb, he⟩) hin⟩

/-- A literal between quotes `q`. When a lexeme is silent only in front of an inside of the form,
and then is silent and covers just that, its silence says that what it covers is of the form. -/
theorem quoted_iff {q : UInt8} {r : Bytes} {m : Lexeme} {Inside : Bytes → Prop}
    (hsound : m.findings = [] → ∃ inside t, r = inside ++ q :: t ∧ Inside inside)
    (hcomplete : ∀ inside t, r = inside ++ q :: t → Inside inside →
      m.findings = [] ∧ m.size = inside.length + 2) :
    m.findings = [] ↔ ∃ inside, (q :: r).take m.size = q :: inside ++ [q] ∧ Inside inside := by
  constructor
  · intro hsilent
    obtain ⟨inside, t, rfl, hin⟩ := hsound hsilent
    have hsize : m.size = (q :: inside ++ [q]).length := by
      simp [(hcomplete inside t rfl hin).2]
    have hsplit : q :: (inside ++ q :: t) = (q :: inside ++ [q]) ++ t := by simp
    exact ⟨inside, by rw [hsplit, hsize, List.take_left], hin⟩
  · rintro ⟨inside, htake, hin⟩
    have hsplit := List.take_append_drop m.size (q :: r)
    rw [htake] at hsplit
    have hr : r = inside ++ q :: (q :: r).drop m.size := by simpa using hsplit.symm
    exact (hcomplete inside _ hr hin).1

theorem string_silent_iff (r : Bytes) :
    (string (34 :: r)).findings = [] ↔
      StringLiteral ((34 :: r).take (string (34 :: r)).size) := by
  apply quoted_iff
  · intro hsilent
    unfold string at hsilent
    simp only [List.drop_succ_cons, List.drop_zero] at hsilent
    split at hsilent
    · rename_i hclosed
      exact stringInside_of_stringBody hclosed hsilent
    · simp at hsilent
    · simp at hsilent
  · rintro inside t rfl hin
    simp [string, hin.stringBody_eq 0 t]

theorem ascii_of_stop {b : UInt8} (h : b ∈ [39, 92, 10, 13, 0]) : b < 0x80 := by
  revert h
  simp only [List.mem_cons, List.not_mem_nil, or_false]
  rintro (rfl | rfl | rfl | rfl | rfl) <;> decide

/-- Which characters have no place of their own in a literal shows in their first octets. -/
theorem encode_stop_iff {ch : Char} {b : UInt8} {r : Bytes} (hch : Utf8.encode ch = b :: r) :
    ch.toNat ∈ [39, 92, 10, 13, 0] ↔ b ∈ [39, 92, 10, 13, 0] := by
  constructor
  · intro h
    have hencodes : ∀ v ∈ [39, 92, 10, 13, 0],
        ∃ a ∈ ([39, 92, 10, 13, 0] : Bytes), Utf8.encode (Char.ofNat v) = [a] := by decide
    obtain ⟨a, ha, hea⟩ := hencodes _ h
    rw [Char.ofNat_toNat, hch] at hea
    cases hea
    exact ha
  · intro h
    have hmem : b ∈ Utf8.encode ch := by simp [hch]
    obtain ⟨-, rfl⟩ := Utf8.encode_ascii hmem (ascii_of_stop h)
    revert h
    simp only [List.mem_cons, List.not_mem_nil, or_false]
    rintro (rfl | rfl | rfl | rfl | rfl) <;> decide

/-- At an octet that starts no character in front of a quote, none is read, whatever follows. -/
theorem decode?_octet {b : UInt8} (h : ∀ ch, ¬ Utf8.encode ch <+: [b, 39]) (t : Bytes) :
    Utf8.decode? (b :: 39 :: t) = none := by
  apply Option.eq_none_iff_forall_not_mem.mpr
  intro ⟨ch, n⟩ hread
  obtain ⟨rest, heq, -⟩ := Utf8.encode_of_decode? hread
  have hsplit : [b, 39] ++ t = Utf8.encode ch ++ rest := heq
  rcases List.append_eq_append_iff.mp hsplit with ⟨u, hlong, -⟩ | ⟨u, hshort, -⟩
  · -- the character would take the quote with it
    have hmem : 39 ∈ Utf8.encode ch := by simp [hlong]
    have hone := (Utf8.encode_ascii hmem (by decide)).1
    rw [hlong] at hone
    cases hone
  · exact h ch ⟨u, hshort.symm⟩

/-- What has the form of a character's inside is taken as one character, and nothing is found. -/
theorem CharInside.charBody_eq {inside : Bytes} (h : CharInside inside) (t : Bytes) :
    ∃ b r, inside = b :: r ∧ b ≠ 39 ∧ isBoundary b = false ∧
      charBody (inside ++ 39 :: t) = (inside.length, []) := by
  cases h with
  | @char ch h =>
    obtain ⟨b, r, hch⟩ := List.exists_cons_of_ne_nil (Utf8.sequence_encode ch).length_le.1
    obtain ⟨hquote, hbound, hback⟩ := plain_iff.mp (mt (encode_stop_iff hch).mpr h)
    refine ⟨b, r, hch, hquote, hbound, ?_⟩
    have hsize : Utf8.itemSize (Utf8.encode ch ++ 39 :: t) = (Utf8.encode ch).length := by
      simp only [Utf8.itemSize, Utf8.decode?_encode_append]
    rw [← hsize, hch, List.cons_append]
    exact charBody_of_ne hback _
  | @octet b h =>
    have hhigh : ¬ b < 0x80 := by
      intro hb
      exact h _ ⟨[39], by rw [(Utf8.Sequence.one hb).encode_eq]; rfl⟩
    obtain ⟨hquote, hbound, hback⟩ := plain_iff.mp (mt ascii_of_stop hhigh)
    refine ⟨b, [], rfl, hquote, hbound, ?_⟩
    rw [List.singleton_append, charBody_of_ne hback, Utf8.itemSize, decode?_octet h t]
    rfl
  | @escape c hc =>
    refine ⟨92, [c], rfl, by decide, rfl, ?_⟩
    have hnone : escapeFinding? 1 c = none := escapeFinding?_eq_none_iff.mpr hc
    simp [charBody, not_isBoundary_of_mem_escapes hc, hnone]

/-- One character before a quote, with nothing wrong, has the form. -/
theorem charInside_of_charBody {b : UInt8} {r t : Bytes} (hquote : b ≠ 39)
    (hbound : isBoundary b = false) (hfound : (charBody (b :: r)).2 = [])
    (hend : (b :: r).drop (charBody (b :: r)).1 = 39 :: t) :
    CharInside ((b :: r).take (charBody (b :: r)).1) := by
  by_cases hback : b = 92
  · subst hback
    match r with
    | [] => simp [charBody] at hend
    | c :: r' =>
      cases hc : isBoundary c with
      | true =>
        simp only [charBody, hc, if_true, List.drop_succ_cons, List.drop_zero] at hend
        cases hend
        cases hc
      | false =>
        simp only [charBody, hc, Bool.false_eq_true, if_false, Option.toList_eq_nil_iff] at hfound ⊢
        exact .escape (escapeFinding?_eq_none_iff.mp hfound)
  · rw [charBody_of_ne hback] at hend ⊢
    simp only [Utf8.itemSize] at hend ⊢
    cases hread : Utf8.decode? (b :: r) with
    | none =>
      simp only [hread, List.drop_succ_cons, List.drop_zero] at hend ⊢
      apply CharInside.octet
      rintro ch ⟨u, hu⟩
      have hsome := Utf8.decode?_encode_append ch (u ++ t)
      rw [← List.append_assoc, hu, List.cons_append, List.singleton_append, ← hend, hread] at hsome
      cases hsome
    | some p =>
      obtain ⟨ch, n⟩ := p
      obtain ⟨rest, heq, rfl⟩ := Utf8.encode_of_decode? hread
      simp only [heq, List.take_left]
      obtain ⟨a, u, hch⟩ := List.exists_cons_of_ne_nil (Utf8.sequence_encode ch).length_le.1
      have hab : b = a := by
        rw [hch] at heq
        exact (List.cons.inj heq).1
      apply CharInside.char
      rw [encode_stop_iff hch, ← hab]
      exact plain_iff.mpr ⟨hquote, hbound, hback⟩

/-- A character is closed at once when the quote follows it, and only then. -/
theorem closed_iff (rest : Bytes) :
    ((rest.takeWhile fun c => c != 39 && !isBoundary c).length = 0 ∧
      (rest.drop (rest.takeWhile fun c => c != 39 && !isBoundary c).length).head? = some 39) ↔
        ∃ t, rest = 39 :: t := by
  constructor
  · rintro ⟨hextra, hhead⟩
    rw [hextra, List.drop_zero] at hhead
    exact List.head?_eq_some_iff.mp hhead
  · rintro ⟨t, rfl⟩
    simp

theorem char_findings_iff {b : UInt8} {r : Bytes} (hquote : b ≠ 39)
    (hbound : isBoundary b = false) :
    (char (39 :: b :: r)).findings = [] ↔
      (charBody (b :: r)).2 = [] ∧ ∃ t, (b :: r).drop (charBody (b :: r)).1 = 39 :: t := by
  rw [← closed_iff]
  unfold char
  simp only [List.drop_succ_cons, List.drop_zero, hquote, hbound, if_false, Bool.false_eq_true]
  generalize charBody (b :: r) = body
  obtain ⟨n, found⟩ := body
  dsimp only
  split
  · rename_i hhead
    split
    · rename_i hextra
      exact ⟨fun hfound => ⟨hfound, hextra, hhead⟩, fun h => h.1⟩
    · rename_i hextra
      exact ⟨fun hfound => by simp at hfound, fun h => absurd h.2.1 hextra⟩
  · rename_i hhead
    exact ⟨fun hfound => by simp at hfound, fun h => absurd h.2.2 hhead⟩

theorem char_silent_iff (r : Bytes) :
    (char (39 :: r)).findings = [] ↔ CharLiteral ((39 :: r).take (char (39 :: r)).size) := by
  apply quoted_iff
  · intro hsilent
    match r with
    | [] => cases hsilent
    | b :: r =>
      by_cases hquote : b = 39
      · subst hquote
        cases hsilent
      cases hbound : isBoundary b with
      | true =>
        simp [char, hquote, hbound] at hsilent
      | false =>
        obtain ⟨hfound, t, hend⟩ := (char_findings_iff hquote hbound).mp hsilent
        refine ⟨_, t, ?_, charInside_of_charBody hquote hbound hfound hend⟩
        rw [← hend, List.take_append_drop]
  · rintro inside t rfl hin
    obtain ⟨b, r, rfl, hquote, hbound, hbody⟩ := hin.charBody_eq t
    have hend : (b :: (r ++ 39 :: t)).drop (b :: r).length = 39 :: t := by simp
    rw [List.cons_append] at hbody ⊢
    constructor
    · rw [char_findings_iff hquote hbound, hbody]
      exact ⟨rfl, t, hend⟩
    · simp only [char, List.drop_succ_cons, List.drop_zero, hquote, hbound, if_false,
        Bool.false_eq_true, hbody, hend]
      rfl

theorem Radix.sensed {s ds : Bytes} {radix : Nat} (h : Radix s radix ds) :
    s.senseRadix = (radix, ds) := by
  cases h with
  | hexadecimal hx => rcases hx with rfl | rfl <;> rfl
  | binary hx => rcases hx with rfl | rfl <;> rfl
  | octal => rfl
  | @zero d ds hd =>
    -- no letter that tells a radix is a digit
    unfold Bytes.senseRadix
    split
    case h_6 heq =>
      cases heq
      rw [if_pos hd]
    case h_7 hnone => exact absurd rfl (hnone d ds)
    all_goals
      rename_i heq
      cases heq
      cases hd
  | decimal h =>
    unfold Bytes.senseRadix
    split
    · exact absurd (by simp) (h _ _ rfl).1
    · exact absurd (by simp) (h _ _ rfl).1
    · exact absurd (by simp) (h _ _ rfl).1
    · exact absurd (by simp) (h _ _ rfl).1
    · exact absurd (by simp) (h _ _ rfl).1
    · rw [if_neg (by simp [(h _ _ rfl).2])]
    · rfl

theorem radix_senseRadix (s : Bytes) : Radix s s.senseRadix.1 s.senseRadix.2 := by
  unfold Bytes.senseRadix
  split
  · exact .hexadecimal (.inl rfl)
  · exact .hexadecimal (.inr rfl)
  · exact .binary (.inl rfl)
  · exact .binary (.inr rfl)
  · exact .octal
  · rename_i d r h1 h2 h3 h4 h5
    cases hd : Bytes.isDecimalDigit d with
    | true => exact .zero hd
    | false =>
      refine .decimal ?_
      rintro x r' ⟨⟩
      exact ⟨by simpa using ⟨h1, h2, h3, h4, h5⟩, hd⟩
  · rename_i hnone
    exact .decimal fun x r heq => absurd heq (hnone x r)

theorem mapM_digitOf?_eq_some_iff {radix : Nat} {ds : Bytes} {values : List Nat} :
    ds.mapM (Bytes.digitOf? radix) = some values ↔
      (∀ b ∈ ds, (Bytes.digitOf? radix b).isSome = true) ∧
        ds.filterMap (Bytes.digitOf? radix) = values := by
  induction ds generalizing values with
  | nil => simp
  | cons b r ih =>
    rw [List.mapM_cons, List.forall_mem_cons]
    cases hd : Bytes.digitOf? radix b with
    | none => simp
    | some d =>
      simp only [Option.bind_eq_bind, Option.bind_some, List.filterMap_cons_some hd]
      constructor
      · intro h
        obtain ⟨rest, hrest, ⟨⟩⟩ := Option.bind_eq_some_iff.mp h
        obtain ⟨hdigits, rfl⟩ := ih.mp hrest
        exact ⟨⟨rfl, hdigits⟩, rfl⟩
      · rintro ⟨⟨-, hdigits⟩, rfl⟩
        rw [ih.mpr ⟨hdigits, rfl⟩]
        rfl

theorem isDigitOf_eq (radix : Nat) (b : UInt8) :
    isDigitOf radix b = (Bytes.digitOf? radix b).isSome := by
  simp only [isDigitOf, Bytes.digitOf?, Bytes.digitValue?]
  split
  · simp [Option.isSome_filter]
  split
  · simp [Option.isSome_filter]
  split
  · simp [Option.isSome_filter]
  · rfl

theorem areDigitsOf_iff {radix : Nat} {s : Bytes} :
    areDigitsOf radix s = true ↔ Bytes.IsNumeral radix s := by
  simp only [areDigitsOf, Bool.and_eq_true, Bool.not_eq_true', List.isEmpty_eq_false_iff,
    List.all_eq_true, isDigitOf_eq]
  exact ⟨fun h => ⟨h.2, h.1⟩, fun h => ⟨h.2, h.1⟩⟩

/-- What is wrong with the spelling of an integer goes by what follows the sign of its radix:
whether that is a numeral, and whether its value fits 64 bits. -/
theorem numberFinding?_eq (text : Bytes) :
    numberFinding? text =
      if areDigitsOf text.senseRadix.1 text.senseRadix.2 then
        if Bytes.numeralValue text.senseRadix.1 text.senseRadix.2 < 2 ^ 64 then none
        else some (whole Code.numberOverflow text.length [.text text, .uint 64])
      else some (whole Code.badNumber text.length [.text text]) := by
  have hrange := Bytes.senseRadix_range text
  simp only [numberFinding?, Bytes.consumeUnsigned_ofNat hrange.2]
  generalize text.senseRadix = x at hrange
  obtain ⟨ρ, body⟩ := x
  dsimp only at hrange ⊢
  have hwhole := Bytes.readUnsigned_whole_iff hrange (s := body)
  by_cases hdigits : areDigitsOf ρ body = true
  · have hnumeral := areDigitsOf_iff.mp hdigits
    rw [if_pos hdigits]
    by_cases hfits : Bytes.numeralValue ρ body < 2 ^ 64
    · obtain ⟨v, hread⟩ := hwhole.mpr ⟨hnumeral, hfits⟩
      rw [if_pos hfits, hread]
      rfl
    · rw [if_neg hfits, Bytes.readUnsigned_eq_none hrange hnumeral hfits, hdigits]
      rfl
  · -- a number that is taken off all the same leaves something behind
    rw [if_neg hdigits, Bool.eq_false_iff.mpr hdigits]
    cases hread : Bytes.readUnsigned ρ body with
    | none => rfl
    | some x =>
      obtain ⟨v, _ | ⟨b, rest⟩⟩ := x
      · exact absurd (areDigitsOf_iff.mpr (hwhole.mp ⟨v, hread⟩).1) hdigits
      · rfl

theorem numberFinding?_eq_none_iff (text : Bytes) :
    numberFinding? text = none ↔ IntLiteral text := by
  have hnone : numberFinding? text = none ↔ Bytes.IsNumeral text.senseRadix.1 text.senseRadix.2 ∧
      Bytes.numeralValue text.senseRadix.1 text.senseRadix.2 < 2 ^ 64 := by
    rw [numberFinding?_eq, ← areDigitsOf_iff]
    split
    · split <;> simp_all
    · simp_all
  rw [hnone]
  constructor
  · rintro ⟨⟨hdigits, hne⟩, hfits⟩
    exact ⟨_, _, _, radix_senseRadix text, hne, mapM_digitOf?_eq_some_iff.mpr ⟨hdigits, rfl⟩, hfits⟩
  · rintro ⟨radix, digits, values, hr, hne, hm, hfits⟩
    obtain ⟨hdigits, rfl⟩ := mapM_digitOf?_eq_some_iff.mp hm
    rw [hr.sensed]
    exact ⟨⟨hdigits, hne⟩, hfits⟩

theorem number_silent_iff (s : Bytes) :
    (number s).findings = [] ↔ IntLiteral (s.take (number s).size) := by
  have htext : s.take (number s).size = s.takeWhile isIdentByte :=
    (List.prefix_iff_eq_take.mp (List.takeWhile_prefix _)).symm
  rw [htext, ← numberFinding?_eq_none_iff]
  exact Option.toList_eq_nil_iff

theorem keyword?_isFree {w : Bytes} {k : Kind} (h : Kind.keyword? w = some k) : IsFree k := by
  unfold Kind.keyword? at h
  split at h
  · cases h; decide
  split at h
  · cases h; decide
  split at h
  · cases h; decide
  · cases h

theorem punctuation?_isFree {b : UInt8} {k : Kind} (h : Kind.punctuation? b = some k) :
    IsFree k := by
  unfold Kind.punctuation? at h
  split at h <;> cases h <;> decide

/-- The findings of a lexeme at the front of a text tell whether its octets are well formed. -/
def Decides (m : Lexeme) (s : Bytes) : Prop :=
  m.findings = [] ↔ WellFormed m.kind (s.take m.size)

theorem ofSize_decides {kind : Kind} (h : IsFree kind) (n : Nat) (s : Bytes) :
    Decides (ofSize kind n s) s :=
  ⟨fun _ => wellFormed_of_isFree h _, fun _ => rfl⟩

theorem malformed_decides (s : Bytes) : Decides (malformed s) s := by
  simp [Decides, malformed, ofSize, WellFormed]

theorem word_isFree (n : Nat) (s : Bytes) : IsFree (word n s).kind := by
  change IsFree ((Kind.keyword? (s.take n)).getD .ident)
  cases h : Kind.keyword? (s.take n) with
  | none => decide
  | some k => exact keyword?_isFree h

theorem word_decides (n : Nat) (s : Bytes) : Decides (word n s) s :=
  ofSize_decides (word_isFree n s) n s

theorem string_decides (r : Bytes) : Decides (string (34 :: r)) (34 :: r) := by
  rw [Decides, string_kind]
  exact string_silent_iff r

theorem char_decides (r : Bytes) : Decides (char (39 :: r)) (39 :: r) := by
  rw [Decides, (char_extent r).1]
  exact char_silent_iff r

/-- Whatever stands at the front of a text, its findings decide whether it is well formed. -/
theorem front?_decides {s : Bytes} {m : Lexeme} (h : front? s = some m) : Decides m s := by
  cases front?_reads h with
  | newLine _ r => exact ofSize_decides (by decide) 1 _
  | string r => exact string_decides r
  | char r => exact char_decides r
  | asciiWord hb r => exact word_decides _ _
  | letterWord hd => exact word_decides _ _
  | number hb r => exact number_silent_iff _
  | arrow r => exact ofSize_decides (by decide) 2 _
  | mark hk r => exact ofSize_decides (punctuation?_isFree hk) 1 _
  | malformed hs => exact malformed_decides _

theorem ofText_decides (content : Bytes) (off : Nat) :
    ∀ p ∈ (Reading.ofText off (content.drop off)).lexemes, Decides p.lexeme (content.drop p.off) :=
  fun p hp => front?_decides (Reading.ofText_front content off p hp)

end Grammar

namespace File

open Grammar

/-- The octets that a token covers. -/
def covered (f : File) (t : Token) : Bytes := f.cut t.span.start.toNat t.span.stop.toNat

theorem covered_token (f : File) {p : Placed} (hp : p ∈ f.reading.lexemes) :
    f.covered (p.token f.id) = (f.content.drop p.off).take p.lexeme.size := by
  have hstop : p.stop ≤ f.content.length :=
    Nat.le_trans (f.reading_within.before p hp) f.reading_within.stop_le
  have hoff : p.off ≤ f.content.length := Nat.le_trans (Nat.le_add_right _ _) hstop
  have hsize : p.stop - p.off = p.lexeme.size := Nat.add_sub_cancel_left _ _
  simp only [covered, Placed.token, f.toNat_offset hoff, f.toNat_offset hstop, cut, hsize]

/-- A scan reports nothing if and only if every token before the end is well formed. -/
theorem scan_silent_iff (f : File) :
    ∃ body last ds, f.scan = .ok (body ++ [last], ds) ∧ last.kind = .eof ∧
      (∀ t ∈ body, t.kind ≠ .eof) ∧
      (ds = [] ↔ ∀ t ∈ body, WellFormed t.kind (f.covered t)) := by
  refine ⟨_, _, f.faults, f.scan_eq, rfl, ?_, ?_⟩
  · intro t ht
    obtain ⟨p, hp, rfl⟩ := List.mem_map.mp ht
    exact (f.reading_within.fronts p hp).kind_ne
  · have hsilent : f.faults = [] ↔ ∀ p ∈ f.reading.lexemes, p.lexeme.findings = [] := by
      simp [faults, Reading.diagnostics, Placed.diagnostics]
    rw [hsilent, List.forall_mem_map]
    constructor
    · intro h p hp
      have hdecides := ofText_decides f.content 0 p hp
      rw [f.covered_token hp]
      exact hdecides.mp (h p hp)
    · intro h p hp
      have hdecides := ofText_decides f.content 0 p hp
      have hform := h p hp
      rw [f.covered_token hp] at hform
      exact hdecides.mpr hform

end File

end FrontEnd
