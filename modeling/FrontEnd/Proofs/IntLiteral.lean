import FrontEnd.Proofs.Attribution
import FrontEnd.Proofs.Grammar

/-!
Integers in a scan. A token is an integer where a lexeme starts with a digit, it goes as far as
letters, digits and underscores go, and what is reported for it follows from the octets behind the
sign of its radix: nothing, one overflow or one bad number.
-/
namespace FrontEnd

open Grammar

/-- The letters, the digits and the underscore of ASCII. -/
def IsWordOctet (b : UInt8) : Prop :=
  (65 ≤ b ∧ b ≤ 90) ∨ (97 ≤ b ∧ b ≤ 122) ∨ (48 ≤ b ∧ b ≤ 57) ∨ b = 95

namespace Lexeme

theorem isIdentByte_iff {b : UInt8} : isIdentByte b = true ↔ IsWordOctet b := by
  simp only [isIdentByte, isIdentStart, Bytes.isDecimalDigit, IsWordOctet, Bool.or_eq_true,
    Bool.and_eq_true, beq_iff_eq, decide_eq_true_iff]
  tauto

/-- Only a digit starts an integer. -/
theorem front?_intLit {s : Bytes} {m : Lexeme} (h : front? s = some m) (hkind : m.kind = .intLit) :
    (∃ b, s.head? = some b ∧ Bytes.isDecimalDigit b = true) ∧ m = number s := by
  have hfree : ¬ IsFree m.kind := by
    rw [hkind]
    decide
  cases front?_reads h with
  | number hb r => exact ⟨⟨_, rfl, hb⟩, rfl⟩
  | string r =>
    rw [string_kind] at hkind
    cases hkind
  | char r =>
    rw [(char_extent r).1] at hkind
    cases hkind
  | asciiWord hb r => exact absurd (word_isFree _ _) hfree
  | letterWord hd => exact absurd (word_isFree _ _) hfree
  | mark hk r => exact absurd (punctuation?_isFree hk) hfree
  | newLine | arrow | malformed => cases hkind

end Lexeme

/-- What has to be reported for the spelling of an integer: that goes by whether a numeral follows
the sign of its radix, and by the value of it. -/
structure Verdict (text : Bytes) (codes : List Code) : Prop where
  silent : Bytes.IsNumeral text.senseRadix.1 text.senseRadix.2 →
    Bytes.numeralValue text.senseRadix.1 text.senseRadix.2 < 2 ^ 64 → codes = []
  overflow : Bytes.IsNumeral text.senseRadix.1 text.senseRadix.2 →
    2 ^ 64 ≤ Bytes.numeralValue text.senseRadix.1 text.senseRadix.2 → codes = [Code.numberOverflow]
  bad : ¬ Bytes.IsNumeral text.senseRadix.1 text.senseRadix.2 → codes = [Code.badNumber]

theorem numberFinding?_verdict (text : Bytes) :
    Verdict text ((Lexeme.numberFinding? text).toList.map Finding.code) := by
  rw [numberFinding?_eq]
  refine ⟨?_, ?_, ?_⟩
  · intro hdigits hfits
    rw [if_pos (areDigitsOf_iff.mpr hdigits), if_pos hfits]
    rfl
  · intro hdigits hlarge
    rw [if_pos (areDigitsOf_iff.mpr hdigits), if_neg (Nat.not_lt.mpr hlarge)]
    rfl
  · intro hbad
    rw [if_neg (mt areDigitsOf_iff.mp hbad)]
    rfl

/-- An integer of a file and what is reported for it: the token starts with a digit and goes on to
where letters, digits and underscores end, and what is reported concerns all of it. -/
structure Entry.Classified (f : File) (e : Entry) : Prop where
  covers : f.covered e.token = e.token.text
  digit : ∃ b, e.token.text.head? = some b ∧ 48 ≤ b ∧ b ≤ 57
  run : ∀ b ∈ e.token.text, IsWordOctet b
  ends : ∀ b, f.content[e.token.span.stop.toNat]? = some b → ¬ IsWordOctet b
  primary : ∀ d ∈ e.reports, d.primary = e.token.span
  verdict : Verdict e.token.text (e.reports.map Diagnostic.code)

namespace File

variable (f : File)

theorem entry_classified {p : Placed} (hp : p ∈ f.reading.lexemes)
    (hkind : p.lexeme.kind = .intLit) : (p.entry f.id).Classified f := by
  obtain ⟨⟨b, hhead, hb⟩, hnumber⟩ := Lexeme.front?_intLit (f.front?_of_mem hp) hkind
  have htext : p.lexeme.text = (f.content.drop p.off).takeWhile Lexeme.isIdentByte := by
    rw [hnumber]
    rfl
  have hsize : p.lexeme.size = p.lexeme.text.length := by
    rw [hnumber]
    rfl
  have hreports : (p.entry f.id).reports =
      (Lexeme.numberFinding? p.lexeme.text).toList.map (Finding.diagnostic f.id p.off) := by
    rw [Placed.entry, Placed.diagnostics, hnumber]
    rfl
  refine ⟨?_, ⟨b, ?_, ?_⟩, ?_, ?_, ?_, ?_⟩
  · change f.covered (p.token f.id) = p.lexeme.text
    rw [f.covered_token hp, hsize, htext]
    exact (List.prefix_iff_eq_take.mp (List.takeWhile_prefix _)).symm
  · obtain ⟨r, hr⟩ := List.head?_eq_some_iff.mp hhead
    change p.lexeme.text.head? = some b
    rw [htext, hr, List.takeWhile_cons_of_pos (by simp [Lexeme.isIdentByte, hb])]
    rfl
  · simpa [Bytes.isDecimalDigit] using hb
  · intro c hc
    change c ∈ p.lexeme.text at hc
    rw [htext] at hc
    exact Lexeme.isIdentByte_iff.mp (List.mem_takeWhile_imp hc)
  · intro c hc hword
    change f.content[p.stop.toUInt32.toNat]? = some c at hc
    rw [f.toNat_offset (f.stop_le_of_mem hp), Placed.stop, ← List.getElem?_drop, hsize, htext] at hc
    exact Bool.eq_false_iff.mp (Lexeme.takeWhile_next hc) (Lexeme.isIdentByte_iff.mpr hword)
  · intro d hd
    rw [hreports] at hd
    obtain ⟨g, hg, rfl⟩ := List.mem_map.mp hd
    have hwhole : g.start = 0 ∧ g.size = p.lexeme.size := by
      rcases Lexeme.numberFinding?_eq_some (Option.mem_toList.mp hg) with rfl | rfl
      · exact ⟨rfl, hsize.symm⟩
      · exact ⟨rfl, hsize.symm⟩
    rw [Finding.diagnostic, hwhole.1, hwhole.2]
    rfl
  · rw [hreports, List.map_map]
    exact numberFinding?_verdict p.lexeme.text

/-- Integers are classified exactly. With every token of a scan comes what is reported for it, and
for an integer, which is all letters, digits and underscores from a digit on, that is nothing when a
numeral whose value fits 64 bits follows the sign of its radix, one overflow when the value does not
fit, and one bad number when it is no numeral. -/
theorem scan_classified : ∃ entries, f.ledger = .ok entries ∧
    f.scan = .ok (entries.map Entry.token, entries.flatMap Entry.reports) ∧
    ∀ e ∈ entries, e.token.kind = .intLit → e.Classified f := by
  refine ⟨f.entries, f.ledger_eq, ?_, ?_⟩
  · rw [f.scan_eq, f.entries_tokens, f.entries_reports]
  · intro e he hkind
    rcases List.mem_append.mp he with he | he
    · obtain ⟨p, hp, rfl⟩ := List.mem_map.mp he
      exact f.entry_classified hp hkind
    · rw [List.mem_singleton.mp he] at hkind
      cases hkind

end File

end FrontEnd
