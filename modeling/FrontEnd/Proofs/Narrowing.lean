import FrontEnd.Proofs.Numeral

/-!
Numbers of an integer type taken off a text are exact. A text starts with at most one number, which
is spelled by a sign, what tells the radix, and all digits behind it. Every way of taking a number
off a text takes just that one when it fits what is asked for, a word, a signed word or a narrower
type, and otherwise leaves the text alone.
-/
namespace FrontEnd.Bytes

namespace IntType

/-- The numbers that the words of a type stand for. -/
def Represents (t : IntType) (v : Int) : Prop :=
  ∃ b : BitVec t.width, (if t.signed then b.toInt else (b.toNat : Int)) = v

/-- What is relied on of a conversion to a type: it tells the numbers that the type has, and gives
them as they are. -/
structure Converts (t : IntType) (convert : Int → Int × Bool) : Prop where
  tells (v : Int) : (convert v).2 = true ↔ t.Represents v
  keeps {v : Int} (h : t.Represents v) : (convert v).1 = v

/-- The type of 64 bits with the same signedness. -/
def wide (t : IntType) : IntType := { t with width := 64 }

variable {t : IntType} {v : Int}

theorem half_add_half (hw : 0 < t.width) : (t.half : Int) + t.half = t.size := by
  obtain ⟨w, hw⟩ := Nat.exists_eq_succ_of_ne_zero (Nat.ne_of_gt hw)
  have hpow : Nat.pow 2 (w + 1) = Nat.pow 2 w * 2 := rfl
  unfold half size
  rw [hw, Nat.succ_eq_add_one, Nat.add_sub_cancel, hpow]
  omega

theorem represents_signed (ht : t.signed = true) (hw : 0 < t.width) :
    t.Represents v ↔ -(t.half : Int) ≤ v ∧ v < t.half := by
  have hhalf : ((t.half : Nat) : Int) = 2 ^ (t.width - 1) := by simp [half]
  simp only [Represents, ht, if_true]
  constructor
  · rintro ⟨b, rfl⟩
    rw [hhalf]
    exact ⟨b.le_toInt, b.toInt_lt⟩
  · rintro ⟨hlow, hhigh⟩
    have hsize := half_add_half hw
    refine ⟨BitVec.ofInt t.width v, ?_⟩
    rw [BitVec.toInt_ofInt]
    apply Int.bmod_eq_of_le
    · change -((t.size : Int) / 2) ≤ v
      omega
    · change v < ((t.size : Int) + 1) / 2
      omega

theorem represents_unsigned (ht : t.signed = false) :
    t.Represents v ↔ 0 ≤ v ∧ v < t.size := by
  simp only [Represents, ht, Bool.false_eq_true, if_false]
  constructor
  · rintro ⟨b, rfl⟩
    exact ⟨Int.natCast_nonneg _, Int.ofNat_lt.mpr b.isLt⟩
  · rintro ⟨hlow, hhigh⟩
    refine ⟨BitVec.ofNat t.width v.toNat, ?_⟩
    have hlt : v.toNat < 2 ^ t.width := by
      change v.toNat < t.size
      omega
    rw [BitVec.toNat_ofNat, Nat.mod_eq_of_lt hlt]
    omega

theorem contains_iff (hw : 0 < t.width) : t.contains v = true ↔ t.Represents v := by
  cases ht : t.signed with
  | true => simp [contains, ht, represents_signed ht hw]
  | false => simp [contains, ht, represents_unsigned ht]

/-- Wrapping to a type keeps what the type has. -/
theorem convert_converts (hw : 0 < t.width) : t.Converts t.convert where
  tells _ := contains_iff hw
  keeps := by
    intro v h
    change t.wrap v = v
    cases ht : t.signed with
    | true =>
      obtain ⟨hlow, hhigh⟩ := (represents_signed ht hw).mp h
      have hsize := half_add_half hw
      simp only [wrap, ht, if_true]
      exact Int.bmod_eq_of_le (by omega) (by omega)
    | false =>
      obtain ⟨hlow, hhigh⟩ := (represents_unsigned ht).mp h
      simp only [wrap, ht, Bool.false_eq_true, if_false]
      exact Int.emod_eq_of_lt hlow hhigh

theorem represents_wide (hw : t.width ≤ 64) (hpos : 0 < t.width) (h : t.Represents v) :
    t.wide.Represents v := by
  cases ht : t.signed with
  | true =>
    obtain ⟨hlow, hhigh⟩ := (represents_signed ht hpos).mp h
    have hle : t.half ≤ t.wide.half := Nat.pow_le_pow_right (by decide) (Nat.sub_le_sub_right hw 1)
    exact (represents_signed (t := t.wide) ht (Nat.zero_lt_succ _)).mpr (by omega)
  | false =>
    obtain ⟨hlow, hhigh⟩ := (represents_unsigned ht).mp h
    have hle : t.size ≤ t.wide.size := Nat.pow_le_pow_right (by decide) hw
    exact (represents_unsigned (t := t.wide) ht).mpr (by omega)

end IntType

/-- A text starts with a number without a sign: what tells its radix, unless that is given, and the
longest run of digits behind it, which has one at least. -/
inductive Spells (radix : Nat) (s : Bytes) : Bytes → Int → Prop
  | run {mark digits rest : Bytes} {ρ : Nat} (hs : mark ++ (digits ++ rest) = s)
      (hradix : radixOf radix s = (ρ, digits ++ rest)) (hrange : 2 ≤ ρ ∧ ρ ≤ 36)
      (hrun : digitRun ρ (digits ++ rest) = digits) (hdigits : digits ≠ []) :
      Spells radix s (mark ++ digits) (numeralValue ρ digits)

/-- A text starts with a number of a type; only a signed one may have a minus sign before it. -/
inductive Starts (t : IntType) (radix : Nat) : Bytes → Bytes → Int → Prop
  | plain {s spelling : Bytes} {v : Int} (h : Spells radix s spelling v) :
      Starts t radix s spelling v
  | minus {s spelling : Bytes} {v : Int} (ht : t.signed = true) (h : Spells radix s spelling v) :
      Starts t radix (45 :: s) (45 :: spelling) (-v)

/-- What came of taking a number off a text: the one that the text starts with, when it fits, and
otherwise nothing. -/
structure Takes (starts : Bytes → Int → Prop) (fits : Int → Prop) (s : Bytes) (c : Consumed Int) :
    Prop where
  took : c.ok = true → ∃ spelling, starts spelling c.value ∧ fits c.value ∧ spelling ++ c.rest = s
  refused : c.ok = false → (c.value = 0 ∧ c.rest = s) ∧ ∀ spelling v, starts spelling v → ¬ fits v

section Spelling

variable {radix : Nat} {s spelling spelling' : Bytes} {v v' : Int}

theorem senseRadix_suffix (s : Bytes) : s.senseRadix.2 <:+ s := by
  unfold senseRadix
  split
  case h_6 => split <;> simp
  all_goals simp [List.suffix_cons_iff]

theorem radixOf_suffix (radix : Nat) (s : Bytes) : (radixOf radix s).2 <:+ s := by
  unfold radixOf
  split
  · exact senseRadix_suffix s
  · exact List.suffix_refl s

theorem Spells.nonneg (h : Spells radix s spelling v) : 0 ≤ v := by
  cases h
  exact Int.natCast_nonneg _

theorem Spells.unique (h : Spells radix s spelling v) (h' : Spells radix s spelling' v') :
    spelling = spelling' ∧ v = v' := by
  cases h with
  | @run mark digits rest ρ hs hradix hrange hrun hdigits =>
  cases h' with
  | @run mark' digits' rest' ρ' hs' hradix' hrange' hrun' hdigits' =>
  obtain ⟨rfl, htext⟩ := Prod.mk.inj (hradix.symm.trans hradix')
  have hsame : digits = digits' := by rw [← hrun, ← hrun', htext]
  rw [← hs', htext] at hs
  exact ⟨by rw [List.append_cancel_right hs, hsame], by rw [hsame]⟩

theorem not_spells_minus {r : Bytes} : ¬ Spells radix (45 :: r) spelling v := by
  intro h
  cases h with
  | @run mark digits rest ρ hs hradix hrange hrun hdigits =>
  have htext : digits ++ rest = 45 :: r := by
    have hradix₂ := congrArg Prod.snd hradix
    unfold radixOf at hradix₂
    split at hradix₂ <;> exact hradix₂.symm
  have hminus : digitOf? ρ 45 = none := rfl
  rw [htext, digitRun_stop hminus] at hrun
  exact hdigits hrun.symm

variable {t : IntType}

/-- A number has a minus sign only where the type and the text have one. -/
theorem starts_eq_spells (h : t.signed = false ∨ ∀ r, s ≠ 45 :: r) :
    Starts t radix s = Spells radix s := by
  funext spelling v
  refine propext ⟨fun hstarts => ?_, .plain⟩
  cases hstarts with
  | plain hspells => exact hspells
  | minus ht =>
    rcases h with hf | hs
    · rw [ht] at hf
      cases hf
    · exact absurd rfl (hs _)

theorem Starts.unique (h : Starts t radix s spelling v) (h' : Starts t radix s spelling' v') :
    spelling = spelling' ∧ v = v' := by
  cases h with
  | plain h =>
    cases h' with
    | plain h' => exact h.unique h'
    | minus ht h' => exact absurd h not_spells_minus
  | minus ht h =>
    cases h' with
    | plain h' => exact absurd h' not_spells_minus
    | minus ht' h' =>
      obtain ⟨rfl, rfl⟩ := h.unique h'
      exact ⟨rfl, rfl⟩

end Spelling

namespace Takes

variable {starts : Bytes → Int → Prop} {fits fits' : Int → Prop} {s : Bytes} {c c' : Consumed Int}

theorem nothing (h : ∀ spelling v, starts spelling v → ¬ fits v) :
    Takes starts fits s ⟨0, false, s⟩ := ⟨nofun, fun _ => ⟨⟨rfl, rfl⟩, h⟩⟩

/-- Of what can be taken off a text, only what fits a narrower range is taken. -/
theorem narrow (h : Takes starts fits s c)
    (hunique : ∀ {spelling spelling' v v'}, starts spelling v → starts spelling' v' → v = v')
    (hfits : ∀ {spelling v}, starts spelling v → fits' v → fits v)
    (hkept : c.ok = true → fits' c.value → c' = c)
    (hrefused : (c.ok = true → ¬ fits' c.value) → c' = ⟨0, false, s⟩) :
    Takes starts fits' s c' := by
  cases hok : c.ok with
  | true =>
    obtain ⟨spelling, hstarts, -, hs⟩ := h.took hok
    by_cases hv : fits' c.value
    · rw [hkept hok hv]
      exact ⟨fun _ => ⟨spelling, hstarts, hv, hs⟩,
        fun hfalse => by rw [hok] at hfalse; cases hfalse⟩
    · rw [hrefused fun _ => hv]
      refine nothing ?_
      intro spelling' v' hstarts'
      rwa [← hunique hstarts hstarts']
  | false =>
    rw [hrefused (by rw [hok]; nofun)]
    exact nothing fun spelling v hstarts hv =>
      (h.refused hok).2 spelling v hstarts (hfits hstarts hv)

theorem ok_iff (h : Takes starts fits s c) :
    c.ok = true ↔ ∃ spelling v, starts spelling v ∧ fits v := by
  constructor
  · intro hok
    obtain ⟨spelling, hstarts, hv, -⟩ := h.took hok
    exact ⟨spelling, _, hstarts, hv⟩
  · rintro ⟨spelling, v, hstarts, hv⟩
    cases hok : c.ok with
    | true => rfl
    | false => exact absurd hv ((h.refused hok).2 spelling v hstarts)

end Takes

section Words

variable {u : UInt64}

theorem toInt_toInt64 (h : u.toNat < 2 ^ 63) : u.toInt64.toInt = u.toNat := by
  change u.toBitVec.toInt = _
  rw [BitVec.toInt_eq_toNat_cond, if_pos (by change 2 * u.toNat < _; omega)]
  rfl

/-- Turning a word around is exact down to the lowest signed word, which is its own opposite. -/
theorem toInt_toInt64_neg (h : u.toNat ≤ 2 ^ 63) : (-u).toInt64.toInt = -(u.toNat : Int) := by
  change (-u).toBitVec.toInt = _
  have hu : (-u).toBitVec.toNat = (2 ^ 64 - u.toNat) % 2 ^ 64 := UInt64.toNat_neg u
  rw [BitVec.toInt_eq_toNat_cond, hu]
  split <;> omega

end Words

theorem consumeUnsigned_takes (radix : UInt64) (s : Bytes) :
    Takes (Spells radix.toNat s) (fun v => 0 ≤ v ∧ v < 2 ^ 64) s
      ((consumeUnsigned radix s).map fun u => (u.toNat : Int)) := by
  rw [consumeUnsigned_eq]
  cases hread : readUnsigned radix.toNat s with
  | none =>
    refine .nothing ?_
    intro spelling v hspells hv
    cases hspells with
    | @run mark digits rest ρ hs hradix hrange hrun hdigits =>
    have hcounts : Counts ρ (digits ++ rest) :=
      ⟨hrange, by rw [hrun]; exact hdigits, by rw [hrun]; omega⟩
    have hsome : readUnsigned radix.toNat s = some (numeralValue ρ digits, rest) := by
      rw [readUnsigned_eq_some_iff, hradix]
      exact ⟨hcounts, by rw [hrun], by rw [hrun]⟩
    rw [hsome] at hread
    cases hread
  | some x =>
    obtain ⟨n, rest⟩ := x
    obtain ⟨hcounts, rfl, hrest⟩ := readUnsigned_eq_some_iff.mp hread
    have hfits := hcounts.fits
    obtain ⟨mark, hmark⟩ := radixOf_suffix radix.toNat s
    rw [← hrest] at hmark
    have hword : (UInt64.ofNat (numeralValue (radixOf radix.toNat s).1
        (digitRun (radixOf radix.toNat s).1 (radixOf radix.toNat s).2))).toNat = _ :=
      UInt64.toNat_ofNat_of_lt' hfits
    simp only [Consumed.map, hword]
    have hspells := Spells.run hmark (by rw [hrest]) hcounts.range (by rw [hrest]) hcounts.digits
    refine ⟨fun _ => ⟨_, hspells, ?_, ?_⟩, nofun⟩
    · exact ⟨Int.natCast_nonneg _, Int.ofNat_lt.mpr hfits⟩
    · rw [List.append_assoc, hmark]

/-- A minus sign is taken with the number behind it, whose limit is then the lowest signed word. -/
theorem consumeSigned_minus {t : IntType} (ht : t.signed = true) (radix : UInt64) (r : Bytes) :
    Takes (Starts t radix.toNat (45 :: r)) (fun v => -2 ^ 63 ≤ v ∧ v < 2 ^ 63) (45 :: r)
      ((consumeSigned radix (45 :: r)).map Int64.toInt) := by
  have htakes := consumeUnsigned_takes radix r
  simp only [consumeSigned]
  generalize consumeUnsigned radix r = c at htakes
  obtain ⟨u, ok, rest⟩ := c
  have hlimit : u > 0x8000000000000000 ↔ 2 ^ 63 < u.toNat := UInt64.lt_iff_toNat_lt
  cases ok with
  | false =>
    refine .nothing ?_
    intro spelling v hstarts hv
    cases hstarts with
    | plain h => exact not_spells_minus h
    | minus _ h =>
      have hnonneg := h.nonneg
      exact (htakes.refused rfl).2 _ _ h ⟨by omega, by omega⟩
  | true =>
    obtain ⟨spelling, hspells, -, hs⟩ := htakes.took rfl
    by_cases hu : 2 ^ 63 < u.toNat
    · simp only [hlimit.mpr hu, Bool.not_true, Bool.false_or, decide_true, if_true]
      refine .nothing ?_
      intro spelling' v hstarts hv
      cases hstarts with
      | plain h => exact not_spells_minus h
      | minus _ h =>
        have hsame := (hspells.unique h).2
        simp only [Consumed.map] at hsame
        omega
    · have hvalue := toInt_toInt64_neg (u := u) (by omega)
      simp only [mt hlimit.mp hu, Bool.not_true, Bool.false_or, decide_false, Bool.false_eq_true,
        if_false]
      refine ⟨fun _ => ⟨45 :: spelling, ?_, ?_, ?_⟩, nofun⟩
      · simp only [Consumed.map, hvalue]
        exact .minus ht hspells
      · simp only [Consumed.map, hvalue]
        omega
      · exact congrArg (45 :: ·) hs

/-- Without a minus sign a signed number is an unsigned one below the limit of a signed word. -/
theorem consumeSigned_plain {s : Bytes} (hs : ∀ r, s ≠ 45 :: r) {t : IntType} (radix : UInt64) :
    Takes (Starts t radix.toNat s) (fun v => -2 ^ 63 ≤ v ∧ v < 2 ^ 63) s
      ((consumeSigned radix s).map Int64.toInt) := by
  have htakes := consumeUnsigned_takes radix s
  have hsigned : consumeSigned radix s =
      if !(consumeUnsigned radix s).ok || (consumeUnsigned radix s).value > 0x7FFFFFFFFFFFFFFF then
        ⟨0, false, s⟩
      else ⟨(consumeUnsigned radix s).value.toInt64, true, (consumeUnsigned radix s).rest⟩ := by
    unfold consumeSigned
    split
    · exact absurd rfl (hs _)
    · rfl
  rw [starts_eq_spells (.inr hs), hsigned]
  generalize consumeUnsigned radix s = c at htakes
  obtain ⟨u, ok, rest⟩ := c
  have hlimit : u > 0x7FFFFFFFFFFFFFFF ↔ 2 ^ 63 ≤ u.toNat := UInt64.lt_iff_toNat_lt
  refine htakes.narrow (fun h h' => (h.unique h').2) (fun h hv => ⟨h.nonneg, by omega⟩) ?_ ?_
  · rintro rfl hv
    simp only [Consumed.map] at hv
    have hvalue := toInt_toInt64 (u := u) (by omega)
    have hsmall : ¬ u > 0x7FFFFFFFFFFFFFFF := mt hlimit.mp (by omega)
    simp only [hsmall, Bool.not_true, decide_false, Bool.or_self, Bool.false_eq_true, if_false,
      Consumed.map, hvalue]
  · intro hlarge
    simp only [Consumed.map] at hlarge
    have hout : (!ok || decide (u > 0x7FFFFFFFFFFFFFFF)) = true := by
      cases ok with
      | false => rfl
      | true =>
        have hover := hlarge rfl
        exact decide_eq_true (hlimit.mpr (by omega))
    rw [if_pos hout]
    rfl

theorem consumeWide_takes (t : IntType) (radix : UInt64) (s : Bytes) :
    Takes (Starts t radix.toNat s) t.wide.Represents s (consumeWide t radix s) := by
  unfold consumeWide
  cases ht : t.signed with
  | true =>
    have hfits : t.wide.Represents = fun v => -2 ^ 63 ≤ v ∧ v < 2 ^ 63 := by
      funext v
      exact propext (IntType.represents_signed ht (Nat.zero_lt_succ _))
    rw [hfits, if_pos rfl]
    by_cases hminus : ∃ r, s = 45 :: r
    · obtain ⟨r, rfl⟩ := hminus
      exact consumeSigned_minus ht radix r
    · exact consumeSigned_plain (fun r hr => hminus ⟨r, hr⟩) radix
  | false =>
    have hfits : t.wide.Represents = fun v => 0 ≤ v ∧ v < 2 ^ 64 := by
      funext v
      exact propext (IntType.represents_unsigned ht)
    rw [hfits, starts_eq_spells (.inl ht), if_neg (by simp)]
    exact consumeUnsigned_takes radix s

/-- A number of a type is a number of 64 bits that the conversion to the type keeps. -/
theorem consumeInteger_takes {t : IntType} (hw : 0 < t.width ∧ t.width ≤ 64)
    {convert : Int → Int × Bool} (hconvert : t.Converts convert) (radix : UInt64) (s : Bytes) :
    Takes (Starts t radix.toNat s) t.Represents s (consumeInteger t convert radix s) := by
  refine (consumeWide_takes t radix s).narrow (fun h h' => (h.unique h').2)
    (fun _ hv => IntType.represents_wide hw.2 hw.1 hv) ?_ ?_
  · intro hok hv
    have hpair : convert (consumeWide t radix s).value = ((consumeWide t radix s).value, true) :=
      Prod.ext (hconvert.keeps hv) ((hconvert.tells _).mpr hv)
    simp only [consumeInteger, hok, if_true, hpair]
    rw [← hok]
  · intro hout
    simp only [consumeInteger]
    split
    · rename_i hok
      have hflag : (convert (consumeWide t radix s).value).2 = false :=
        Bool.eq_false_iff.mpr (mt (hconvert.tells _).mp (hout hok))
      split
      · rename_i hpair
        rw [hpair] at hflag
        cases hflag
      · rfl
    · rfl

/-- A whole text is a number of a type when taking that off leaves nothing. -/
theorem wholeInteger_iff (t : IntType) (convert : Int → Int × Bool) (radix : UInt64) (s : Bytes) :
    ((wholeInteger t convert radix s).ok = true ↔
      (consumeInteger t convert radix s).ok = true ∧ (consumeInteger t convert radix s).rest = []) ∧
    ((wholeInteger t convert radix s).ok = true →
      (wholeInteger t convert radix s).value = (consumeInteger t convert radix s).value) := by
  rcases hwide : consumeWide t radix s with ⟨v, ok, rest⟩
  rcases hconvert : convert v with ⟨x, fits⟩
  cases ok <;> cases fits <;> cases rest <;>
    simp [wholeInteger, wholeWide, consumeInteger, hwide, hconvert]

/-- A number of an integer type is taken off a text just when the text starts with a number that the
type has; then that is the value, and its spelling is gone from the text. Else the text is as it
was. A whole text is such a number just when taking it off leaves nothing. -/
theorem consumeInteger_exact {t : IntType} (ht : t.width ∈ [8, 16, 32, 64])
    {convert : Int → Int × Bool} (hconvert : t.Converts convert) (radix : UInt64) (s : Bytes) :
    let c := consumeInteger t convert radix s
    let w := wholeInteger t convert radix s
    (c.ok = true ↔ ∃ spelling v, Starts t radix.toNat s spelling v ∧ t.Represents v) ∧
    (∀ spelling v, Starts t radix.toNat s spelling v → t.Represents v →
      c.value = v ∧ spelling ++ c.rest = s) ∧
    (c.ok = false → c.value = 0 ∧ c.rest = s) ∧
    (w.ok = true ↔ c.ok = true ∧ c.rest = []) ∧ (w.ok = true → w.value = c.value) := by
  have hw : 0 < t.width ∧ t.width ≤ 64 := by
    simp only [List.mem_cons, List.not_mem_nil, or_false] at ht
    omega
  have htakes := consumeInteger_takes hw hconvert radix s
  refine ⟨htakes.ok_iff, ?_, fun hok => (htakes.refused hok).1, wholeInteger_iff t convert radix s⟩
  intro spelling v hstarts hv
  obtain ⟨spelling', hstarts', -, hs⟩ := htakes.took (htakes.ok_iff.mpr ⟨spelling, v, hstarts, hv⟩)
  obtain ⟨rfl, rfl⟩ := hstarts.unique hstarts'
  exact ⟨rfl, hs⟩

/-- The lowest number of eight bits, spelled in hexadecimal, before a blank; the next lower one is
no number of eight bits and stays. -/
theorem consumeInteger_exact_lowest :
    let t : IntType := ⟨true, 8⟩
    let s : Bytes := "-0x80 "
    let s' : Bytes := "-0x81 "
    let c := consumeInteger t t.convert 0 s
    let c' := consumeInteger t t.convert 0 s'
    t.width ∈ [8, 16, 32, 64] ∧ t.Converts t.convert ∧
      (c.ok = true ∧ (∃ spelling v, Starts t 0 s spelling v ∧ t.Represents v) ∧ c.value = -128 ∧
        c.rest = [32]) ∧
      ((wholeInteger t t.convert 0 s).ok = false ∧ ¬ (c.ok = true ∧ c.rest = [])) ∧
      (c'.ok = false ∧ (¬ ∃ spelling v, Starts t 0 s' spelling v ∧ t.Represents v) ∧
        c'.value = 0 ∧ c'.rest = s') := by
  intro t s s' c c'
  have ht : t.width ∈ [8, 16, 32, 64] := by decide
  have hconvert : t.Converts t.convert := IntType.convert_converts (by decide)
  have hexact := consumeInteger_exact ht hconvert 0 s
  have hexact' := consumeInteger_exact ht hconvert 0 s'
  have hok : c.ok = true := by decide
  have hok' : c'.ok = false := by decide
  have hwhole : (wholeInteger t t.convert 0 s).ok = false := by decide
  refine ⟨ht, hconvert, ⟨hok, hexact.1.mp hok, by decide, by decide⟩, ⟨hwhole, ?_⟩, hok', ?_,
    hexact'.2.2.1 hok'⟩
  · intro hempty
    rw [hexact.2.2.2.1.mpr hempty] at hwhole
    cases hwhole
  · intro hstarts
    rw [hexact'.1.mpr hstarts] at hok'
    cases hok'

end FrontEnd.Bytes
