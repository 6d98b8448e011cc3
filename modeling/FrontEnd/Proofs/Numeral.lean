import Mathlib.Data.List.TakeWhile
import Mathlib.Data.Nat.Digits.Defs
import Mathlib.Tactic.Ring
import FrontEnd.Bytes.Consume

/-!
Numbers taken off a text are exact. What a step of the word arithmetic refuses is just what does not
fit a word, so the value that is built up is that of the digits read, and a number is refused at the
digit that takes it beyond a word and never for leading zeros.
-/
namespace FrontEnd.Bytes

/-- The longest run of digits of a radix at the front of a text. -/
def digitRun (radix : Nat) (s : Bytes) : Bytes := s.takeWhile fun b => (digitOf? radix b).isSome

/-- The number that a row of digits stands for, the most significant first. -/
def numeralValue (radix : Nat) (ds : Bytes) : Nat :=
  Nat.ofDigits radix (ds.filterMap (digitOf? radix)).reverse

/-- The radix that a text is read in, and the text without what tells it. -/
def radixOf (radix : Nat) (s : Bytes) : Nat × Bytes :=
  if radix = 0 then s.senseRadix else (radix, s)

/-- A text whose run of digits counts as a number. -/
structure Counts (radix : Nat) (s : Bytes) : Prop where
  range : 2 ≤ radix ∧ radix ≤ 36
  digits : digitRun radix s ≠ []
  fits : numeralValue radix (digitRun radix s) < 2 ^ 64

/-- Digits of a radix and nothing else, at least one. -/
structure IsNumeral (radix : Nat) (s : Bytes) : Prop where
  digits : ∀ b ∈ s, (digitOf? radix b).isSome = true
  ne_nil : s ≠ []

section Words

theorem mulHigh_eq_zero_iff (a b : UInt64) : mulHigh a b = 0 ↔ a.toNat * b.toNat < 2 ^ 64 := by
  have hlt : a.toNat * b.toNat < 2 ^ 64 * 2 ^ 64 := Nat.mul_lt_mul'' a.toNat_lt b.toNat_lt
  rw [← UInt64.toNat_inj, mulHigh, UInt64.toNat_ofNat', UInt64.toNat_zero]
  omega

theorem carries_iff (a b : UInt64) : carries a b = true ↔ 2 ^ 64 ≤ a.toNat + b.toNat := by
  have ha := a.toNat_lt
  have hb := b.toNat_lt
  rw [carries, decide_eq_true_iff, UInt64.lt_iff_toNat_lt, UInt64.toNat_add]
  omega

/-- A digit is refused just when the value with it does not fit a word. -/
theorem pushDigit?_eq (radix value digit : UInt64) :
    pushDigit? radix value digit =
      if value.toNat * radix.toNat + digit.toNat < 2 ^ 64 then
        some (UInt64.ofNat (value.toNat * radix.toNat + digit.toNat))
      else none := by
  rw [pushDigit?]
  by_cases hhigh : mulHigh value radix = 0
  · have hfits := (mulHigh_eq_zero_iff value radix).mp hhigh
    have hlow : (value * radix).toNat = value.toNat * radix.toNat := by
      rw [UInt64.toNat_mul, Nat.mod_eq_of_lt hfits]
    rw [if_neg (not_not_intro hhigh)]
    by_cases hcarry : carries (value * radix) digit = true
    · have hover := (carries_iff _ _).mp hcarry
      rw [if_pos hcarry, if_neg (by omega)]
    · have hunder := mt (carries_iff _ _).mpr hcarry
      rw [if_neg hcarry, if_pos (by omega)]
      congr 1
      rw [← UInt64.toNat_inj, UInt64.toNat_add, UInt64.toNat_ofNat', hlow]
  · have hover := mt (mulHigh_eq_zero_iff value radix).mpr hhigh
    rw [if_pos hhigh, if_neg (by omega)]

end Words

theorem digitValue?_lt {b : UInt8} {d : Nat} (h : digitValue? b = some d) : d < 36 := by
  have hb := b.toNat_lt
  simp only [digitValue?, UInt8.le_iff_toNat_le, UInt8.toNat_ofNat] at h
  split at h
  · cases h
    omega
  split at h
  · cases h
    omega
  split at h
  · cases h
    omega
  · cases h

theorem toNat_digit {b : UInt8} {d : Nat} (h : digitValue? b = some d) :
    (UInt64.ofNat d).toNat = d := by
  have hd := digitValue?_lt h
  rw [UInt64.toNat_ofNat']
  omega

section Runs

variable {radix : Nat} {b : UInt8} {d : Nat} {r : Bytes}

theorem digitRun_cons (h : digitOf? radix b = some d) :
    digitRun radix (b :: r) = b :: digitRun radix r := by
  rw [digitRun, List.takeWhile_cons_of_pos (by rw [h]; rfl)]
  rfl

theorem digitRun_stop (h : digitOf? radix b = none) : digitRun radix (b :: r) = [] := by
  rw [digitRun, List.takeWhile_cons_of_neg (by rw [h]; simp)]

theorem digitRun_append (radix : Nat) (s : Bytes) :
    digitRun radix s ++ s.drop (digitRun radix s).length = s := by
  have hprefix : digitRun radix s <+: s := List.takeWhile_prefix _
  rw [List.prefix_iff_eq_append.mp hprefix]

/-- The number that digits come to behind a value read before them. -/
def onto (radix value : Nat) (ds : Bytes) : Nat :=
  value * radix ^ (ds.filterMap (digitOf? radix)).length + numeralValue radix ds

theorem onto_zero (radix : Nat) (ds : Bytes) : onto radix 0 ds = numeralValue radix ds := by
  rw [onto, Nat.zero_mul, Nat.zero_add]

theorem onto_nil (radix value : Nat) : onto radix value [] = value := by
  simp [onto, numeralValue]

theorem onto_cons (h : digitOf? radix b = some d) (value : Nat) (ds : Bytes) :
    onto radix value (b :: ds) = onto radix (value * radix + d) ds := by
  simp only [onto, numeralValue, List.filterMap_cons, h, List.length_cons,
    Nat.ofDigits_reverse_cons]
  ring

/-- Digits make a value no smaller. -/
theorem le_onto (hradix : 0 < radix) (value : Nat) (ds : Bytes) : value ≤ onto radix value ds := by
  have hpos : 0 < radix ^ (ds.filterMap (digitOf? radix)).length := Nat.pow_pos hradix
  have hmul := Nat.le_mul_of_pos_right value hpos
  rw [onto]
  omega

end Runs

theorem digitOf?_eq_some_iff {radix d : Nat} {b : UInt8} :
    digitOf? radix b = some d ↔ digitValue? b = some d ∧ d < radix := by
  simp [digitOf?, Option.filter_eq_some_iff]

theorem readDigits_stop {radix : Nat} {b : UInt8} (h : digitOf? radix b = none) (acc : Nat)
    (r : Bytes) : readDigits radix acc (b :: r) = some (acc, b :: r) := by
  rw [readDigits, h]

theorem readDigits_digit {radix d : Nat} {b : UInt8} (h : digitOf? radix b = some d) (acc : Nat)
    (r : Bytes) :
    readDigits radix acc (b :: r) =
      if acc * radix + d < 2 ^ 64 then readDigits radix (acc * radix + d) r else none := by
  rw [readDigits, h]
  rfl

section Taking

variable {radix : UInt64} {b : UInt8} {d : Nat} {r : Bytes}

/-- An octet that is no digit of the radix is left. -/
theorem takeDigits_stop (h : digitOf? radix.toNat b = none) (value : UInt64) (count : Nat) :
    takeDigits radix value count (b :: r) = some (value, count, b :: r) := by
  rw [takeDigits]
  cases hd : digitValue? b with
  | none => rfl
  | some d =>
    have hlarge : ¬ d < radix.toNat := by
      intro hlt
      rw [digitOf?_eq_some_iff.mpr ⟨hd, hlt⟩] at h
      cases h
    have hle : radix ≤ UInt64.ofNat d := by
      rw [UInt64.le_iff_toNat_le, toNat_digit hd]
      exact Nat.not_lt.mp hlarge
    exact if_pos hle

/-- A digit of the radix goes behind the value, as long as that fits a word. -/
theorem takeDigits_digit (h : digitOf? radix.toNat b = some d) (value : UInt64) (count : Nat) :
    takeDigits radix value count (b :: r) =
      if value.toNat * radix.toNat + d < 2 ^ 64 then
        takeDigits radix (UInt64.ofNat (value.toNat * radix.toNat + d)) (count + 1) r
      else none := by
  obtain ⟨hd, hlt⟩ := digitOf?_eq_some_iff.mp h
  have hle : ¬ radix ≤ UInt64.ofNat d := by
    rw [UInt64.le_iff_toNat_le, toNat_digit hd]
    exact Nat.not_le.mpr hlt
  rw [takeDigits, hd]
  dsimp only
  rw [if_neg hle, pushDigit?_eq, toNat_digit hd]
  by_cases hfits : value.toNat * radix.toNat + d < 2 ^ 64
  · rw [if_pos hfits, if_pos hfits]
  · rw [if_neg hfits, if_neg hfits]

/-- Words go the way of the numbers they stand for, and every digit of the run is counted. -/
theorem takeDigits_eq (value : UInt64) (count : Nat) (s : Bytes) :
    takeDigits radix value count s = (readDigits radix.toNat value.toNat s).map fun x =>
      (UInt64.ofNat x.1, count + (digitRun radix.toNat s).length, x.2) := by
  induction s generalizing value count with
  | nil =>
    rw [takeDigits, readDigits, Option.map_some, UInt64.ofNat_toNat]
    rfl
  | cons b r ih =>
    cases hd : digitOf? radix.toNat b with
    | none =>
      rw [takeDigits_stop hd, readDigits_stop hd, digitRun_stop hd, Option.map_some,
        UInt64.ofNat_toNat]
      rfl
    | some d =>
      rw [takeDigits_digit hd, readDigits_digit hd, digitRun_cons hd, List.length_cons]
      by_cases hfits : value.toNat * radix.toNat + d < 2 ^ 64
      · have hword : (UInt64.ofNat (value.toNat * radix.toNat + d)).toNat =
            value.toNat * radix.toNat + d := by
          rw [UInt64.toNat_ofNat', Nat.mod_eq_of_lt hfits]
        rw [if_pos hfits, if_pos hfits, ih, hword, Nat.add_assoc, Nat.add_comm 1]
      · rw [if_neg hfits, if_neg hfits, Option.map_none]

end Taking

section Reading

variable {radix : Nat}

/-- Reading digits gives the value of the whole run, with what was read before it, or refuses it
when it does not fit a word. -/
theorem readDigits_eq (hradix : 0 < radix) {acc : Nat} (hacc : acc < 2 ^ 64) (s : Bytes) :
    readDigits radix acc s =
      if onto radix acc (digitRun radix s) < 2 ^ 64 then
        some (onto radix acc (digitRun radix s), s.drop (digitRun radix s).length)
      else none := by
  induction s generalizing acc with
  | nil =>
    rw [show digitRun radix [] = [] from rfl, onto_nil, if_pos hacc]
    rfl
  | cons b r ih =>
    cases hd : digitOf? radix b with
    | none =>
      rw [readDigits_stop hd, digitRun_stop hd, onto_nil, if_pos hacc]
      rfl
    | some d =>
      rw [readDigits_digit hd, digitRun_cons hd, onto_cons hd, List.length_cons,
        List.drop_succ_cons]
      by_cases hfits : acc * radix + d < 2 ^ 64
      · rw [if_pos hfits, ih hfits]
      · -- more digits do not bring the value back into a word
        have hmore := le_onto hradix (acc * radix + d) (digitRun radix r)
        rw [if_neg hfits, if_neg (by omega)]

theorem readUnsigned_eq (radix : Nat) (s : Bytes) :
    readUnsigned radix s =
      if ((radixOf radix s).1 < 2 ∨ (radixOf radix s).1 > 36) ∨
          digitRun (radixOf radix s).1 (radixOf radix s).2 = [] then none
      else readDigits (radixOf radix s).1 0 (radixOf radix s).2 := by
  rw [readUnsigned]
  unfold radixOf
  generalize (if radix = 0 then s.senseRadix else (radix, s)) = x
  obtain ⟨ρ, t⟩ := x
  dsimp only
  by_cases hrange : ρ < 2 ∨ ρ > 36
  · rw [if_pos hrange, if_pos (.inl hrange)]
  · rw [if_neg hrange]
    cases t with
    | nil => rw [if_pos (.inr rfl)]
    | cons b r =>
      cases hd : digitOf? ρ b with
      | none =>
        rw [if_pos (.inr (digitRun_stop hd))]
        simp [hd]
      | some d =>
        have hrun : digitRun ρ (b :: r) ≠ [] := by
          rw [digitRun_cons hd]
          exact List.cons_ne_nil _ _
        rw [if_neg (not_or_intro hrange hrun)]
        simp [hd]

/-- What is read is the value of the run of digits, when that counts. -/
theorem readUnsigned_eq_some_iff {radix v : Nat} {s rest : Bytes} :
    readUnsigned radix s = some (v, rest) ↔
      Counts (radixOf radix s).1 (radixOf radix s).2 ∧
        v = numeralValue (radixOf radix s).1 (digitRun (radixOf radix s).1 (radixOf radix s).2) ∧
        digitRun (radixOf radix s).1 (radixOf radix s).2 ++ rest = (radixOf radix s).2 := by
  rw [readUnsigned_eq]
  generalize radixOf radix s = x
  obtain ⟨ρ, t⟩ := x
  dsimp only
  have hsplit := digitRun_append ρ t
  by_cases hout : (ρ < 2 ∨ ρ > 36) ∨ digitRun ρ t = []
  · rw [if_pos hout]
    refine ⟨nofun, ?_⟩
    rintro ⟨⟨hrange, hdigits, -⟩, -⟩
    exact absurd hout (not_or_intro (by omega) hdigits)
  · have hrange : 2 ≤ ρ ∧ ρ ≤ 36 := by omega
    have hdigits : digitRun ρ t ≠ [] := fun h => hout (.inr h)
    rw [if_neg hout, readDigits_eq (by omega) (by decide), onto_zero]
    by_cases hfits : numeralValue ρ (digitRun ρ t) < 2 ^ 64
    · rw [if_pos hfits, Option.some.injEq, Prod.mk.injEq]
      constructor
      · rintro ⟨rfl, rfl⟩
        exact ⟨⟨hrange, hdigits, hfits⟩, rfl, hsplit⟩
      · rintro ⟨-, rfl, hrest⟩
        exact ⟨rfl, List.append_cancel_left (hsplit.trans hrest.symm)⟩
    · rw [if_neg hfits]
      exact ⟨nofun, fun h => absurd h.1.fits hfits⟩

theorem digitRun_eq_self_iff {s : Bytes} :
    digitRun radix s = s ↔ ∀ b ∈ s, (digitOf? radix b).isSome = true :=
  List.takeWhile_eq_self_iff

theorem radixOf_given (hrange : 2 ≤ radix ∧ radix ≤ 36) (s : Bytes) :
    radixOf radix s = (radix, s) :=
  if_neg (by omega)

/-- In a given radix, a text is read as one number to its end just when it is a numeral whose value
fits a word. -/
theorem readUnsigned_whole_iff (hrange : 2 ≤ radix ∧ radix ≤ 36) {s : Bytes} :
    (∃ v, readUnsigned radix s = some (v, [])) ↔
      IsNumeral radix s ∧ numeralValue radix s < 2 ^ 64 := by
  simp only [readUnsigned_eq_some_iff, radixOf_given hrange, List.append_nil]
  constructor
  · rintro ⟨v, ⟨-, hdigits, hfits⟩, -, hrun⟩
    rw [hrun] at hdigits hfits
    exact ⟨⟨digitRun_eq_self_iff.mp hrun, hdigits⟩, hfits⟩
  · rintro ⟨⟨hdigits, hne⟩, hfits⟩
    have hrun := digitRun_eq_self_iff.mpr hdigits
    exact ⟨_, ⟨hrange, by rwa [hrun], by rwa [hrun]⟩, rfl, hrun⟩

/-- A numeral is refused only because its value does not fit a word. -/
theorem readUnsigned_eq_none {s : Bytes} (hrange : 2 ≤ radix ∧ radix ≤ 36) (hs : IsNumeral radix s)
    (hvalue : ¬ numeralValue radix s < 2 ^ 64) : readUnsigned radix s = none := by
  apply Option.eq_none_iff_forall_ne_some.mpr
  rintro ⟨v, rest⟩ hread
  have hcounts := (readUnsigned_eq_some_iff.mp hread).1
  rw [radixOf_given hrange] at hcounts
  have hfits := hcounts.fits
  rw [digitRun_eq_self_iff.mpr hs.digits] at hfits
  exact hvalue hfits

end Reading

/-- A radix that is sensed is one that numbers are read in. -/
theorem senseRadix_range (s : Bytes) : 2 ≤ s.senseRadix.1 ∧ s.senseRadix.1 ≤ 36 := by
  unfold senseRadix
  split
  case h_6 => split <;> simp
  all_goals simp

/-- Taking a number off a text is reading it, with the text kept where nothing is read. -/
theorem consumeUnsigned_eq (radix : UInt64) (s : Bytes) :
    consumeUnsigned radix s =
      match readUnsigned radix.toNat s with
      | none => ⟨0, false, s⟩
      | some (v, rest) => ⟨UInt64.ofNat v, true, rest⟩ := by
  have hword : ∃ ρ : UInt64, ρ.toNat = (radixOf radix.toNat s).1 ∧
      (if radix = 0 then (UInt64.ofNat s.senseRadix.1, s.senseRadix.2) else (radix, s)) =
        (ρ, (radixOf radix.toNat s).2) := by
    by_cases hzero : radix = 0
    · have hrange := senseRadix_range s
      rw [if_pos hzero, radixOf, if_pos (by rw [hzero]; rfl)]
      refine ⟨_, ?_, rfl⟩
      rw [UInt64.toNat_ofNat']
      omega
    · have hne : radix.toNat ≠ 0 := fun h => hzero (UInt64.toNat_inj.mp h)
      rw [if_neg hzero, radixOf, if_neg hne]
      exact ⟨radix, rfl, rfl⟩
  obtain ⟨ρ, hρ, hread⟩ := hword
  rw [consumeUnsigned, hread, readUnsigned_eq, ← hρ]
  dsimp only
  generalize (radixOf radix.toNat s).2 = t
  have hbounds : (ρ < 2 ∨ ρ > 36) ↔ (ρ.toNat < 2 ∨ ρ.toNat > 36) := by
    simp only [gt_iff_lt, UInt64.lt_iff_toNat_lt, UInt64.toNat_ofNat]
  by_cases hrange : ρ < 2 ∨ ρ > 36
  · rw [if_pos hrange, if_pos (.inl (hbounds.mp hrange))]
  · rw [if_neg hrange, takeDigits_eq, UInt64.toNat_zero, Nat.zero_add]
    by_cases hdigits : digitRun ρ.toNat t = []
    · rw [if_pos (.inr hdigits), hdigits]
      cases readDigits ρ.toNat 0 t <;> rfl
    · obtain ⟨n, hn⟩ : ∃ n, (digitRun ρ.toNat t).length = n + 1 :=
        Nat.exists_eq_succ_of_ne_zero (mt List.length_eq_zero_iff.mp hdigits)
      rw [if_neg (not_or_intro (mt hbounds.mpr hrange) hdigits), hn]
      cases readDigits ρ.toNat 0 t <;> rfl

theorem consumeUnsigned_ofNat {radix : Nat} (h : radix ≤ 36) (s : Bytes) :
    consumeUnsigned (UInt64.ofNat radix) s =
      match readUnsigned radix s with
      | none => ⟨0, false, s⟩
      | some (v, rest) => ⟨UInt64.ofNat v, true, rest⟩ := by
  have hword : (UInt64.ofNat radix).toNat = radix := by
    rw [UInt64.toNat_ofNat']
    omega
  rw [consumeUnsigned_eq, hword]

/-- A number is taken off a text just when the radix, given or sensed, is from 2 to 36, there is a
digit of it, and the value of the longest run of digits fits 64 bits. Then that is the value, and
the run and what tells the radix are gone from the text; else the value is 0 and the text as it
was. -/
theorem consumeUnsigned_exact (radix : UInt64) (s : Bytes) :
    let c := consumeUnsigned radix s
    let ρ := (radixOf radix.toNat s).1
    let t := (radixOf radix.toNat s).2
    (c.ok = true ↔ (2 ≤ ρ ∧ ρ ≤ 36) ∧ digitRun ρ t ≠ [] ∧
      numeralValue ρ (digitRun ρ t) < 2 ^ 64) ∧
    (c.ok = true → c.value.toNat = numeralValue ρ (digitRun ρ t) ∧ digitRun ρ t ++ c.rest = t) ∧
    (c.ok = false → c.value = 0 ∧ c.rest = s) := by
  dsimp only
  rw [consumeUnsigned_eq]
  cases hread : readUnsigned radix.toNat s with
  | none =>
    refine ⟨⟨nofun, ?_⟩, nofun, fun _ => ⟨rfl, rfl⟩⟩
    rintro ⟨hrange, hdigits, hfits⟩
    have hsome := readUnsigned_eq_some_iff.mpr
      ⟨⟨hrange, hdigits, hfits⟩, rfl, digitRun_append _ _⟩
    rw [hsome] at hread
    cases hread
  | some x =>
    obtain ⟨hcounts, hvalue, hrest⟩ := readUnsigned_eq_some_iff.mp hread
    refine ⟨⟨fun _ => ⟨hcounts.range, hcounts.digits, hcounts.fits⟩, fun _ => rfl⟩,
      fun _ => ⟨?_, hrest⟩, nofun⟩
    rw [UInt64.toNat_ofNat', hvalue, Nat.mod_eq_of_lt hcounts.fits]

/-- The largest word in hexadecimal, with zeros before it and a letter behind it that is no digit;
one more digit is too much, and the text keeps what tells its radix. -/
theorem consumeUnsigned_exact_largest :
    let s : Bytes := "0X000ffffFFFFffffFFFFg"
    let s' : Bytes := "0X000ffffFFFFffffFFFF0"
    let c := consumeUnsigned 0 s
    let c' := consumeUnsigned 0 s'
    (c.ok = true ∧ c.value.toNat = numeralValue 16 (digitRun 16 (s.drop 2)) ∧
      digitRun 16 (s.drop 2) ++ c.rest = s.drop 2 ∧ c.rest = [103] ∧ c.value.toNat = 2 ^ 64 - 1) ∧
    (c'.ok = false ∧ c'.value = 0 ∧ c'.rest = s') := by
  intro s s' c c'
  have hok : c.ok = true := by decide
  have hfails : c'.ok = false := by decide
  obtain ⟨hvalue, hrest⟩ := (consumeUnsigned_exact 0 s).2.1 hok
  exact ⟨⟨hok, hvalue, hrest, by decide, by decide⟩, hfails,
    (consumeUnsigned_exact 0 s').2.2 hfails⟩

end FrontEnd.Bytes
