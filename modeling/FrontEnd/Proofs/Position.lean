import FrontEnd.Proofs.Versions

/-!
Positions in a file. The line ends before an offset are counted by halving the list of all of them,
and the last one tells where the line starts. So the line is one more than the number of line ends
before the offset, the column one more than the distance to the start of the line, and both grow
with the offset: no two offsets share a position.
-/
namespace FrontEnd

/-- There is a line end at the offset. -/
def EndsLine (content : Bytes) (e : Nat) : Prop :=
  content[e]? = some 10 ∨ content[e]? = some 13

instance (content : Bytes) (e : Nat) : Decidable (EndsLine content e) :=
  inferInstanceAs (Decidable (_ ∨ _))

/-- The number of line ends before the offset. -/
def endsBefore (content : Bytes) (off : Nat) : Nat := (content.take off).countP isLineEnd

/-- A line starts at the offset: it is the first of the content, or the one behind a line end. -/
def OpensLine (content : Bytes) : Nat → Prop
  | 0 => True
  | e + 1 => EndsLine content e

/-- The line that the offset is on starts at `start`: there is no line end from there on. -/
structure LineStart (content : Bytes) (off start : Nat) : Prop where
  le : start ≤ off
  opens : OpensLine content start
  free : ∀ e, start ≤ e → e < off → ¬ EndsLine content e

section LineEnds

variable {content : Bytes} {a b e k : Nat}

theorem endsLine_iff : EndsLine content e ↔ ∃ c, content[e]? = some c ∧ isLineEnd c = true := by
  unfold EndsLine
  cases content[e]? with
  | none => simp
  | some c => simp [isLineEnd]

theorem EndsLine.lt (h : EndsLine content e) : e < content.length := by
  obtain ⟨c, hc, -⟩ := endsLine_iff.mp h
  exact (List.getElem?_eq_some_iff.mp hc).1

theorem endsLine_cons_zero {c : UInt8} : EndsLine (c :: content) 0 ↔ isLineEnd c = true := by
  simp [endsLine_iff]

theorem endsLine_cons_succ {c : UInt8} : EndsLine (c :: content) (e + 1) ↔ EndsLine content e :=
  Iff.rfl

theorem endsBefore_cons_succ (c : UInt8) (content : Bytes) (off : Nat) :
    endsBefore (c :: content) (off + 1) =
      endsBefore content off + if isLineEnd c = true then 1 else 0 := by
  rw [endsBefore, List.take_succ_cons, List.countP_cons]
  rfl

theorem endsBefore_succ_of_ends (h : EndsLine content e) :
    endsBefore content (e + 1) = endsBefore content e + 1 := by
  obtain ⟨c, hc, hend⟩ := endsLine_iff.mp h
  simp [endsBefore, List.take_add_one, hc, hend]

theorem endsBefore_succ_of_not_ends (h : ¬ EndsLine content e) :
    endsBefore content (e + 1) = endsBefore content e := by
  rw [endsLine_iff] at h
  cases hc : content[e]? with
  | none => simp [endsBefore, List.take_add_one, hc]
  | some c =>
    have hend : ¬ isLineEnd c = true := fun hend => h ⟨c, hc, hend⟩
    simp [endsBefore, List.take_add_one, hc, hend]

theorem endsBefore_le_succ (content : Bytes) (e : Nat) :
    endsBefore content e ≤ endsBefore content (e + 1) := by
  by_cases h : EndsLine content e
  · have hsucc := endsBefore_succ_of_ends h
    omega
  · have hsucc := endsBefore_succ_of_not_ends h
    omega

theorem endsBefore_mono (content : Bytes) (h : a ≤ b) :
    endsBefore content a ≤ endsBefore content b := by
  induction h with
  | refl => exact Nat.le_refl _
  | step _ ih => exact Nat.le_trans ih (endsBefore_le_succ content _)

theorem endsBefore_lt (h : EndsLine content e) (hlt : e < b) :
    endsBefore content e < endsBefore content b := by
  have hmono := endsBefore_mono content hlt
  rw [endsBefore_succ_of_ends h] at hmono
  omega

theorem endsBefore_le_countP (content : Bytes) (off : Nat) :
    endsBefore content off ≤ content.countP isLineEnd :=
  (List.take_sublist off content).countP_le

/-- Two offsets have the same line ends before them when there is none between them. -/
theorem endsBefore_eq_iff (h : a ≤ b) :
    endsBefore content b = endsBefore content a ↔ ∀ e, a ≤ e → e < b → ¬ EndsLine content e := by
  constructor
  · intro heq e hae heb hend
    have hlow := endsBefore_mono content hae
    have hhigh := endsBefore_lt hend heb
    omega
  · induction h with
    | refl => exact fun _ => rfl
    | @step b hab ih =>
      intro hfree
      have hlast : ¬ EndsLine content b := hfree b hab (Nat.lt_succ_self b)
      have hrest := ih fun e hae heb => hfree e hae (Nat.lt_succ_of_lt heb)
      rw [endsBefore_succ_of_not_ends hlast, hrest]

namespace OpensLine

variable {start start' off : Nat}

theorem endsBefore_lt (h : OpensLine content start) (hlt : off < start) :
    endsBefore content off < endsBefore content start := by
  cases start with
  | zero => omega
  | succ e =>
    have hmono := endsBefore_mono content (Nat.le_of_lt_succ hlt)
    rw [endsBefore_succ_of_ends h]
    omega

/-- Lines that start at different offsets have different numbers. -/
theorem inj (h : OpensLine content start) (h' : OpensLine content start')
    (heq : endsBefore content start = endsBefore content start') : start = start' := by
  rcases Nat.lt_trichotomy start start' with hlt | hsame | hlt
  · have hless := h'.endsBefore_lt hlt
    omega
  · exact hsame
  · have hless := h.endsBefore_lt hlt
    omega

end OpensLine

/-- The line end at a place of the list has as many before it. -/
theorem getElem?_lineEndsFrom {i off : UInt32}
    (hfits : i.toNat + content.length < 0x100000000) :
    (lineEndsFrom i content)[k]? = some off ↔
      ∃ d, off.toNat = i.toNat + d ∧ EndsLine content d ∧ endsBefore content d = k := by
  induction content generalizing i k with
  | nil => simp [lineEndsFrom, EndsLine]
  | cons c r ih =>
    rw [List.length_cons] at hfits
    have hnext := toNat_next (i := i) (by omega)
    have hrest := fun k => ih (i := i + 1) (k := k) (by omega)
    by_cases hc : isLineEnd c = true
    · rw [lineEndsFrom, if_pos hc]
      cases k with
      | zero =>
        constructor
        · rintro ⟨⟩
          exact ⟨0, rfl, endsLine_cons_zero.mpr hc, rfl⟩
        · rintro ⟨d, hoff, -, hk⟩
          cases d with
          | zero => exact congrArg some (UInt32.toNat_inj.mp hoff.symm)
          | succ d =>
            rw [endsBefore_cons_succ, if_pos hc] at hk
            omega
      | succ k =>
        rw [List.getElem?_cons_succ, hrest]
        constructor
        · rintro ⟨d, hoff, hend, hk⟩
          refine ⟨d + 1, by omega, endsLine_cons_succ.mpr hend, ?_⟩
          rw [endsBefore_cons_succ, if_pos hc, hk]
        · rintro ⟨d, hoff, hend, hk⟩
          cases d with
          | zero => cases hk
          | succ d =>
            rw [endsBefore_cons_succ, if_pos hc] at hk
            exact ⟨d, by omega, endsLine_cons_succ.mp hend, by omega⟩
    · rw [lineEndsFrom, if_neg hc, hrest]
      constructor
      · rintro ⟨d, hoff, hend, hk⟩
        refine ⟨d + 1, by omega, endsLine_cons_succ.mpr hend, ?_⟩
        rw [endsBefore_cons_succ, if_neg hc, hk, Nat.add_zero]
      · rintro ⟨d, hoff, hend, hk⟩
        cases d with
        | zero => exact absurd (endsLine_cons_zero.mp hend) hc
        | succ d =>
          rw [endsBefore_cons_succ, if_neg hc] at hk
          exact ⟨d, by omega, endsLine_cons_succ.mp hend, by omega⟩

namespace LineStart

variable {start start' off : Nat}

theorem unique (h : LineStart content off start) (h' : LineStart content off start') :
    start = start' := by
  apply h.opens.inj h'.opens
  rw [← (endsBefore_eq_iff h.le).mpr h.free, (endsBefore_eq_iff h'.le).mpr h'.free]

/-- Offsets with no line end between them are on one line. -/
theorem extend (h : LineStart content a start) (hab : a ≤ b)
    (heq : endsBefore content b = endsBefore content a) : LineStart content b start where
  le := Nat.le_trans h.le hab
  opens := h.opens
  free e hse heb := by
    by_cases hea : e < a
    · exact h.free e hse hea
    · exact (endsBefore_eq_iff hab).mp heq e (by omega) heb

end LineStart

end LineEnds

/-- When the ends before the offset are the first `n`, halving finds their number. -/
theorem placeAmong_eq {ends : Array UInt32} {off : UInt32} {n lo hi : Nat}
    (hfirst : ∀ k (hk : k < ends.size), ends[k] < off ↔ k < n) (hlo : lo ≤ hi)
    (hhi : hi ≤ ends.size) (hlon : lo ≤ n) (hnhi : n ≤ hi) :
    (placeAmong ends off lo hi hlo hhi).val = n := by
  fun_induction placeAmong ends off lo hi hlo hhi with
  | case1 lo hi hlo hhi h mid hmid ih =>
    have hn := (hfirst mid (by omega)).mp hmid
    exact ih (by omega) hnhi
  | case2 lo hi hlo hhi h mid hmid ih =>
    have hn : ¬ mid < n := fun hlt => hmid ((hfirst mid (by omega)).mpr hlt)
    exact ih hlon (by omega)
  | case3 lo hi hlo hhi h =>
    show lo = n
    omega

namespace File

/-- The line ends of the file are those of its content. -/
def Indexed (f : File) : Prop := f.lineEnds = lineEndsFrom 0 f.content

theorem make_indexed (id : FileId) (path content : Bytes) (flags : FileFlags)
    (fits : FitsOffsets content) : (make id path content flags fits).Indexed := rfl

theorem length_lt (f : File) : f.content.length + 1 < 0x100000000 := f.fits

theorem toNat_size (f : File) : f.size.toNat = f.content.length := by
  have hfits := f.length_lt
  rw [size, Nat.toUInt32, UInt32.toNat_ofNat']
  omega

theorem checkOffset_eq_ok_iff {f : File} {off : UInt32} :
    f.checkOffset off = .ok () ↔ off.toNat ≤ f.content.length := by
  rw [← f.toNat_size, ← UInt32.le_iff_toNat_le, ← UInt32.not_lt]
  unfold checkOffset
  split <;> simp_all

theorem positionOf_eq_ok_iff {f : File} {off : UInt32} {p : Position} :
    f.positionOf off = .ok p ↔ off.toNat ≤ f.content.length ∧ f.locate off = p := by
  rw [← checkOffset_eq_ok_iff, positionOf]
  cases f.checkOffset off with
  | error e => simp [Except.map]
  | ok u => simp [Except.map]

section Indexed

variable {f : File} (hf : f.Indexed) {off e : UInt32} {k : Nat}

include hf

theorem Indexed.getElem?_iff : f.lineEnds[k]? = some e ↔
    EndsLine f.content e.toNat ∧ endsBefore f.content e.toNat = k := by
  have hfits := f.length_lt
  rw [hf, getElem?_lineEndsFrom (by rw [UInt32.toNat_zero]; omega), UInt32.toNat_zero]
  constructor
  · rintro ⟨d, hd, h⟩
    rw [Nat.zero_add] at hd
    exact hd ▸ h
  · exact fun h => ⟨e.toNat, by omega, h⟩

/-- The line ends before an offset are the first ones of the list. -/
theorem Indexed.lt_iff (hk : f.lineEnds[k]? = some e) :
    e < off ↔ k < endsBefore f.content off.toNat := by
  obtain ⟨hend, rfl⟩ := hf.getElem?_iff.mp hk
  rw [UInt32.lt_iff_toNat_lt]
  constructor
  · exact endsBefore_lt hend
  · intro hlt
    by_cases hle : off.toNat ≤ e.toNat
    · have hmono := endsBefore_mono f.content hle
      omega
    · omega

theorem Indexed.length_eq : f.lineEnds.length = f.content.countP isLineEnd := by
  have hlength : ∀ (content : Bytes) (i : UInt32),
      (lineEndsFrom i content).length = content.countP isLineEnd := by
    intro content
    induction content with
    | nil => exact fun i => rfl
    | cons c r ih =>
      intro i
      by_cases hc : isLineEnd c = true <;> simp [lineEndsFrom, hc, ih]
  rw [hf, hlength]

theorem Indexed.passed_eq (off : UInt32) :
    (placeAmong f.lineEnds.toArray off 0 f.lineEnds.toArray.size (Nat.zero_le _)
      (Nat.le_refl _)).val =
      endsBefore f.content off.toNat := by
  have hfirst : ∀ k (hk : k < f.lineEnds.toArray.size), f.lineEnds.toArray[k] < off ↔
      k < endsBefore f.content off.toNat := by
    intro k hk
    exact hf.lt_iff (List.getElem?_eq_getElem hk)
  apply placeAmong_eq hfirst _ _ (Nat.zero_le _)
  rw [List.size_toArray, hf.length_eq]
  exact endsBefore_le_countP _ _

/-- Behind the last line end before an offset its line starts. -/
theorem Indexed.lineStart_startBehind {passed : { n : Nat // n ≤ f.lineEnds.toArray.size }}
    (hpassed : passed.val = endsBefore f.content off.toNat) :
    LineStart f.content off.toNat (startBehind f.lineEnds.toArray passed).toNat := by
  obtain ⟨n, hn⟩ := passed
  cases n with
  | zero =>
    have hnone : endsBefore f.content off.toNat = endsBefore f.content 0 := hpassed.symm
    exact ⟨Nat.zero_le _, trivial, (endsBefore_eq_iff (Nat.zero_le _)).mp hnone⟩
  | succ k =>
    have hlast : k + 1 = endsBefore f.content off.toNat := hpassed
    have hk : f.lineEnds[k]? = some f.lineEnds.toArray[k] := List.getElem?_eq_getElem hn
    rw [startBehind]
    generalize f.lineEnds.toArray[k] = e at hk
    have hlt : e < off := (hf.lt_iff hk).mpr (by omega)
    rw [UInt32.lt_iff_toNat_lt] at hlt
    obtain ⟨hend, hbefore⟩ := hf.getElem?_iff.mp hk
    have hnone : endsBefore f.content off.toNat = endsBefore f.content (e.toNat + 1) := by
      rw [endsBefore_succ_of_ends hend]
      omega
    have hword := off.toNat_lt
    rw [toNat_next (by omega)]
    exact ⟨hlt, hend, (endsBefore_eq_iff hlt).mp hnone⟩

theorem Indexed.locate_eq (hoff : off.toNat ≤ f.content.length) :
    (f.locate off).line.toNat = 1 + endsBefore f.content off.toNat ∧
      ∃ start, LineStart f.content off.toNat start ∧
        (f.locate off).col.toNat = 1 + (off.toNat - start) := by
  have hfits := f.length_lt
  have hpassed := hf.passed_eq off
  have hstart := hf.lineStart_startBehind hpassed
  have hle := hstart.le
  refine ⟨?_, _, hstart, ?_⟩
  · have hcount := endsBefore_le_countP f.content off.toNat
    have hlength : f.content.countP isLineEnd ≤ f.content.length := List.countP_le_length
    rw [locate, hpassed, Nat.toUInt32, UInt32.toNat_ofNat']
    omega
  · rw [← UInt32.le_iff_toNat_le] at hle
    rw [locate, toNat_next, UInt32.toNat_sub_of_le _ _ hle]
    · omega
    · rw [UInt32.toNat_sub_of_le _ _ hle]
      omega

end Indexed

end File

/-- The first position comes before the second in reading order. -/
def Position.Precedes (p q : Position) : Prop :=
  p.line < q.line ∨ p.line = q.line ∧ p.col < q.col

theorem Position.Precedes.ne {p q : Position} (h : p.Precedes q) : p ≠ q := by
  rintro rfl
  rcases h with h | ⟨-, h⟩ <;> exact UInt32.lt_irrefl _ h

namespace File

theorem Indexed.locate_precedes {f : File} (hf : f.Indexed) {off off' : UInt32} (hlt : off < off')
    (hoff' : off'.toNat ≤ f.content.length) : (f.locate off).Precedes (f.locate off') := by
  rw [UInt32.lt_iff_toNat_lt] at hlt
  have hoff : off.toNat ≤ f.content.length := by omega
  obtain ⟨hline, start, hstart, hcol⟩ := hf.locate_eq hoff
  obtain ⟨hline', start', hstart', hcol'⟩ := hf.locate_eq hoff'
  have hmono := endsBefore_mono f.content (Nat.le_of_lt hlt)
  by_cases heq : endsBefore f.content off'.toNat = endsBefore f.content off.toNat
  · -- on one line it is the distance from its start that grows
    obtain rfl := (hstart.extend (Nat.le_of_lt hlt) heq).unique hstart'
    have hle := hstart.le
    refine .inr ⟨UInt32.toNat_inj.mp (by omega), ?_⟩
    rw [UInt32.lt_iff_toNat_lt]
    omega
  · left
    rw [UInt32.lt_iff_toNat_lt]
    omega

/-- Every offset of a content and the one behind it have a position: the line is one more than the
number of line ends before the offset, and the column one more than the distance from the start of
the line, as numbers and not only modulo the size of a word. Positions are in the order of their
offsets, and different offsets have different positions. -/
theorem positionOf_exact (id : FileId) (path content : Bytes) (flags : FileFlags)
    (fits : FitsOffsets content) :
    let f := File.make id path content flags fits
    (∀ off : UInt32, off.toNat ≤ content.length → ∃ p, f.positionOf off = .ok p ∧
        p.line.toNat = 1 + (content.take off.toNat).countP (fun b => b == 10 || b == 13) ∧
        ∃ start, LineStart content off.toNat start ∧ p.col.toNat = 1 + (off.toNat - start)) ∧
      ∀ off off' p p', f.positionOf off = .ok p → f.positionOf off' = .ok p' →
        (off < off' → p.Precedes p') ∧ (off ≠ off' → p ≠ p') := by
  intro f
  have hf : f.Indexed := make_indexed id path content flags fits
  constructor
  · intro off hoff
    exact ⟨_, positionOf_eq_ok_iff.mpr ⟨hoff, rfl⟩, hf.locate_eq hoff⟩
  · intro off off' p p' hp hp'
    obtain ⟨hoff, rfl⟩ := positionOf_eq_ok_iff.mp hp
    obtain ⟨hoff', rfl⟩ := positionOf_eq_ok_iff.mp hp'
    refine ⟨fun hlt => hf.locate_precedes hlt hoff', fun hne => ?_⟩
    rcases UInt32.lt_or_lt_of_ne hne with hlt | hlt
    · exact (hf.locate_precedes hlt hoff').ne
    · exact (hf.locate_precedes hlt hoff).ne.symm

/-- A line end that follows another is on the line between them, and the end of a content that does
not end its last line is on that line. -/
theorem positionOf_exact_adjacent :
    let content : Bytes := [97, 10, 13, 98]
    let f := File.make 0 "a.kj" content 0 (by decide)
    FitsOffsets content ∧ f.positionOf 2 = .ok ⟨2, 1⟩ ∧ f.positionOf 4 = .ok ⟨3, 2⟩ ∧
      Position.Precedes ⟨2, 1⟩ ⟨3, 2⟩ := by
  intro content f
  obtain ⟨hexact, horder⟩ := positionOf_exact 0 "a.kj" content 0 (by decide)
  obtain ⟨p, hp, hline, start, hstart, hcol⟩ := hexact 2 (by decide)
  obtain ⟨q, hq, hline', start', hstart', hcol'⟩ := hexact 4 (by decide)
  have hpq := (horder 2 4 p q hp hq).1 (by decide)
  have hsecond : LineStart content 2 2 := ⟨by decide, .inl rfl, by omega⟩
  have hthird : LineStart content 4 3 := by
    refine ⟨by decide, .inr rfl, ?_⟩
    intro e hle hlt
    obtain rfl : e = 3 := by omega
    decide
  obtain rfl := hstart.unique hsecond
  obtain rfl := hstart'.unique hthird
  obtain rfl : p = ⟨2, 1⟩ := by
    obtain ⟨line, col⟩ := p
    exact congr (congrArg Position.mk (UInt32.toNat_inj.mp hline)) (UInt32.toNat_inj.mp hcol)
  obtain rfl : q = ⟨3, 2⟩ := by
    obtain ⟨line, col⟩ := q
    exact congr (congrArg Position.mk (UInt32.toNat_inj.mp hline')) (UInt32.toNat_inj.mp hcol')
  exact ⟨by decide, hp, hq, hpq⟩

end File

end FrontEnd
