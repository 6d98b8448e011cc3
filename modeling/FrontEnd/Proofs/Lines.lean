import FrontEnd.Proofs.Position

/-!
The lines of a file. They are what is left of the content when it is cut at its line ends, so with
the line ends between them they are the content again; there are no others, and the line of an
offset is the one that its position names, with the octet of the offset at the column of the
position.
-/
namespace FrontEnd

/-- The line with so many line ends before it reaches from `start` to `stop`: it holds no line end,
and stands between two, or the ends of the content. -/
structure LineAt (content : Bytes) (j start stop : Nat) : Prop where
  le : start ≤ stop
  within : stop ≤ content.length
  number : endsBefore content start = j
  opens : OpensLine content start
  free : ∀ e, start ≤ e → e < stop → ¬ EndsLine content e
  closes : stop < content.length → EndsLine content stop

/-- The lines, each but the last with its end behind it. -/
def joinLines (lines : List Bytes) (ends : Bytes) : Bytes :=
  (List.zipWith (· ++ ·) lines (ends.map (fun e => [e]) ++ [[]])).flatten

section LineEnds

variable {content : Bytes} {j start stop off : Nat}

theorem endsBefore_length (content : Bytes) :
    endsBefore content content.length = content.countP isLineEnd := by
  rw [endsBefore, List.take_length]

namespace LineAt

variable (h : LineAt content j start stop)

include h

theorem endsBefore_stop : endsBefore content stop = j := by
  rw [(endsBefore_eq_iff h.le).mpr h.free, h.number]

/-- An offset with as many line ends before it is on the line. -/
theorem holds (hoff : off ≤ content.length) (heq : endsBefore content off = j) :
    off ≤ stop ∧ LineStart content off start := by
  have hstop : off ≤ stop := by
    by_cases hlt : stop < off
    · have hmore := endsBefore_lt (h.closes (by omega)) hlt
      rw [h.endsBefore_stop] at hmore
      omega
    · omega
  have hstart : start ≤ off := by
    by_cases hlt : off < start
    · have hless := h.opens.endsBefore_lt hlt
      rw [h.number] at hless
      omega
    · omega
  exact ⟨hstop, hstart, h.opens, fun e hle hlt => h.free e hle (by omega)⟩

/-- The line ends with the content when there are no more line ends, and else with one. -/
theorem stop_eq_length (hlast : content.countP isLineEnd ≤ j) : stop = content.length := by
  have hwithin := h.within
  by_cases hlt : stop < content.length
  · have hmore := endsBefore_lt (h.closes hlt) hlt
    rw [h.endsBefore_stop, endsBefore_length] at hmore
    omega
  · omega

theorem ends_stop (hmore : j < content.countP isLineEnd) : EndsLine content stop := by
  have hwithin := h.within
  by_cases hlt : stop < content.length
  · exact h.closes hlt
  · have hall : stop = content.length := by omega
    have hstop := h.endsBefore_stop
    rw [hall, endsBefore_length] at hstop
    omega

/-- The next line starts behind the end of this one. -/
theorem next {start' stop' : Nat} (hmore : j < content.countP isLineEnd)
    (h' : LineAt content (j + 1) start' stop') : start' = stop + 1 := by
  have hend := h.ends_stop hmore
  have hopens : OpensLine content (stop + 1) := hend
  apply h'.opens.inj hopens
  rw [h'.number, endsBefore_succ_of_ends hend, h.endsBefore_stop]

/-- Of the offsets of a line the last is that of a line end or of the end of the content. -/
theorem eq_stop_iff (hstart : start ≤ off) (hstop : off ≤ stop) :
    off = stop ↔ EndsLine content off ∨ off = content.length := by
  have hwithin := h.within
  constructor
  · rintro rfl
    by_cases hlt : off < content.length
    · exact .inl (h.closes hlt)
    · exact .inr (by omega)
  · rintro (hend | hall)
    · by_cases hlt : off < stop
      · exact absurd hend (h.free off hstart hlt)
      · omega
    · omega

end LineAt

end LineEnds

namespace File

variable {f : File} {start stop : Nat}

theorem length_cut (hle : start ≤ stop) (hwithin : stop ≤ f.content.length) :
    (f.cut start stop).length = stop - start := by
  rw [cut, List.length_take, List.length_drop]
  omega

theorem getElem?_cut {i : Nat} (hi : start + i < stop) :
    (f.cut start stop)[i]? = f.content[start + i]? := by
  rw [cut, List.getElem?_take_of_lt (by omega), List.getElem?_drop]

theorem cut_length (f : File) (start : Nat) :
    f.cut start f.content.length = f.content.drop start := by
  rw [cut, ← List.length_drop, List.take_length]

theorem drop_eq_cut_append {c : UInt8} (hle : start ≤ stop) (hc : f.content[stop]? = some c) :
    f.content.drop start = f.cut start stop ++ c :: f.content.drop (stop + 1) := by
  obtain ⟨hlt, rfl⟩ := List.getElem?_eq_some_iff.mp hc
  have hsplit := List.take_append_drop (stop - start) (f.content.drop start)
  rw [List.drop_drop, Nat.add_sub_cancel' hle, List.drop_eq_getElem_cons hlt] at hsplit
  exact hsplit.symm

theorem isLineEnd_of_mem_cut (hfree : ∀ e, start ≤ e → e < stop → ¬ EndsLine f.content e) :
    ∀ b ∈ f.cut start stop, isLineEnd b = false := by
  intro b hb
  obtain ⟨i, hi⟩ := List.mem_iff_getElem?.mp hb
  have hlt : i < (f.cut start stop).length := (List.getElem?_eq_some_iff.mp hi).1
  rw [cut, List.length_take] at hlt
  rw [getElem?_cut (by omega)] at hi
  rw [Bool.eq_false_iff]
  exact fun hend => hfree (start + i) (by omega) (by omega) (endsLine_iff.mpr ⟨b, hi, hend⟩)

theorem toNat_sub_number {m c : UInt32} {n : Nat} (hm : m.toNat = n + c.toNat) :
    (m - c).toNat = n := by
  rw [UInt32.toNat_sub_of_le _ _ (by rw [UInt32.le_iff_toNat_le]; omega)]
  omega

theorem toNat_number (f : File) {j : Nat} (hj : j ≤ f.content.countP isLineEnd) :
    (j + 1).toUInt32.toNat = j + 1 := by
  have hfits := f.length_lt
  have hcount : f.content.countP isLineEnd ≤ f.content.length := List.countP_le_length
  rw [Nat.toUInt32, UInt32.toNat_ofNat']
  omega

/-- From the second line on, a line starts behind the end of the one before it. -/
theorem lineStart?_of_le {m : UInt32} {n : Nat} (hm : m.toNat = n + 2) :
    f.lineStart? m = f.lineEnds[n]?.map (· + 1) := by
  have hzero : m ≠ 0 := by
    rintro rfl
    cases hm
  have hone : m ≠ 1 := by
    rintro rfl
    cases hm
  rw [lineStart?, if_neg hzero, if_neg hone, toNat_sub_number hm]

section Indexed

variable (hf : f.Indexed) {j : Nat} {e off : UInt32}

include hf

/-- From the start of a line on, the next line end or the end of the content closes it. -/
theorem Indexed.lineAt {first : UInt32} (hwithin : first.toNat ≤ f.content.length)
    (hnumber : endsBefore f.content first.toNat = j)
    (hopens : OpensLine f.content first.toNat) :
    LineAt f.content j first.toNat (min (f.lineEnds[j]?.getD f.size) f.size).toNat := by
  have hsize := f.toNat_size
  cases hj : f.lineEnds[j]? with
  | some e =>
    obtain ⟨hend, hbefore⟩ := hf.getElem?_iff.mp hj
    have hlt := hend.lt
    have hmin : min e f.size = e := by
      apply if_pos
      rw [UInt32.le_iff_toNat_le]
      omega
    have hle : first.toNat ≤ e.toNat := by
      by_cases hpast : e.toNat < first.toNat
      · have hmore := endsBefore_lt hend hpast
        omega
      · omega
    have hsame : endsBefore f.content e.toNat = endsBefore f.content first.toNat := by omega
    rw [Option.getD_some, hmin]
    exact ⟨hle, Nat.le_of_lt hlt, hnumber, hopens, (endsBefore_eq_iff hle).mp hsame,
      fun _ => hend⟩
  | none =>
    have hmin : min f.size f.size = f.size := if_pos (UInt32.le_refl _)
    have hmono := endsBefore_mono f.content hwithin
    have hlast := List.getElem?_eq_none_iff.mp hj
    rw [hf.length_eq] at hlast
    rw [endsBefore_length] at hmono
    have hsame : endsBefore f.content f.content.length = endsBefore f.content first.toNat := by
      rw [endsBefore_length]
      omega
    rw [Option.getD_none, hmin, hsize]
    exact ⟨hwithin, Nat.le_refl _, hnumber, hopens, (endsBefore_eq_iff hwithin).mp hsame,
      fun hlt => absurd hlt (Nat.lt_irrefl _)⟩

theorem Indexed.lineStart?_eq_some {m : UInt32} (hm : m.toNat = j + 1)
    (hj : j ≤ f.content.countP isLineEnd) :
    ∃ first, f.lineStart? m = some first ∧ first.toNat ≤ f.content.length ∧
      endsBefore f.content first.toNat = j ∧ OpensLine f.content first.toNat := by
  cases j with
  | zero =>
    obtain rfl : m = 1 := UInt32.toNat_inj.mp hm
    exact ⟨0, rfl, Nat.zero_le _, rfl, trivial⟩
  | succ j =>
    rw [← hf.length_eq] at hj
    have hk := List.getElem?_eq_getElem hj
    generalize f.lineEnds[j] = e at hk
    obtain ⟨hend, hbefore⟩ := hf.getElem?_iff.mp hk
    have hlt := hend.lt
    have hfits := f.length_lt
    have hnext := toNat_next (i := e) (by omega)
    refine ⟨e + 1, ?_, by omega, ?_, ?_⟩
    · rw [lineStart?_of_le hm, hk, Option.map_some]
    · rw [hnext, endsBefore_succ_of_ends hend, hbefore]
    · rw [hnext]
      exact hend

/-- There is one line more than there are line ends. -/
theorem Indexed.lineRange?_eq_some {m : UInt32} (hm : m.toNat = j + 1)
    (hj : j ≤ f.content.countP isLineEnd) :
    ∃ first last, f.lineRange? m = some (first, last) ∧
      LineAt f.content j first.toNat last.toNat := by
  obtain ⟨first, hfirst, hwithin, hnumber, hopens⟩ := hf.lineStart?_eq_some hm hj
  have hinside : ¬ first > f.size := by
    rw [gt_iff_lt, UInt32.lt_iff_toNat_lt, f.toNat_size]
    omega
  refine ⟨first, _, ?_, hf.lineAt hwithin hnumber hopens⟩
  rw [lineRange?, hfirst, Option.bind_some, if_neg hinside, toNat_sub_number hm]

theorem Indexed.lineRange?_eq_none {m : UInt32}
    (hm : m = 0 ∨ f.content.countP isLineEnd + 1 < m.toNat) : f.lineRange? m = none := by
  rcases hm with rfl | hm
  · rfl
  · obtain ⟨n, hn⟩ : ∃ n, m.toNat = n + 2 := ⟨m.toNat - 2, by omega⟩
    have hnone : f.lineEnds[n]? = none := by
      rw [List.getElem?_eq_none_iff, hf.length_eq]
      omega
    rw [lineRange?, lineStart?_of_le hn, hnone]
    rfl

theorem Indexed.line_eq_cut (hj : j ≤ f.content.countP isLineEnd) :
    ∃ start stop, LineAt f.content j start stop ∧ f.line (j + 1).toUInt32 = f.cut start stop := by
  obtain ⟨first, last, hrange, hat⟩ := hf.lineRange?_eq_some (f.toNat_number hj) hj
  refine ⟨_, _, hat, ?_⟩
  rw [line, hrange]

/-- The lines from one on are what is left when the content is cut at the line ends from there
on. -/
theorem Indexed.lines_from (n : Nat) (hj : j + n = f.content.countP isLineEnd) :
    ∃ start stop, LineAt f.content j start stop ∧
      (List.range' j (n + 1)).map (fun i => f.line (i + 1).toUInt32) =
        (f.content.drop start).splitOnP isLineEnd := by
  induction n generalizing j with
  | zero =>
    obtain ⟨start, stop, hat, hline⟩ := hf.line_eq_cut (j := j) (by omega)
    have hfree := isLineEnd_of_mem_cut hat.free
    rw [hat.stop_eq_length (by omega), cut_length] at hline hfree
    refine ⟨start, stop, hat, ?_⟩
    rw [List.splitOnP_eq_singleton hfree]
    exact congrArg (fun l => [l]) hline
  | succ n ih =>
    obtain ⟨start, stop, hat, hline⟩ := hf.line_eq_cut (j := j) (by omega)
    obtain ⟨start', stop', hat', hlines⟩ := ih (j := j + 1) (by omega)
    have hfree := isLineEnd_of_mem_cut hat.free
    have hend := hat.ends_stop (by omega)
    obtain ⟨c, hc, hcend⟩ := endsLine_iff.mp hend
    obtain rfl := hat.next (by omega) hat'
    refine ⟨start, stop, hat, ?_⟩
    rw [List.range'_succ, List.map_cons, hlines, hline, drop_eq_cut_append hat.le hc,
      List.splitOnP_append_cons_of_forall_mem hfree c hcend]

/-- The lines of a file are what is left when its content is cut at the line ends. -/
theorem Indexed.lines_eq :
    (List.range (f.content.countP isLineEnd + 1)).map (fun i => f.line (i + 1).toUInt32) =
      f.content.splitOnP isLineEnd := by
  obtain ⟨start, stop, hat, hlines⟩ := hf.lines_from _ (Nat.zero_add _)
  obtain rfl : start = 0 := hat.opens.inj trivial hat.number
  rw [List.range_eq_range', hlines]
  rfl

/-- The ends of a line are in order and inside the content. -/
theorem Indexed.slice_line {m first last : UInt32} (hrange : f.lineRange? m = some (first, last)) :
    f.slice ⟨f.id, first, last⟩ = .ok (f.line m) := by
  have hnumber : ¬ (m = 0 ∨ f.content.countP isLineEnd + 1 < m.toNat) := by
    intro hm
    rw [hf.lineRange?_eq_none hm] at hrange
    cases hrange
  obtain ⟨j, hm⟩ : ∃ j, m.toNat = j + 1 := by
    refine Nat.exists_eq_succ_of_ne_zero fun hzero => hnumber (.inl ?_)
    exact UInt32.toNat_inj.mp hzero
  obtain ⟨_, _, hrange', hat⟩ := hf.lineRange?_eq_some hm (by omega)
  rw [hrange, Option.some.injEq, Prod.mk.injEq] at hrange'
  obtain ⟨rfl, rfl⟩ := hrange'
  have hwithin := hat.within
  have hle := hat.le
  rw [slice, line, hrange, checkOffset_eq_ok_iff.mpr (Nat.le_trans hle hwithin),
    checkOffset_eq_ok_iff.mpr hwithin]
  exact if_pos (UInt32.le_iff_toNat_le.mpr hle)

theorem Indexed.line_locate (hoff : off.toNat ≤ f.content.length) :
    ∃ c, (f.locate off).col.toNat = c + 1 ∧
      (c < (f.line (f.locate off).line).length ∧
          (f.line (f.locate off).line)[c]? = f.content[off.toNat]? ∨
        c = (f.line (f.locate off).line).length) ∧
      (c = (f.line (f.locate off).line).length ↔
        EndsLine f.content off.toNat ∨ off.toNat = f.content.length) := by
  obtain ⟨hline, start, hstart, hcol⟩ := hf.locate_eq hoff
  have hbefore := endsBefore_le_countP f.content off.toNat
  have hnumber : (f.locate off).line = (endsBefore f.content off.toNat + 1).toUInt32 := by
    rw [← UInt32.toNat_inj, f.toNat_number hbefore]
    omega
  obtain ⟨start', stop, hat, hcut⟩ := hf.line_eq_cut hbefore
  obtain ⟨hstop, hstart'⟩ := hat.holds hoff rfl
  obtain rfl := hstart.unique hstart'
  have hlength := length_cut hat.le hat.within
  have hle := hstart.le
  have hwithin := hat.within
  rw [hnumber, hcut, hlength]
  refine ⟨off.toNat - start, by omega, ?_, ?_⟩
  · by_cases hlt : off.toNat < stop
    · have hplace : start + (off.toNat - start) = off.toNat := by omega
      refine .inl ⟨by omega, ?_⟩
      rw [getElem?_cut (by omega), hplace]
    · exact .inr (by omega)
  · rw [← hat.eq_stop_iff hle hstop]
    omega

end Indexed

/-- A content with `k` line ends has `k + 1` lines: they hold no line end, and with the line ends
between them they are the content. No other number has a line, and what is cut out for a line lies
in order inside the content. The line of an offset is the one of its position; the octet at the
column is that of the offset, and the column is behind the line just when the offset is that of a
line end or of the end of the content. -/
theorem lines_partition (id : FileId) (path content : Bytes) (flags : FileFlags)
    (fits : FitsOffsets content) :
    let f := File.make id path content flags fits
    let k := content.countP isLineEnd
    let lines := (List.range (k + 1)).map fun i => f.line (i + 1).toUInt32
    (∀ l ∈ lines, 10 ∉ l ∧ 13 ∉ l) ∧ joinLines lines (content.filter isLineEnd) = content ∧
      (∀ m : UInt32, m = 0 ∨ k + 1 < m.toNat → f.line m = []) ∧
      (∀ m first last, f.lineRange? m = some (first, last) →
        f.slice ⟨id, first, last⟩ = .ok (f.line m)) ∧
      ∀ off : UInt32, off.toNat ≤ content.length → ∃ p c l, f.positionOf off = .ok p ∧
        p.col.toNat = c + 1 ∧ f.lineContaining off = .ok l ∧ l = f.line p.line ∧
        (c < l.length ∧ l[c]? = content[off.toNat]? ∨ c = l.length) ∧
        (c = l.length ↔ EndsLine content off.toNat ∨ off.toNat = content.length) := by
  intro f k lines
  have hf : f.Indexed := make_indexed id path content flags fits
  have hlines : lines = content.splitOnP isLineEnd := hf.lines_eq
  refine ⟨?_, ?_, ?_, fun m first last => hf.slice_line, ?_⟩
  · intro l hl
    obtain ⟨i, hi, rfl⟩ := List.mem_map.mp hl
    have hle : i ≤ k := Nat.le_of_lt_succ (List.mem_range.mp hi)
    obtain ⟨start, stop, hat, hcut⟩ := hf.line_eq_cut hle
    have hfree := isLineEnd_of_mem_cut hat.free
    rw [hcut]
    constructor
    · intro hfeed
      cases hfree 10 hfeed
    · intro hreturn
      cases hfree 13 hreturn
  · rw [hlines]
    exact List.splitOnP_spec content
  · intro m hm
    rw [line, hf.lineRange?_eq_none hm]
  · intro off hoff
    obtain ⟨c, hcol, hoctet, hend⟩ := hf.line_locate hoff
    refine ⟨_, c, _, positionOf_eq_ok_iff.mpr ⟨hoff, rfl⟩, hcol, ?_, rfl, hoctet, hend⟩
    rw [lineContaining, checkOffset_eq_ok_iff.mpr hoff]
    rfl

/-- Three line ends, two of them at the front and one at the end, make four lines. -/
theorem lines_partition_trailing :
    let content : Bytes := [13, 10, 97, 10]
    let f := File.make 0 "a.kj" content 0 (by decide)
    FitsOffsets content ∧
      joinLines [f.line 1, f.line 2, f.line 3, f.line 4] [13, 10, 10] = content ∧
      f.line 5 = [] ∧ f.line 4294967295 = [] ∧
      ∃ p c l, f.positionOf 4 = .ok p ∧ p.col.toNat = c + 1 ∧ f.lineContaining 4 = .ok l ∧
        l = f.line p.line ∧ c = l.length := by
  intro content f
  obtain ⟨-, hjoin, hnone, -, hoff⟩ := lines_partition 0 "a.kj" content 0 (by decide)
  obtain ⟨p, c, l, hp, hc, hl, hline, -, hend⟩ := hoff 4 (by decide)
  exact ⟨by decide, hjoin, hnone 5 (.inr (by decide)), hnone 4294967295 (.inr (by decide)),
    p, c, l, hp, hc, hl, hline, hend.mpr (.inr rfl)⟩

end File

end FrontEnd
