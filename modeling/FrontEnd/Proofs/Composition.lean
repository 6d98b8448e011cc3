import FrontEnd.Proofs.Pliant

/-!
What composition leaves alone. A text and its composed form differ only in stretches of pliant
characters, and no stretch comes or goes. So controls that stand side by side stay so, no others
come to stand side by side, and a byte-order mark at the front stays there or does not appear.
-/
namespace FrontEnd.Unicode

/-- A part that encodes a pliant character. -/
def Part.Pliant (p : Part) : Prop :=
  ∃ c, p.char = some c ∧ p.octets = Utf8.encode c ∧ Unicode.Pliant c.toNat

/-- A part that no part behind it passes or joins. -/
structure Part.Stiff (p : Part) : Prop where
  level : p.level = 0
  char : ∀ c, p.char = some c → ¬Unicode.Pliant c.toNat

/-- A piece that is a pliant character. -/
def PliantPiece (p : Utf8.Piece) : Prop := ∃ c, p.char = some c ∧ Pliant c.toNat

section Segments

variable {fs ws ps : List Part} {p : Part} {piece : Utf8.Piece} {run : Nat}

theorem partsOf_pliant (h : PliantPiece piece) :
    partsOf piece ≠ [] ∧ ∀ q ∈ partsOf piece, q.Pliant := by
  obtain ⟨c, hc, hpliant⟩ := h
  obtain ⟨hne, hparts⟩ := decompose_pliant hpliant
  unfold partsOf
  rw [hc]
  dsimp only
  split
  all_goals
    refine ⟨by simpa using hne, ?_⟩
    intro q hq
    obtain ⟨d, hd, rfl⟩ := List.mem_map.mp hq
    exact ⟨d, rfl, rfl, hparts d hd⟩

theorem partsOf_stiff (hread : piece.Read) (h : ¬PliantPiece piece) :
    ∃ q, partsOf piece = [q] ∧ q.Stiff ∧ q.octets = piece.octets := by
  unfold partsOf
  cases hc : piece.char with
  | none => exact ⟨_, rfl, ⟨rfl, nofun⟩, rfl⟩
  | some c =>
    have hstiff : ¬Pliant c.toNat := fun hp => h ⟨c, hc, hp⟩
    have hhangul : isHangul c.toNat = false := by
      rw [← Bool.not_eq_true, isHangul_iff]
      intro hn
      exact hstiff (pliant_hangul (by omega)).1
    dsimp only
    rw [decompose_of_not_pliant hstiff, hhangul]
    refine ⟨.ofChar c, rfl, ⟨combiningClass_of_not_pliant hstiff, ?_⟩, (hread c hc).symm⟩
    rintro _ ⟨⟩
    exact hstiff

theorem insertPart_framed (hfs : ∀ f ∈ fs, f.Stiff) (hws : ∀ w ∈ ws, w.Pliant) (hp : p.Pliant) :
    ∃ ws', insertPart p (ws ++ fs) = ws' ++ fs ∧ ws' ≠ [] ∧ ∀ w ∈ ws', w.Pliant := by
  induction ws with
  | nil =>
    refine ⟨[p], ?_, by simp, by simpa using hp⟩
    cases fs with
    | nil => rfl
    | cons f fs =>
      have hlevel : f.level = 0 := (hfs f List.mem_cons_self).level
      simp [insertPart, hlevel]
  | cons w ws ih =>
    obtain ⟨hw, hws'⟩ := List.forall_mem_cons.mp hws
    rw [List.cons_append, insertPart]
    split
    · obtain ⟨vs, heq, -, hvs⟩ := ih hws'
      exact ⟨w :: vs, by rw [heq]; rfl, by simp, List.forall_mem_cons.mpr ⟨hw, hvs⟩⟩
    · exact ⟨p :: w :: ws, rfl, by simp, List.forall_mem_cons.mpr ⟨hp, hws⟩⟩

theorem insertParts_framed (hfs : ∀ f ∈ fs, f.Stiff) (hws : ∀ w ∈ ws, w.Pliant)
    (hps : ∀ p ∈ ps, p.Pliant) :
    ∃ ws', ps.foldl (fun s p => insertPart p s) (ws ++ fs) = ws' ++ fs ∧
      (ws' = [] ↔ ws = [] ∧ ps = []) ∧ ∀ w ∈ ws', w.Pliant := by
  induction ps generalizing ws with
  | nil => exact ⟨ws, rfl, by simp, hws⟩
  | cons p ps ih =>
    obtain ⟨hp, hps'⟩ := List.forall_mem_cons.mp hps
    obtain ⟨vs, heq, hne, hvs⟩ := insertPart_framed hfs hws hp
    obtain ⟨ws', heq', hiff, hws'⟩ := ih hvs hps'
    refine ⟨ws', ?_, by simp [hiff, hne], hws'⟩
    rw [List.foldl_cons, heq, heq']

theorem insertPiece_framed (hfs : ∀ f ∈ fs, f.Stiff) (hws : ∀ w ∈ ws, w.Pliant)
    (hpiece : PliantPiece piece) :
    ∃ ws', insertPiece (ws ++ fs) piece = ws' ++ fs ∧ ws' ≠ [] ∧ ∀ w ∈ ws', w.Pliant := by
  obtain ⟨hne, hparts⟩ := partsOf_pliant hpiece
  obtain ⟨ws', heq, hiff, hws'⟩ := insertParts_framed hfs hws hparts
  exact ⟨ws', heq, fun h => hne (hiff.mp h).2, hws'⟩

theorem traitsOf_stiff (h : ¬PliantPiece piece) :
    (traitsOf piece).before = 0 ∧ (traitsOf piece).behind = 0 := by
  unfold traitsOf
  cases hc : piece.char with
  | none => exact ⟨rfl, rfl⟩
  | some c => exact traits_of_not_pliant fun hpliant => h ⟨c, hc, hpliant⟩

theorem traitsOf_before_le (piece : Utf8.Piece) : (traitsOf piece).before ≤ 16 := by
  unfold traitsOf
  cases piece.char with
  | none => exact Nat.zero_le _
  | some c => exact traits_before_le c

/-- Only pliant pieces are gathered. A joiner breaks no segment that has none of them yet, because
no piece counts for as many marks as are allowed. -/
theorem gather_framed (pieces : List Utf8.Piece) (hfs : ∀ f ∈ fs, f.Stiff)
    (hws : ∀ w ∈ ws, w.Pliant) (hrun : ws = [] → run = 0) :
    ∃ ws' taken, (gather run (ws ++ fs) pieces).1 = ws' ++ fs ∧
      pieces = taken ++ (gather run (ws ++ fs) pieces).2.1 ∧ (∀ q ∈ taken, PliantPiece q) ∧
      (∀ w ∈ ws', w.Pliant) ∧ (ws' = [] ↔ ws = [] ∧ taken = []) := by
  induction pieces generalizing run ws with
  | nil => exact ⟨ws, [], rfl, rfl, nofun, hws, by simp⟩
  | cons piece pieces ih =>
    rw [gather]
    split
    · rename_i hlong
      have hjoiner : graphemeJoiner.Pliant := ⟨Char.ofNat 0x34F, rfl, rfl, by decide⟩
      refine ⟨graphemeJoiner :: ws, [], rfl, rfl, nofun,
        List.forall_mem_cons.mpr ⟨hjoiner, hws⟩, ?_⟩
      have hne : ws ≠ [] := by
        intro hnil
        have hfew := traitsOf_before_le piece
        rw [hrun hnil, longestMarkRun] at hlong
        omega
      simp [hne]
    · split
      · exact ⟨ws, [], rfl, rfl, nofun, hws, by simp⟩
      · rename_i hbefore
        have hpliant : PliantPiece piece := by
          by_cases hp : PliantPiece piece
          · exact hp
          · exact absurd (traitsOf_stiff hp).1 hbefore
        obtain ⟨vs, heq, hne, hvs⟩ := insertPiece_framed hfs hws hpliant
        obtain ⟨ws', taken, hseg, hrest, htaken, hws', hiff⟩ := ih hvs fun h => absurd h hne
        rw [heq]
        refine ⟨ws', piece :: taken, hseg, congrArg (piece :: ·) hrest,
          List.forall_mem_cons.mpr ⟨hpliant, htaken⟩, hws', ?_⟩
        simp [hiff, hne]

end Segments

namespace Joining

variable {j : Joining} {fs ws ps : List Part} {p : Part} {rule : Char → Char → Option Char}

/-- All parts of a segment being joined, in their order. -/
def parts (j : Joining) : List Part := j.before.reverse ++ j.base :: j.behind.reverse

theorem parts_keep (j : Joining) (p : Part) : (j.keep p).parts = j.parts ++ [p] := by
  simp [parts, keep]

theorem parts_rebase (j : Joining) : j.rebase.parts = j.parts := by
  unfold rebase
  split
  · rfl
  · rename_i p ps hbehind
    split
    · simp [parts, hbehind]
    · rfl

/-- Rules that join only pliant characters, and to pliant ones. -/
def Sound (rule : Char → Char → Option Char) : Prop :=
  ∀ {a b c}, rule a b = some c → Pliant a.toNat ∧ Pliant c.toNat

/-- A part is kept behind the others, or it disappears in a pliant base, which stays pliant. -/
theorem parts_join (hrule : Sound rule) (j : Joining) (p : Part) :
    (j.join rule p).parts = j.parts ++ [p] ∨
      ∃ base : Part, ¬j.base.Stiff ∧ base.Pliant ∧
        (j.join rule p).parts = j.before.reverse ++ base :: j.behind.reverse := by
  unfold join
  dsimp only
  split
  · rename_i c hjoined
    right
    split at hjoined
    · cases hjoined
    split at hjoined
    · rename_i a b ha hb
      obtain ⟨hbase, hmade⟩ := hrule hjoined
      exact ⟨.plain c, fun hstiff => hstiff.char a ha hbase, ⟨c, rfl, rfl, hmade⟩, rfl⟩
    · cases hjoined
  · exact .inl (parts_keep j p)

/-- The stiff parts at the front stay there, and all others stay pliant. -/
def Frames (fs : List Part) (j : Joining) (ws : List Part) : Prop :=
  j.parts = fs ++ ws ∧ ∀ w ∈ ws, w.Pliant

theorem Frames.keep (h : Frames fs j ws) (hp : p.Pliant) : Frames fs (j.keep p) (ws ++ [p]) := by
  refine ⟨by rw [parts_keep, h.1, List.append_assoc], ?_⟩
  exact List.forall_mem_append.mpr ⟨h.2, by simpa using hp⟩

theorem Frames.join (hrule : Sound rule) (hfs : ∀ f ∈ fs, f.Stiff) (h : Frames fs j ws)
    (hp : p.Pliant) : ∃ ws', ws' ≠ [] ∧ Frames fs (j.join rule p) ws' := by
  rcases parts_join hrule j p with hkept | ⟨base, hfree, hbase, hjoined⟩
  · refine ⟨ws ++ [p], by simp, ?_⟩
    have := h.keep hp
    rw [Frames, parts_keep] at this
    rw [Frames, hkept]
    exact this
  · -- a base that is replaced is none of the stiff parts at the front
    obtain ⟨hparts, hws⟩ := h
    rw [parts] at hparts
    rcases List.append_eq_append_iff.mp hparts with ⟨as, hfront, hrest⟩ | ⟨bs, hbefore, hrest⟩
    · cases as with
      | nil =>
        rw [List.nil_append] at hrest
        rw [List.append_nil] at hfront
        refine ⟨base :: j.behind.reverse, by simp, by rw [hjoined, hfront], ?_⟩
        rw [← hrest] at hws
        exact List.forall_mem_cons.mpr ⟨hbase, (List.forall_mem_cons.mp hws).2⟩
      | cons a as =>
        rw [List.cons_append] at hrest
        obtain ⟨rfl, -⟩ := List.cons.inj hrest
        exact absurd (hfs _ (hfront ▸ by simp)) hfree
    · rw [hrest] at hws
      obtain ⟨hbs, hbehind⟩ := List.forall_mem_append.mp hws
      refine ⟨bs ++ base :: j.behind.reverse, by simp, ?_, List.forall_mem_append.mpr
        ⟨hbs, List.forall_mem_cons.mpr ⟨hbase, (List.forall_mem_cons.mp hbehind).2⟩⟩⟩
      rw [hjoined, hbefore, List.append_assoc]

theorem Frames.rebase (h : Frames fs j ws) : Frames fs j.rebase ws := by
  rw [Frames, parts_rebase]
  exact h

theorem Frames.push (hfs : ∀ f ∈ fs, f.Stiff) (h : Frames fs j ws) (hp : p.Pliant) :
    ∃ ws', ws' ≠ [] ∧ Frames fs (j.push p) ws' := by
  unfold Joining.push
  split
  · exact h.rebase.join composite?_pliant hfs hp
  · exact ⟨ws ++ [p], by simp, h.keep hp⟩

theorem Frames.syllables (hfs : ∀ f ∈ fs, f.Stiff) (h : Frames fs j ws) (hps : ∀ p ∈ ps, p.Pliant) :
    ∃ ws', (ws' = [] ↔ ws = [] ∧ ps = []) ∧
      Frames fs (ps.foldl (fun j p => j.rebase.join syllable? p) j) ws' := by
  induction ps generalizing j ws with
  | nil => exact ⟨ws, by simp, h⟩
  | cons p ps ih =>
    obtain ⟨hp, hps'⟩ := List.forall_mem_cons.mp hps
    obtain ⟨vs, hne, hvs⟩ := h.rebase.join syllable?_pliant hfs hp
    obtain ⟨ws', hiff, hws'⟩ := ih hvs hps'
    exact ⟨ws', by simp [hiff, hne], hws'⟩

theorem Frames.pushAll (hfs : ∀ f ∈ fs, f.Stiff) (h : Frames fs j ws) (hps : ∀ p ∈ ps, p.Pliant) :
    ∃ ws', (ws' = [] ↔ ws = [] ∧ ps = []) ∧ Frames fs (j.pushAll ps) ws' := by
  induction ps generalizing j ws with
  | nil => exact ⟨ws, by simp, h⟩
  | cons p ps ih =>
    rw [Joining.pushAll]
    split
    · exact h.syllables hfs hps
    · obtain ⟨hp, hps'⟩ := List.forall_mem_cons.mp hps
      obtain ⟨vs, hne, hvs⟩ := h.push hfs hp
      obtain ⟨ws', hiff, hws'⟩ := ih hvs hps'
      exact ⟨ws', by simp [hiff, hne], hws'⟩

theorem Frames.octets (h : Frames fs j ws) :
    j.octets = fs.flatMap Part.octets ++ ws.flatMap Part.octets := by
  rw [← List.flatMap_append, ← h.1]
  rfl

end Joining

/-- Joining the parts of a segment leaves a stiff part at its front alone. -/
theorem joinSegment_framed {fs ws : List Part} (hfs : ∀ f ∈ fs, f.Stiff) (hfew : fs.length ≤ 1)
    (hws : ∀ w ∈ ws, w.Pliant) :
    ∃ vs, joinSegment (ws ++ fs) = fs.flatMap Part.octets ++ vs.flatMap Part.octets ∧
      (∀ v ∈ vs, v.Pliant) ∧ (vs = [] ↔ ws = []) := by
  have hrev : ∀ w ∈ ws.reverse, w.Pliant := fun w hw => hws w (List.mem_reverse.mp hw)
  rw [joinSegment, List.reverse_append]
  match fs, hfew with
  | [], _ =>
    cases h : ws.reverse with
    | nil => exact ⟨[], rfl, nofun, by simpa using h⟩
    | cons q qs =>
      rw [h] at hrev
      obtain ⟨hq, hqs⟩ := List.forall_mem_cons.mp hrev
      have hstart : Joining.Frames [] ⟨[], q, []⟩ [q] := ⟨rfl, by simpa using hq⟩
      obtain ⟨vs, hiff, hvs⟩ := hstart.pushAll hfs hqs
      have hne : ws ≠ [] := by
        rintro rfl
        cases h
      exact ⟨vs, hvs.octets, hvs.2, by simp [hiff, hne]⟩
  | [f], _ =>
    have hstart : Joining.Frames [f] ⟨[], f, []⟩ [] := ⟨rfl, nofun⟩
    obtain ⟨vs, hiff, hvs⟩ := hstart.pushAll hfs hrev
    exact ⟨vs, hvs.octets, hvs.2, by simp [hiff]⟩

/-- A text of pliant characters. -/
def PliantText (s : Bytes) : Prop :=
  ∃ cs : List Char, s = cs.flatMap Utf8.encode ∧ ∀ c ∈ cs, Pliant c.toNat

theorem PliantText.append {u v : Bytes} (hu : PliantText u) (hv : PliantText v) :
    PliantText (u ++ v) := by
  obtain ⟨cs, rfl, hcs⟩ := hu
  obtain ⟨ds, rfl, hds⟩ := hv
  exact ⟨cs ++ ds, by rw [List.flatMap_append], List.forall_mem_append.mpr ⟨hcs, hds⟩⟩

/-- Two texts that differ only in stretches of pliant characters, each of which has one where the
other has one. -/
inductive Recomposed : Bytes → Bytes → Prop
  | nil : Recomposed [] []
  | octet {s t : Bytes} (b : UInt8) (h : Recomposed s t) : Recomposed (b :: s) (b :: t)
  | stretch {u v s t : Bytes} (hu : PliantText u) (hv : PliantText v) (hne : u ≠ [] ∧ v ≠ [])
      (h : Recomposed s t) : Recomposed (u ++ s) (v ++ t)

namespace Recomposed

variable {s t s' t' : Bytes} {a b : UInt8}

theorem refl (s : Bytes) : Recomposed s s := by
  induction s with
  | nil => exact .nil
  | cons b s ih => exact .octet b ih

theorem symm (h : Recomposed s t) : Recomposed t s := by
  induction h with
  | nil => exact .nil
  | octet b _ ih => exact .octet b ih
  | stretch hu hv hne _ ih => exact .stretch hv hu hne.symm ih

theorem append (h : Recomposed s t) (h' : Recomposed s' t') : Recomposed (s ++ s') (t ++ t') := by
  induction h with
  | nil => exact h'
  | octet b _ ih => exact .octet b ih
  | stretch hu hv hne _ ih =>
    rw [List.append_assoc, List.append_assoc]
    exact .stretch hu hv hne ih

theorem behind (r : Bytes) (h : Recomposed s t) : Recomposed (r ++ s) (r ++ t) := (refl r).append h

end Recomposed

theorem pliantText_flatMap {β : Type} {f : β → Bytes} {xs : List β}
    (h : ∀ x ∈ xs, ∃ c, f x = Utf8.encode c ∧ Pliant c.toNat) :
    PliantText (xs.flatMap f) ∧ (xs.flatMap f = [] ↔ xs = []) := by
  induction xs with
  | nil => exact ⟨⟨[], rfl, nofun⟩, by simp⟩
  | cons x xs ih =>
    obtain ⟨⟨c, hc, hpliant⟩, hxs⟩ := List.forall_mem_cons.mp h
    obtain ⟨⟨cs, hcs, hall⟩, -⟩ := ih hxs
    refine ⟨⟨c :: cs, ?_, List.forall_mem_cons.mpr ⟨hpliant, hall⟩⟩, ?_⟩
    · rw [List.flatMap_cons, List.flatMap_cons, hc, hcs]
    · simp [hc, (Utf8.sequence_encode c).length_le.1]

theorem Recomposed.of_pliant {u v : Bytes} (hu : PliantText u) (hv : PliantText v)
    (hnil : v = [] ↔ u = []) : Recomposed u v := by
  by_cases hne : u = []
  · rw [hne, hnil.mpr hne]
    exact .nil
  · have := Recomposed.stretch hu hv ⟨hne, mt hnil.mp hne⟩ .nil
    rwa [List.append_nil, List.append_nil] at this

section Pieces

open Utf8 (Piece)

variable {p : Piece} {ps : List Piece}

/-- The first piece of a segment is one stiff part, or its parts are pliant. -/
theorem insertPiece_first (run : Nat) (hread : p.Read) :
    ∃ fs ws u, insertPiece [] p = ws ++ fs ∧ fs.length ≤ 1 ∧ (∀ f ∈ fs, f.Stiff) ∧
      (∀ w ∈ ws, w.Pliant) ∧ (ws = [] → firstRun run (traitsOf p) = 0) ∧
      p.octets = fs.flatMap Part.octets ++ u ∧ PliantText u ∧ (u = [] ↔ ws = []) := by
  by_cases hpliant : PliantPiece p
  · obtain ⟨ws, hinsert, hne, hws⟩ := @insertPiece_framed [] [] p nofun nofun hpliant
    obtain ⟨c, hc, hpoint⟩ := hpliant
    have hoctets : p.octets = Utf8.encode c := hread c hc
    have hnil : p.octets ≠ [] := by
      rw [hoctets]
      exact (Utf8.sequence_encode c).length_le.1
    refine ⟨[], ws, p.octets, hinsert, Nat.zero_le _, nofun, hws, fun h => absurd h hne, rfl,
      ⟨[c], by simp [hoctets], by simpa using hpoint⟩, by simp [hnil, hne]⟩
  · obtain ⟨f, hparts, hstiff, hoctets⟩ := partsOf_stiff hread hpliant
    refine ⟨[f], [], [], ?_, Nat.le_refl _, by simpa using hstiff, nofun, fun _ => ?_,
      by simp [hoctets], ⟨[], rfl, nofun⟩, by simp⟩
    · rw [insertPiece, hparts]
      rfl
    · rw [firstRun, if_pos (traitsOf_stiff hpliant).1]
      exact (traitsOf_stiff hpliant).2

/-- A segment is recomposed in itself. -/
theorem joinSegment_recomposed (run : Nat) (hread : ∀ q ∈ p :: ps, q.Read) :
    ∃ taken, ps = taken ++ (gather (firstRun run (traitsOf p)) (insertPiece [] p) ps).2.1 ∧
      Recomposed ((p :: taken).flatMap Piece.octets)
        (joinSegment (gather (firstRun run (traitsOf p)) (insertPiece [] p) ps).1) := by
  obtain ⟨hp, hps⟩ := List.forall_mem_cons.mp hread
  obtain ⟨fs, ws, u, hinsert, hfew, hfs, hws, hrun, hoctets, hu, hnil⟩ := insertPiece_first run hp
  obtain ⟨ws', taken, hseg, hrest, htaken, hws', hiff⟩ := gather_framed ps hfs hws hrun
  obtain ⟨vs, hjoin, hvs, hnil'⟩ := joinSegment_framed hfs hfew hws'
  have hread' : ∀ q ∈ taken, q.Read := fun q hq => hps q (by rw [hrest]; simp [hq])
  obtain ⟨htext, htextNil⟩ := pliantText_flatMap (f := Piece.octets) fun q hq =>
    (htaken q hq).imp fun c hc => ⟨hread' q hq c hc.1, hc.2⟩
  obtain ⟨hmade, hmadeNil⟩ := pliantText_flatMap (f := Part.octets) fun v hv =>
    (hvs v hv).imp fun c hc => hc.2
  refine ⟨taken, by rw [hinsert, ← hrest], ?_⟩
  rw [hinsert, hseg, hjoin, List.flatMap_cons, hoctets, List.append_assoc]
  refine .behind _ (.of_pliant (hu.append htext) hmade ?_)
  simp [hmadeNil, hnil', hiff, hnil, htextNil]

theorem passSettled_append (done segment : List Piece) (level run : Nat) (ps : List Piece) :
    (passSettled done segment level run ps).1 ++ (passSettled done segment level run ps).2 =
      done.reverse ++ segment.reverse ++ ps := by
  induction ps generalizing done segment level run with
  | nil => simp [passSettled]
  | cons p ps ih =>
    rw [passSettled]
    split
    · simp [backTo]
    · split
      · split
        · rw [ih]
          simp
        · simp
      · split
        · simp [backTo]
        · rw [ih]
          simp

theorem composePieces_recomposed (acc : List Bytes) (run : Nat) (ps : List Piece)
    (hread : ∀ q ∈ ps, q.Read) :
    ∃ t, (composePieces acc run ps).flatten = acc.reverse.flatten ++ t ∧
      Recomposed (ps.flatMap Piece.octets) t := by
  fun_induction composePieces acc run ps with
  | case1 acc run => exact ⟨[], by simp, .nil⟩
  | case2 acc run p ps gathered passed ih =>
    obtain ⟨taken, hps, hjoined⟩ := joinSegment_recomposed run hread
    have hpassed : passed.1 ++ passed.2 = gathered.2.1 := passSettled_append [] [] 0 0 gathered.2.1
    obtain ⟨t, ht, hrest⟩ := ih (by
      intro q hq
      refine hread q (List.mem_cons_of_mem _ ?_)
      rw [hps, ← hpassed]
      simp [hq])
    refine ⟨joinSegment gathered.1 ++ (passed.1.flatMap Piece.octets ++ t), ?_, ?_⟩
    · rw [ht]
      simp
    · have hcons : (p :: ps).flatMap Piece.octets = (p :: taken).flatMap Piece.octets ++
          (passed.1.flatMap Piece.octets ++ passed.2.flatMap Piece.octets) := by
        rw [← List.flatMap_append, ← List.flatMap_append, hpassed, List.cons_append, ← hps]
      rw [hcons]
      exact hjoined.append (hrest.behind _)

end Pieces

/-- A text is recomposed in place: between the stretches of pliant characters nothing changes. -/
theorem compose_recomposed (s : Bytes) : Recomposed s (compose s) := by
  unfold compose
  split
  · exact .refl s
  · obtain ⟨ps, hps, hoctets, hread⟩ := Utf8.piecesOnto_eq [] s
    have hpassed : (passSettled [] [] 0 0 ps).1 ++ (passSettled [] [] 0 0 ps).2 = ps :=
      passSettled_append [] [] 0 0 ps
    obtain ⟨t, ht, hrest⟩ := composePieces_recomposed
      [(passSettled [] [] 0 0 ps).1.flatMap Utf8.Piece.octets] 0 (passSettled [] [] 0 0 ps).2
      (fun q hq => hread q (by rw [← hpassed]; simp [hq]))
    have hcomposed := (hrest.behind ((passSettled [] [] 0 0 ps).1.flatMap Utf8.Piece.octets)).append
      (.refl (Utf8.piecesOnto [] s).2)
    rw [← List.flatMap_append, hpassed, ← hoctets] at hcomposed
    dsimp only [Utf8.pieces]
    rw [hps, List.reverse_nil, List.nil_append, ht]
    simpa using hcomposed

theorem PliantText.head_eq {u : Bytes} (hu : PliantText u) (hne : u ≠ []) :
    ∃ c r, u = Utf8.encode c ++ r ∧ Pliant c.toNat := by
  obtain ⟨cs, rfl, hcs⟩ := hu
  cases cs with
  | nil => exact absurd rfl hne
  | cons c cs => exact ⟨c, _, List.flatMap_cons, (List.forall_mem_cons.mp hcs).1⟩

theorem PliantText.not_control {u : Bytes} (hu : PliantText u) {b : UInt8} (hb : b ∈ u) :
    0x20 ≤ b := by
  obtain ⟨cs, rfl, hcs⟩ := hu
  obtain ⟨c, hc, hbc⟩ := List.mem_flatMap.mp hb
  exact (Utf8.sequence_encode c).not_control (hcs c hc).1 b hbc

namespace Recomposed

variable {s t : Bytes} {a b : UInt8}

/-- A control or an octet inside a character starts no stretch. -/
theorem uncons (h : Recomposed (b :: s) t) (hb : b < 0x20 ∨ Utf8.isContinuation b = true) :
    ∃ t', t = b :: t' ∧ Recomposed s t' := by
  generalize hs : b :: s = r at h
  cases h with
  | nil => cases hs
  | octet c h =>
    cases hs
    exact ⟨_, rfl, h⟩
  | stretch hu hv hne h =>
    obtain ⟨c, r, rfl, hc⟩ := hu.head_eq hne.1
    obtain ⟨x, r', hx, hlead⟩ := (Utf8.sequence_encode c).lead_not_continuation
    rw [hx] at hs
    obtain rfl := (List.cons.inj hs).1
    rcases hb with hb | hb
    · have hge := hu.not_control (b := b) (by simp [hx])
      exact absurd hb (UInt8.not_lt.mpr hge)
    · rw [hlead] at hb
      cases hb

/-- In a text of controls there is nothing to compose. -/
theorem eq_of_controls (h : Recomposed s t) (hs : ∀ b ∈ s, b < 0x20) : t = s := by
  induction h with
  | nil => rfl
  | octet b _ ih => rw [ih (List.forall_mem_cons.mp hs).2]
  | stretch hu _ hne _ _ =>
    obtain ⟨b, hb⟩ := List.exists_mem_of_ne_nil _ hne.1
    exact absurd (hs b (List.mem_append_left _ hb)) (UInt8.not_lt.mpr (hu.not_control hb))

theorem pair_of_append {u : Bytes} (hu : a ∉ u) (h : [a, b] <:+: u ++ s) : [a, b] <:+: s := by
  induction u with
  | nil => exact h
  | cons x u ih =>
    rw [List.mem_cons, not_or] at hu
    rw [List.cons_append, List.infix_cons_iff] at h
    rcases h with h | h
    · exact absurd (List.cons_prefix_cons.mp h).1 hu.1
    · exact ih hu.2 h

theorem pair_of_pair (h : Recomposed s t) (ha : a < 0x20) (hb : b < 0x20)
    (hs : [a, b] <:+: s) : [a, b] <:+: t := by
  induction h with
  | nil => exact hs
  | @octet s t c h ih =>
    rw [List.infix_cons_iff] at hs ⊢
    rcases hs with hs | hs
    · obtain ⟨rfl, r, rfl⟩ := List.cons_prefix_cons.mp hs
      obtain ⟨r', rfl, -⟩ := h.uncons (.inl hb)
      exact .inl (List.prefix_append [a, b] r')
    · exact .inr (ih hs)
  | @stretch u v s t hu hv hne h ih =>
    have hout : a ∉ u := fun hin => absurd ha (UInt8.not_lt.mpr (hu.not_control hin))
    exact (ih (pair_of_append hout hs)).trans (List.suffix_append v t).isInfix

/-- Two controls stand side by side in both texts or in none. -/
theorem pair_iff (h : Recomposed s t) (ha : a < 0x20) (hb : b < 0x20) :
    [a, b] <:+: s ↔ [a, b] <:+: t :=
  ⟨h.pair_of_pair ha hb, h.symm.pair_of_pair ha hb⟩

theorem mark_of_mark (h : Recomposed s t) (hs : [0xEF, 0xBB, 0xBF] <+: s) :
    [0xEF, 0xBB, 0xBF] <+: t := by
  obtain ⟨r, rfl⟩ := hs
  generalize hsr : [0xEF, 0xBB, 0xBF] ++ r = s at h
  cases h with
  | nil => cases hsr
  | octet b h =>
    obtain ⟨rfl, rfl⟩ := List.cons.inj hsr
    obtain ⟨t₁, rfl, h₁⟩ := h.uncons (b := 0xBB) (.inr (by decide))
    obtain ⟨t₂, rfl, -⟩ := h₁.uncons (b := 0xBF) (.inr (by decide))
    exact List.prefix_append _ t₂
  | @stretch u v s t hu hv hne h =>
    obtain ⟨c, r', rfl, hc⟩ := hu.head_eq hne.1
    have hread := Utf8.decode?_encode_append c (r' ++ s)
    rw [← List.append_assoc, ← hsr] at hread
    obtain ⟨rfl, -⟩ := Prod.mk.inj (Option.some.inj hread)
    exact absurd rfl hc.2

/-- A byte-order mark is at the front of both texts or of none. -/
theorem mark_iff (h : Recomposed s t) : [0xEF, 0xBB, 0xBF] <+: s ↔ [0xEF, 0xBB, 0xBF] <+: t :=
  ⟨h.mark_of_mark, h.symm.mark_of_mark⟩

end Recomposed

end FrontEnd.Unicode
