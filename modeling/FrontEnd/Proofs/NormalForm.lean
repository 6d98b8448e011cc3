import FrontEnd.Proofs.Composition
import FrontEnd.Proofs.Loading
import FrontEnd.Proofs.Versions

/-!
How far the normal form goes. Each step towards it is made once, so what a step uncovers stays: of
two marks at the front one is left, and of two carriage returns before a line feed one is left
before the line feed. Nothing else is left of either kind, because composition does not touch them.
So a stored content loads as it is exactly when neither was there and it is composed.
-/
namespace FrontEnd

/-- The byte-order mark, encoded. -/
def byteOrderMark : Bytes := [0xEF, 0xBB, 0xBF]

section Marks

variable {s : Bytes}

theorem dropMark_append (r : Bytes) : dropMark (byteOrderMark ++ r) = (r, true) := rfl

theorem dropMark_unmarked (h : ¬byteOrderMark <+: s) : dropMark s = (s, false) := by
  unfold dropMark
  split
  · rename_i r
    exact absurd (List.prefix_append byteOrderMark r) h
  · rfl

theorem dropMark_snd (s : Bytes) : (dropMark s).2 = true ↔ byteOrderMark <+: s := by
  by_cases h : byteOrderMark <+: s
  · obtain ⟨r, rfl⟩ := h
    simp [dropMark_append]
  · simp [dropMark_unmarked h, h]

theorem mark_dropMark_iff (s : Bytes) :
    byteOrderMark <+: (dropMark s).1 ↔ byteOrderMark ++ byteOrderMark <+: s := by
  by_cases h : byteOrderMark <+: s
  · obtain ⟨r, rfl⟩ := h
    rw [dropMark_append, List.prefix_append_right_inj]
  · rw [dropMark_unmarked h]
    exact ⟨fun hs => absurd hs h, fun hs => absurd ((List.prefix_append _ _).trans hs) h⟩

end Marks

/-- Each carriage return and line feed of the one text is a line feed of the other. -/
inductive LineEndsJoined : Bytes → Bytes → Prop
  | nil : LineEndsJoined [] []
  | pair {s t : Bytes} (h : LineEndsJoined s t) : LineEndsJoined (13 :: 10 :: s) (10 :: t)
  | octet {b : UInt8} {s t : Bytes} (hb : ¬[13, 10] <+: b :: s) (h : LineEndsJoined s t) :
      LineEndsJoined (b :: s) (b :: t)

theorem joinLineEndsOnto_joined (acc s : Bytes) :
    ∃ t, joinLineEndsOnto acc s = acc.reverse ++ t ∧ LineEndsJoined s t := by
  fun_induction joinLineEndsOnto acc s with
  | case1 acc => exact ⟨[], by simp, .nil⟩
  | case2 acc r ih =>
    obtain ⟨t, ht, hjoined⟩ := ih
    exact ⟨10 :: t, by simp [ht], .pair hjoined⟩
  | case3 acc b r hb ih =>
    obtain ⟨t, ht, hjoined⟩ := ih
    refine ⟨b :: t, by simp [ht], .octet ?_ hjoined⟩
    intro hpair
    obtain ⟨rfl, r', rfl⟩ := List.cons_prefix_cons.mp hpair
    exact hb r' rfl rfl

theorem joinLineEnds_joined (s : Bytes) : LineEndsJoined s (joinLineEnds s).1 := by
  obtain ⟨t, ht, hjoined⟩ := joinLineEndsOnto_joined [] s
  rw [joinLineEnds, ht]
  exact hjoined

namespace LineEndsJoined

variable {s t : Bytes} {b : UInt8}

/-- A line feed comes first if one did, or a pair did. -/
theorem feed_iff (h : LineEndsJoined s t) : [10] <+: t ↔ [10] <+: s ∨ [13, 10] <+: s := by
  cases h with
  | nil => simp
  | pair h => simp
  | octet hb h => simp [List.cons_prefix_cons, hb]

/-- A pair is left where a carriage return stood before a pair. -/
theorem pair_iff (h : LineEndsJoined s t) : [13, 10] <:+: t ↔ [13, 13, 10] <:+: s := by
  induction h with
  | nil => simp
  | @pair s t h ih =>
    rw [List.infix_cons_iff, List.infix_cons_iff, List.infix_cons_iff, ih]
    simp [List.cons_prefix_cons]
  | @octet b s t hb h ih =>
    rw [List.infix_cons_iff, List.infix_cons_iff, ih, List.cons_prefix_cons, List.cons_prefix_cons,
      h.feed_iff]
    rw [List.cons_prefix_cons] at hb
    refine or_congr_left ?_
    constructor
    · rintro ⟨rfl, hfeed | hpair⟩
      · exact absurd ⟨rfl, hfeed⟩ hb
      · exact ⟨rfl, hpair⟩
    · rintro ⟨rfl, hpair⟩
      exact ⟨rfl, .inr hpair⟩

theorem length_le (h : LineEndsJoined s t) : t.length ≤ s.length := by
  induction h with
  | nil => exact Nat.le_refl _
  | pair h ih =>
    simp only [List.length_cons]
    omega
  | octet hb h ih =>
    simp only [List.length_cons]
    omega

/-- The text gets shorter exactly when there is a pair in it, and else stays. -/
theorem eq_or_shorter (h : LineEndsJoined s t) :
    (¬[13, 10] <:+: s ∧ t = s) ∨ [13, 10] <:+: s ∧ t.length < s.length := by
  induction h with
  | nil => exact .inl ⟨by simp, rfl⟩
  | @pair s t h ih =>
    have := h.length_le
    refine .inr ⟨(List.prefix_append [13, 10] s).isInfix, ?_⟩
    simp only [List.length_cons]
    omega
  | @octet b s t hb h ih =>
    rw [List.infix_cons_iff]
    rcases ih with ⟨hnone, rfl⟩ | ⟨hsome, hlt⟩
    · exact .inl ⟨not_or.mpr ⟨hb, hnone⟩, rfl⟩
    · exact .inr ⟨.inr hsome, Nat.succ_lt_succ hlt⟩

/-- What is no line end and stands at the front stays there. -/
theorem front_iff (h : LineEndsJoined s t) {u : Bytes} (hu : ∀ b ∈ u, b ≠ 10 ∧ b ≠ 13) :
    u <+: t ↔ u <+: s := by
  induction u generalizing s t with
  | nil => simp
  | cons x u ih =>
    obtain ⟨⟨hfeed, hreturn⟩, hu'⟩ := List.forall_mem_cons.mp hu
    cases h with
    | nil => simp
    | pair h => simp [List.cons_prefix_cons, hfeed, hreturn]
    | octet hb h => rw [List.cons_prefix_cons, List.cons_prefix_cons, ih h hu']

end LineEndsJoined

section Normalize

variable {s : Bytes}

theorem joinLineEnds_unpaired (h : ¬[13, 10] <:+: s) : joinLineEnds s = (s, false) := by
  obtain ⟨-, heq⟩ := (joinLineEnds_joined s).eq_or_shorter.resolve_right fun hpair => h hpair.1
  have hsnd : (joinLineEnds s).2 = ((joinLineEnds s).1.length != s.length) := rfl
  rw [heq, bne_self_eq_false] at hsnd
  exact Prod.ext heq hsnd

theorem joinLineEnds_snd (s : Bytes) : (joinLineEnds s).2 = true ↔ [13, 10] <:+: s := by
  by_cases h : [13, 10] <:+: s
  · obtain ⟨-, hlt⟩ := (joinLineEnds_joined s).eq_or_shorter.resolve_left fun hnone => hnone.1 h
    have hsnd : (joinLineEnds s).2 = ((joinLineEnds s).1.length != s.length) := rfl
    rw [hsnd, bne_iff_ne]
    exact ⟨fun _ => h, fun _ => Nat.ne_of_lt hlt⟩
  · simp [joinLineEnds_unpaired h, h]

theorem composeText_snd (s : Bytes) : (composeText s).2 = true ↔ Unicode.compose s ≠ s := by
  unfold composeText
  dsimp only
  split
  · rename_i h
    simp [h]
  · rename_i h
    simp [h]

theorem composeText_fst (s : Bytes) : (composeText s).1 = Unicode.compose s := by
  unfold composeText
  dsimp only
  split
  · rename_i h
    exact h.symm
  · rfl

theorem normalize_fst (s : Bytes) :
    (normalize s).1 = Unicode.compose (joinLineEnds (dropMark s).1).1 :=
  composeText_fst _

theorem pair_normalize_iff (raw : Bytes) :
    [13, 10] <:+: (normalize raw).1 ↔ [13, 13, 10] <:+: (dropMark raw).1 := by
  rw [normalize_fst, ← (joinLineEnds_joined _).pair_iff]
  exact ((Unicode.compose_recomposed _).pair_iff (by decide) (by decide)).symm

theorem mark_normalize_iff (raw : Bytes) :
    byteOrderMark <+: (normalize raw).1 ↔ byteOrderMark ++ byteOrderMark <+: raw := by
  have hplain : ∀ b ∈ byteOrderMark, b ≠ 10 ∧ b ≠ 13 := by simp [byteOrderMark]
  have hjoined := (joinLineEnds_joined (dropMark raw).1).front_iff hplain
  rw [normalize_fst, ← mark_dropMark_iff, ← hjoined]
  exact (Unicode.compose_recomposed _).mark_iff.symm

theorem flags_eq_zero_iff : ∀ mark ends comp : Bool,
    (if mark then FileFlags.hadMark else 0) ||| (if ends then FileFlags.normalizedLineEnds else 0)
      ||| (if comp then FileFlags.composed else 0) = 0 ↔
      mark = false ∧ ends = false ∧ comp = false := by
  decide

/-- A text is in normal form when there is nothing to do in any step. -/
theorem normalize_fixed_iff (s : Bytes) :
    normalize s = (s, 0) ↔
      ¬byteOrderMark <+: s ∧ ¬[13, 10] <:+: s ∧ Unicode.compose s = s := by
  have hflags : (normalize s).2 = 0 ↔ (dropMark s).2 = false ∧
      (joinLineEnds (dropMark s).1).2 = false ∧
      (composeText (joinLineEnds (dropMark s).1).1).2 = false := flags_eq_zero_iff _ _ _
  simp only [← Bool.not_eq_true, dropMark_snd, joinLineEnds_snd, composeText_snd] at hflags
  constructor
  · intro h
    obtain ⟨hmark, hpair, hcomp⟩ := hflags.mp (congrArg Prod.snd h)
    rw [dropMark_unmarked hmark] at hpair hcomp
    rw [joinLineEnds_unpaired hpair] at hcomp
    exact ⟨hmark, hpair, Decidable.not_not.mp hcomp⟩
  · rintro ⟨hmark, hpair, hcomp⟩
    rw [dropMark_unmarked hmark, joinLineEnds_unpaired hpair] at hflags
    refine Prod.ext ?_ (hflags.mpr ⟨hmark, hpair, Decidable.not_not.mpr hcomp⟩)
    rw [normalize_fst, dropMark_unmarked hmark, joinLineEnds_unpaired hpair]
    exact hcomp

theorem normalize_controls (hs : ∀ b ∈ s, b < 0x20) (hreturn : 13 ∉ s) : normalize s = (s, 0) := by
  rw [normalize_fixed_iff]
  refine ⟨?_, ?_, (Unicode.compose_recomposed s).eq_of_controls hs⟩
  · intro hmark
    exact absurd (hs 0xEF (hmark.subset (by decide))) (by decide)
  · intro hpair
    exact hreturn (hpair.subset (by decide))

end Normalize

theorem Disk.tooLarge_controls {d : Disk} {path s : Bytes} (hread : d.read path = .ok s)
    (hs : ∀ b ∈ s, b < 0x20) (hreturn : 13 ∉ s) (hlength : 4294967295 ≤ s.length) :
    d.TooLarge path := by
  refine .inl ⟨s, hread, ?_⟩
  rw [normalize_controls hs hreturn]
  unfold FitsOffsets
  dsimp only
  omega

namespace FileSet

variable {fs fs' : FileSet} {d : Disk} {path raw : Bytes} {f : File}

/-- What is loaded is the normal form of what is read. -/
theorem Loads.normalize_eq (h : fs.Loads d path fs' f) :
    ∃ raw, d.read path = .ok raw ∧ normalize raw = (f.content, f.flags) := by
  rcases fs.load_stores d path with ⟨-, e, herr⟩ | ⟨raw, hroom, hraw, hload⟩
  · rw [h.load] at herr
    cases herr
  · have hget := h.get
    rw [h.load] at hload
    obtain ⟨rfl, hid⟩ := Prod.mk.inj (Except.ok.inj hload)
    rw [get_eq_ok_iff, hid, files_stored, show fs.files.size.toUInt32.toNat = fs.files.size from
      Nat.mod_eq_of_lt hroom.1, Array.getElem?_push_size] at hget
    obtain rfl := Option.some.inj hget
    exact ⟨raw, hraw, rfl⟩

theorem loads_of_read (fs : FileSet) (hraw : d.read path = .ok raw)
    (hroom : fs.Admits (normalize raw).1) :
    ∃ fs' f, fs.Loads d path fs' f := by
  rcases fs.load_stores d path with ⟨hfull, -⟩ | ⟨raw', hroom', -, hload⟩
  · exact absurd hroom (hfull raw hraw)
  · obtain ⟨f, hf⟩ := loads_of_load hload
    exact ⟨_, f, hf⟩

/-- What is stored has a carriage return before a line feed where there were two, and a mark at its
front where there were two. It can be written back, and is then loaded as it is with no step to
make exactly when there were no two of either kind and it is composed. -/
theorem load_normal_iff (h : fs.Loads d path fs' f) :
    ∃ raw d', d.read path = .ok raw ∧ d.writeFile path f.content = .ok d' ∧
      ([13, 10] <:+: f.content ↔ [13, 13, 10] <:+: (dropMark raw).1) ∧
      (byteOrderMark <+: f.content ↔ byteOrderMark ++ byteOrderMark <+: raw) ∧
      ∀ again : FileSet, again.files.size < 0x100000000 →
        ((∃ again' g, again.Loads d' path again' g ∧ g.content = f.content ∧ g.flags = 0) ↔
          ¬[13, 13, 10] <:+: (dropMark raw).1 ∧ ¬byteOrderMark ++ byteOrderMark <+: raw ∧
            Unicode.compose f.content = f.content) := by
  obtain ⟨raw, hraw, hnormal⟩ := h.normalize_eq
  have hcontent : (normalize raw).1 = f.content := congrArg Prod.fst hnormal
  have hempty : raw = [] → f.content = [] := by
    rintro rfl
    rw [← hcontent]
    rfl
  obtain ⟨d', hwrite, hback⟩ := Disk.writeFile_back hraw hempty
  have hpair := pair_normalize_iff raw
  have hmark := mark_normalize_iff raw
  rw [hcontent] at hpair hmark
  refine ⟨raw, d', hraw, hwrite, hpair, hmark, ?_⟩
  intro again hroom
  have hfixed := normalize_fixed_iff f.content
  rw [hpair, hmark] at hfixed
  constructor
  · rintro ⟨again', g, hloads, hsame, hflags⟩
    obtain ⟨raw', hraw', hnormal'⟩ := hloads.normalize_eq
    rw [hback] at hraw'
    obtain rfl := Except.ok.inj hraw'
    rw [hsame, hflags] at hnormal'
    obtain ⟨hno, hnone, hcomp⟩ := hfixed.mp hnormal'
    exact ⟨hnone, hno, hcomp⟩
  · rintro ⟨hnone, hno, hcomp⟩
    have hstays := hfixed.mpr ⟨hno, hnone, hcomp⟩
    obtain ⟨again', g, hloads⟩ := again.loads_of_read hback
      (by rw [hstays]; exact ⟨hroom, f.fits⟩)
    obtain ⟨raw', hraw', hnormal'⟩ := hloads.normalize_eq
    rw [hback] at hraw'
    obtain rfl := Except.ok.inj hraw'
    obtain ⟨hsame, hflags⟩ := Prod.mk.inj (hnormal'.symm.trans hstays)
    exact ⟨again', g, hloads, hsame, hflags⟩

/-- A disk with one file. -/
def diskWith (content : Bytes) : Disk := ⟨.dir [("a.kj", .file content)], []⟩

theorem diskWith_loads (content stored : Bytes) (flags : FileFlags)
    (h : normalize content = (stored, flags)) (hfits : FitsOffsets stored) :
    ∃ fs' f, FileSet.Loads {} (diskWith content) "a.kj" fs' f ∧ f.content = stored ∧
      f.flags = flags := by
  have hread : (diskWith content).read "a.kj" = .ok content := rfl
  obtain ⟨fs', f, hloads⟩ := loads_of_read {} hread (by rw [h]; exact ⟨by decide, hfits⟩)
  obtain ⟨raw, hraw, hnormal⟩ := hloads.normalize_eq
  rw [hread] at hraw
  obtain rfl := Except.ok.inj hraw
  obtain ⟨hcontent, hflags⟩ := Prod.mk.inj (hnormal.symm.trans h)
  exact ⟨fs', f, hloads, hcontent, hflags⟩

theorem load_normal_iff_marked :
    ∃ fs' f, FileSet.Loads {} (diskWith (byteOrderMark ++ "a\r\r\nb")) "a.kj" fs' f ∧
      [13, 10] <:+: f.content ∧ ¬byteOrderMark <+: f.content ∧
      ∃ d', (diskWith (byteOrderMark ++ "a\r\r\nb")).writeFile "a.kj" f.content = .ok d' ∧
        ¬∃ again' g, FileSet.Loads {} d' "a.kj" again' g ∧ g.content = f.content ∧ g.flags = 0 := by
  obtain ⟨fs', f, hloads, hcontent, -⟩ :=
    diskWith_loads (byteOrderMark ++ "a\r\r\nb") "a\r\nb" 6 (by decide) (by decide)
  obtain ⟨raw, d', hraw, hwrite, hpair, hmark, hagain⟩ := load_normal_iff hloads
  obtain rfl : byteOrderMark ++ "a\r\r\nb" = raw := Except.ok.inj hraw
  have htwo : [13, 13, 10] <:+: (dropMark (byteOrderMark ++ "a\r\r\nb")).1 := by decide
  refine ⟨fs', f, hloads, hpair.mpr htwo, ?_, d', hwrite, ?_⟩
  · rw [hmark]
    decide
  · rw [hagain {} (by decide)]
    exact fun hnone => hnone.1 htwo

/-- Of two carriage returns before a line feed one is left there. -/
theorem load_keeps_return :
    ∃ fs' f, FileSet.Loads {} (diskWith [13, 13, 10]) "a.kj" fs' f ∧ f.content = [13, 10] ∧
      f.flags = FileFlags.normalizedLineEnds :=
  diskWith_loads _ _ _ (by decide) (by decide)

end FileSet

end FrontEnd
