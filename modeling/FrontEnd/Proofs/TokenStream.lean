import FrontEnd.Proofs.Scan

/-!
The stream of a file. The check of a token stream accepts exactly the lists whose spans lie in the
file in order and apart, whose texts are what the spans cover, and which end with the one end token;
every scan gives such a list.
-/
namespace FrontEnd

namespace Span

theorem isWithin_iff {s : Span} {size : UInt32} :
    s.isWithin size = true ↔ s.start ≤ s.stop ∧ s.stop ≤ size := by
  simp [isWithin]

theorem precedes_iff {s next : Span} :
    s.precedes next = true ↔ s.file = next.file ∧ s.stop ≤ next.start := by
  simp [precedes]

theorem isEmpty_iff {s : Span} (h : s.start ≤ s.stop) :
    s.isEmpty = true ↔ ¬ s.start < s.stop := by
  simp only [isEmpty, beq_iff_eq]
  grind

end Span

namespace Token

/-- A token other than the end that covers some of a file. -/
structure Covers (f : File) (t : Token) : Prop where
  kind_ne : t.kind ≠ .eof
  nonempty : t.span.start < t.span.stop
  text : TextOf t.kind t.text (f.cut t.span.start.toNat t.span.stop.toNat)

/-- A list of tokens that is a stream of a file. -/
structure IsStream (f : File) (ts : List Token) : Prop where
  within : ∀ t ∈ ts, t.span.file = f.id ∧ t.span.start ≤ t.span.stop ∧ t.span.stop ≤ f.size
  apart : ts.Pairwise fun a b => a.span.stop ≤ b.span.start
  ended : ∃ body last, ts = body ++ [last] ∧ last.kind = .eof ∧ ∀ t ∈ body, t.Covers f

theorem checkText_ok_iff (i : Nat) (t : Token) (source : Bytes) :
    checkText i t source = .ok () ↔ TextOf t.kind t.text source := by
  unfold checkText TextOf
  cases delimiter? t.kind with
  | none =>
    simp only [eq_comm]
    split <;> simp_all
  | some q =>
    simp only [List.isPrefixOf_iff_prefix]
    split <;> simp_all

theorem checkOne_ok_iff (f : File) (previous : Span) (i : Nat) (t : Token) (last : Bool) :
    checkOne f previous i t last = .ok () ↔
      (t.span.file = f.id ∧ t.span.start ≤ t.span.stop ∧ t.span.stop ≤ f.size) ∧
        (previous.file = t.span.file ∧ previous.stop ≤ t.span.start) ∧
        if last then t.kind = .eof else t.Covers f := by
  rw [← Span.isWithin_iff, ← Span.precedes_iff]
  unfold checkOne
  by_cases hfile : t.span.file = f.id
  case neg => simp [hfile]
  by_cases hw : t.span.isWithin f.size = true
  case neg => simp [hfile, hw]
  by_cases hp : previous.precedes t.span = true
  case neg => simp [hfile, hw, hp]
  simp only [hfile, hw, hp, ne_eq, not_true_eq_false, Bool.not_true, Bool.false_eq_true, if_false,
    and_self, true_and]
  cases last with
  | true => by_cases hk : t.kind = .eof <;> simp [hk]
  | false =>
    by_cases hk : t.kind = .eof
    · simp only [hk, if_true, Bool.false_eq_true, if_false, reduceCtorEq, false_iff]
      exact fun h => h.kind_ne hk
    by_cases he : t.span.isEmpty = true
    · simp only [hk, he, if_true, Bool.false_eq_true, if_false, reduceCtorEq, false_iff]
      exact fun h => (Span.isEmpty_iff (Span.isWithin_iff.mp hw).1).mp he h.nonempty
    · simp only [hk, he, Bool.false_eq_true, if_false, checkText_ok_iff]
      have hlt : t.span.start < t.span.stop :=
        Decidable.not_not.mp (mt (Span.isEmpty_iff (Span.isWithin_iff.mp hw).1).mpr he)
      exact ⟨fun h => ⟨hk, hlt, h⟩, fun h => h.text⟩

theorem checkFrom_cons (f : File) (previous : Span) (i : Nat) (t : Token) (ts : List Token) :
    checkFrom f previous i (t :: ts) = .ok () ↔
      checkOne f previous i t ts.isEmpty = .ok () ∧ checkFrom f t.span (i + 1) ts = .ok () := by
  rw [checkFrom]
  cases checkOne f previous i t ts.isEmpty with
  | error e => simp
  | ok u => simp

/-- The check of a list behind a span of the file, token by token. -/
theorem checkFrom_ok_iff {f : File} {previous : Span} (hp : previous.file = f.id) (i : Nat)
    {ts : List Token} (hts : ts ≠ []) :
    checkFrom f previous i ts = .ok () ↔
      IsStream f ts ∧ ∀ t ∈ ts, previous.stop ≤ t.span.start := by
  induction ts generalizing previous i with
  | nil => exact absurd rfl hts
  | cons t ts ih =>
    rw [checkFrom_cons, checkOne_ok_iff]
    cases ts with
    | nil =>
      simp only [List.isEmpty_nil, if_true, checkFrom, and_true]
      constructor
      · rintro ⟨hw, hb, hk⟩
        exact ⟨⟨by simpa using hw, by simp, [], t, rfl, hk, by simp⟩, by simpa using hb.2⟩
      · rintro ⟨hs, hb⟩
        obtain ⟨body, last, heq, hk, -⟩ := hs.ended
        have hnil : body = [] := by
          have := congrArg List.length heq
          simp only [List.length_append, List.length_cons, List.length_nil] at this
          exact List.length_eq_zero_iff.mp (by omega)
        subst hnil
        cases heq
        have hw := hs.within t (by simp)
        exact ⟨hw, ⟨hp.trans hw.1.symm, hb t (by simp)⟩, hk⟩
    | cons u us =>
      simp only [List.isEmpty_cons, Bool.false_eq_true, if_false]
      constructor
      · rintro ⟨⟨hw, hb, hc⟩, hrest⟩
        obtain ⟨hs, hafter⟩ := (ih hw.1 (i + 1) (by simp)).mp hrest
        obtain ⟨body, last, heq, hk, hbody⟩ := hs.ended
        refine ⟨⟨?_, ?_, t :: body, last, by rw [heq]; rfl, hk, ?_⟩, ?_⟩
        · simpa using ⟨hw, by simpa using hs.within⟩
        · exact List.pairwise_cons.mpr ⟨hafter, hs.apart⟩
        · simpa using ⟨hc, hbody⟩
        · intro x hx
          rcases List.mem_cons.mp hx with rfl | hx
          · exact hb.2
          · exact UInt32.le_trans hb.2 (UInt32.le_trans hw.2.1 (hafter x hx))
      · rintro ⟨hs, hb⟩
        have hw := hs.within t (by simp)
        obtain ⟨body, last, heq, hk, hbody⟩ := hs.ended
        cases body with
        | nil => simp at heq
        | cons v body =>
          simp only [List.cons_append, List.cons.injEq] at heq
          obtain ⟨rfl, heq⟩ := heq
          refine ⟨⟨hw, ⟨hp.trans hw.1.symm, hb t (by simp)⟩, hbody t (by simp)⟩, ?_⟩
          refine (ih hw.1 (i + 1) (by simp)).mpr ⟨⟨?_, ?_, ?_⟩, ?_⟩
          · exact fun x hx => hs.within x (by simp [hx])
          · exact hs.apart.of_cons
          · exact ⟨body, last, heq, hk, fun x hx => hbody x (by simp [hx])⟩
          · exact (List.pairwise_cons.mp hs.apart).1

/-- The check accepts the streams of a file and nothing else. -/
theorem checkStream_ok_iff (f : File) (ts : List Token) :
    checkStream f ts = .ok () ↔ IsStream f ts := by
  unfold checkStream
  cases ts with
  | nil =>
    simp only [List.isEmpty_nil, if_true, reduceCtorEq, false_iff]
    intro hs
    obtain ⟨body, last, heq, -⟩ := hs.ended
    simp at heq
  | cons t ts =>
    simp only [List.isEmpty_cons, Bool.false_eq_true, if_false]
    rw [checkFrom_ok_iff rfl 0 (by simp)]
    exact ⟨fun h => h.1, fun h => ⟨h, fun x _ => UInt32.zero_le⟩⟩

end Token

namespace File

/-- The offsets of a content and the one behind it are words. -/
theorem toNat_offset (f : File) {n : Nat} (h : n ≤ f.content.length) : n.toUInt32.toNat = n := by
  have hfits := f.fits
  unfold FitsOffsets at hfits
  simp only [Nat.toUInt32, UInt32.toNat_ofNat']
  omega

theorem offset_le (f : File) {m n : Nat} (hmn : m ≤ n) (hn : n ≤ f.content.length) :
    m.toUInt32 ≤ n.toUInt32 := by
  rw [UInt32.le_iff_toNat_le, f.toNat_offset (Nat.le_trans hmn hn), f.toNat_offset hn]
  exact hmn

theorem offset_lt (f : File) {m n : Nat} (hmn : m < n) (hn : n ≤ f.content.length) :
    m.toUInt32 < n.toUInt32 := by
  rw [UInt32.lt_iff_toNat_lt, f.toNat_offset (by omega), f.toNat_offset hn]
  exact hmn

theorem reading_within (f : File) : f.reading.Within f.content 0 :=
  Reading.ofText_within f.content (Nat.zero_le _)

theorem token_covers (f : File) {p : Placed} (hp : p ∈ f.reading.lexemes) :
    (p.token f.id).Covers f := by
  have hw := f.reading_within
  have hf := hw.fronts p hp
  have hpos := hf.size_pos
  have hstop : p.stop ≤ f.content.length := Nat.le_trans (hw.before p hp) hw.stop_le
  have hlt : p.off < p.stop := Nat.lt_add_of_pos_right hpos
  refine ⟨hf.kind_ne, f.offset_lt hlt hstop, ?_⟩
  change Token.TextOf p.lexeme.kind p.lexeme.text (f.cut p.off.toUInt32.toNat p.stop.toUInt32.toNat)
  have hsize : p.stop - p.off = p.lexeme.size := Nat.add_sub_cancel_left _ _
  rw [f.toNat_offset (by omega), f.toNat_offset hstop, File.cut, hsize]
  exact hf.text

/-- Every scan gives a stream of its file. -/
theorem stream_isStream (f : File) : Token.IsStream f f.stream := by
  have hw := f.reading_within
  have hstop : ∀ p ∈ f.reading.lexemes, p.stop ≤ f.content.length :=
    fun p hp => Nat.le_trans (hw.before p hp) hw.stop_le
  refine ⟨?_, ?_, ?_⟩
  · intro t ht
    rcases List.mem_append.mp ht with ht | ht
    · obtain ⟨p, hp, rfl⟩ := List.mem_map.mp ht
      exact ⟨rfl, f.offset_le (Nat.le_add_right _ _) (hstop p hp),
        f.offset_le (hstop p hp) (Nat.le_refl _)⟩
    · rw [List.mem_singleton.mp ht]
      exact ⟨rfl, UInt32.le_refl _, f.offset_le hw.stop_le (Nat.le_refl _)⟩
  · refine List.pairwise_append.mpr ⟨?_, by simp, ?_⟩
    · refine List.pairwise_map.mpr (hw.apart.imp_of_mem ?_)
      intro p q _ hq hpq
      have := hstop q hq
      exact f.offset_le hpq (Nat.le_trans (Nat.le_add_right _ _) this)
    · intro t ht e he
      obtain ⟨p, hp, rfl⟩ := List.mem_map.mp ht
      rw [List.mem_singleton.mp he]
      exact f.offset_le (hw.before p hp) hw.stop_le
  · refine ⟨_, _, rfl, rfl, ?_⟩
    intro t ht
    obtain ⟨p, hp, rfl⟩ := List.mem_map.mp ht
    exact f.token_covers hp

end File

end FrontEnd
